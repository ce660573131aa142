import DjangoOps.ControlPlane.WebViews

namespace DjangoOps
namespace ControlPlane
namespace Web

universe u

/-!
# The ecosystem of a project

The view evaluates the integrations of a document one after another.  All of
them are answered in their order, or the first one that is late ends the view.
-/

variable {Number : Type u} {Other : Type}

/-- What a member is answered about an integration.  The summary of one that is ready
keeps the bounds of the definition that its name and version resolve to. -/
structure Answers (python : Cli.Python Other) (slug : String) (integration : Cli.IntegrationConfig)
    (result : Cli.IntegrationResult) : Prop where
  name : result.name = integration.name
  version : result.version = integration.version
  capabilities : result.capabilities = integration.capabilities
  disabled : integration.enabled = false -> result.status = "disabled" ∧ result.summary = []
  ready : integration.enabled = true -> result.status = "ready" ∧
    Exists fun definition : Cli.IntegrationDefinition =>
      Cli.resolve integration.name integration.version = .ok definition ∧
        Cli.Summarised python integration definition slug result.summary

/-- Every enabled integration is evaluated within the default budget. -/
def Timely (clock : Nat -> Nat) (index : Nat) (integrations : List Cli.IntegrationConfig) : Prop :=
  forall offset integration, integrations[offset]? = some integration ->
    integration.enabled = true -> clock (index + offset) ≤ 100000000

theorem timely_cons {clock : Nat -> Nat} {index : Nat} {integration : Cli.IntegrationConfig}
    {rest : List Cli.IntegrationConfig} :
    Timely clock index (integration :: rest) <->
      (integration.enabled = true -> clock index ≤ 100000000) ∧ Timely clock (index + 1) rest := by
  have shift : forall offset, index + (offset + 1) = index + 1 + offset := by
    intro offset
    omega
  constructor
  · intro timely
    refine ⟨timely 0 integration rfl, fun offset other found enabled => ?_⟩
    have later := timely (offset + 1) other found enabled
    rwa [shift] at later
  · rintro ⟨first, later⟩ offset other found enabled
    cases offset with
    | zero =>
        cases Option.some.inj found
        exact first enabled
    | succ offset =>
        rw [shift]
        exact later offset other found enabled

section Evaluation

variable {python : Cli.Python Other} {slug : String} {clock : Nat -> Nat}

/-- One integration in time. -/
theorem answers_of_evaluated {integration : Cli.IntegrationConfig} {elapsed : Nat}
    {outcome : Except Cli.EvaluationError Cli.IntegrationResult}
    (evaluated : Cli.Evaluated python integration slug 100 elapsed outcome)
    (timely : integration.enabled = true -> elapsed ≤ 100000000) :
    Exists fun result : Cli.IntegrationResult =>
      outcome = .ok result ∧ Answers python slug integration result := by
  cases enabled : integration.enabled with
  | false =>
      refine ⟨_, evaluated.disabled (by decide) (by decide) enabled, rfl, rfl, rfl,
        fun _ => ⟨rfl, rfl⟩, fun impossible => ?_⟩
      rw [enabled] at impossible
      cases impossible
  | true =>
      have early : (elapsed : Int) ≤ 100 * 1000000 := by
        have small := timely enabled
        omega
      rcases evaluated.ready (by decide) (by decide) enabled early with
        ⟨summary, definition, resolved, answered, summarised⟩
      refine ⟨_, answered, rfl, rfl, rfl, fun impossible => ?_, fun _ => ⟨rfl, definition,
        resolved, summarised⟩⟩
      rw [enabled] at impossible
      cases impossible

/-- The evaluations in their order, or the time-out of the first that is late. -/
theorem evaluateAll_parsed (short : slug.length ≤ 64) {integrations : List Cli.IntegrationConfig}
    (parsed : forall integration, integration ∈ integrations ->
      Exists fun definition : Cli.IntegrationDefinition =>
        Cli.Parsed python integration definition) (index : Nat) :
    (Timely clock index integrations -> Exists fun results : List Cli.IntegrationResult =>
      evaluateAll slug clock index integrations = .ok results ∧
        List.Forall₂ (Answers python slug) integrations results) ∧
    (Not (Timely clock index integrations) -> Exists fun message : String =>
      evaluateAll slug clock index integrations =
        .error (Cli.integrationError "TIMEOUT" message)) := by
  induction integrations generalizing index with
  | nil =>
      refine ⟨fun _ => ⟨[], rfl, .nil⟩, fun late => (late fun offset other found => ?_).elim⟩
      cases found
  | cons integration rest inductionHypothesis =>
      rcases parsed integration List.mem_cons_self with ⟨definition, known⟩
      have evaluated := Cli.evaluated_parsed known short 100 (clock index)
      rcases inductionHypothesis (fun other listed => parsed other (List.mem_cons_of_mem _ listed))
        (index + 1) with ⟨onTime, late⟩
      by_cases early : integration.enabled = true -> clock index ≤ 100000000
      · rcases answers_of_evaluated evaluated early with ⟨result, first, answers⟩
        refine ⟨fun timely => ?_, fun untimely => ?_⟩
        · rcases onTime (timely_cons.mp timely).2 with ⟨results, others, each⟩
          refine ⟨result :: results, ?_, .cons answers each⟩
          rw [evaluateAll, first]
          change Except.bind (evaluateAll slug clock (index + 1) rest) _ = _
          rw [others]
          rfl
        · rcases late fun later => untimely (timely_cons.mpr ⟨early, later⟩) with ⟨message, failed⟩
          refine ⟨message, ?_⟩
          rw [evaluateAll, first]
          change Except.bind (evaluateAll slug clock (index + 1) rest) _ = _
          rw [failed]
          rfl
      · refine ⟨fun timely => absurd (timely_cons.mp timely).1 early, fun _ => ?_⟩
        rw [Classical.not_imp, Nat.not_le] at early
        have failed := evaluated.late (by decide) (by decide) early.1 (by omega)
        refine ⟨integration.name ++ " integration exceeded its execution budget", ?_⟩
        rw [evaluateAll, failed]
        rfl

end Evaluation

/-- A member whose document is accepted is answered about every integration in
the order of the document, or told of a time-out when an enabled one was late;
no other reply is possible.  What is said of an integration that is ready is
computed from the definition that its name and version resolve to. -/
theorem ecosystem_answers (setting : Setting Number Other) (database : Database)
    (user project : Nat) (row : Project) (found : memberProject database user project = .ok row)
    (short : row.slug.length ≤ 64) (members : List (Yaml Other × Yaml Other))
    (integrations : List Cli.IntegrationConfig)
    (accepted : Cli.parseIntegrations setting.python
      ((Yaml.get "integrations" members).getD (.list [])) = .ok integrations)
    (clock : Nat -> Nat) :
    (Timely clock 0 integrations -> Exists fun results : List Cli.IntegrationResult =>
      ecosystemProject setting database user .post project (.value (.dict members)) clock =
          .replied (.evaluated results) ∧
        List.Forall₂ (Answers setting.python row.slug) integrations results) ∧
    (Not (Timely clock 0 integrations) ->
      ecosystemProject setting database user .post project (.value (.dict members)) clock =
        .replied (.invalid "TIMEOUT")) := by
  rcases Cli.parsed_parseIntegrations accepted with ⟨_, each⟩
  rcases @evaluateAll_parsed _ setting.python row.slug clock short integrations each 0 with
    ⟨onTime, late⟩
  unfold ecosystemProject evaluateProjectIntegrations
  rw [if_neg (by decide), found]
  dsimp only
  rw [accepted]
  dsimp only [orNotFound]
  constructor
  · intro timely
    rcases onTime timely with ⟨results, evaluated, answers⟩
    rw [evaluated]
    exact ⟨results, rfl, answers⟩
  · intro untimely
    rcases late untimely with ⟨message, failed⟩
    rw [failed]
    rfl

/-- The sample integration is answered for a member of the sample project. -/
theorem ecosystem_answers_sample :
    Exists fun results : List Cli.IntegrationResult =>
      ecosystemProject (⟨Console.sampleSetting, Cli.samplePython, false, false⟩ : Setting Int Empty)
        Console.sampleDatabase 7 .post 1 (.value (.dict (Yaml.record [("integrations",
          .list (Cli.sampleIntegrations.map Cli.IntegrationConfig.toMapping))]))) (fun _ => 0) =
        .replied (.evaluated results) ∧ results.length = 1 := by
  have accepted := Cli.parseIntegrations_again Cli.sampleIntegrations_parsed
  have answered := ecosystem_answers
    (⟨Console.sampleSetting, Cli.samplePython, false, false⟩ : Setting Int Empty)
    Console.sampleDatabase 7 1 ⟨1, "shop", "Shop", "current", [7]⟩ rfl (by decide)
    (Yaml.record [("integrations",
      .list (Cli.sampleIntegrations.map Cli.IntegrationConfig.toMapping))])
    Cli.sampleIntegrations accepted (fun _ => 0)
  rcases answered.1 (fun _ _ _ _ => Nat.zero_le _) with ⟨results, replied, each⟩
  exact ⟨results, replied, each.length_eq.symm⟩

end Web
end ControlPlane
end DjangoOps
