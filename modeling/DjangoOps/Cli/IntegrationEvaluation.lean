import DjangoOps.Cli.ConfigUpgrade
import DjangoOps.Foundation.Table

namespace DjangoOps
namespace Cli

/-!
# The registry and the evaluation of integrations

A registry is made of definitions with distinct, safe names, and looks one up by
its name and version.  The evaluation of an integration copies its settled
configuration into a summary.

What has been parsed always evaluates: between the parser and the evaluation no
check is left that can fail, apart from the budget of time.
-/

/-! ## The registry -/

/-- `_SAFE_NAME_RE.fullmatch` -/
def matchesSafeName (text : List Char) : Bool :=
  matchesRun Char.isLower (fun char => char.isLower || char.isDigit || char == '-') 47 text

/-- The registered integrations, each under a name of its own. -/
structure IntegrationRegistry where
  registered : List IntegrationDefinition
  distinct : (registered.map IntegrationDefinition.name).Nodup
  safe : forall definition, definition ∈ registered ->
    matchesSafeName definition.name.toList = true

namespace IntegrationRegistry

def empty : IntegrationRegistry where
  registered := []
  distinct := List.nodup_nil
  safe := fun _ listed => absurd listed List.not_mem_nil

/-- One round of the loop of `__init__`. -/
def register (registry : IntegrationRegistry) (definition : IntegrationDefinition) :
    Except ConfigError IntegrationRegistry :=
  if taken : definition.name ∈ registry.registered.map IntegrationDefinition.name then
    .error (.integrationError "DUPLICATE_REGISTRATION"
      ("duplicate integration registration: " ++ definition.name))
  else if named : matchesSafeName definition.name.toList = true then
    .ok
      { registered := registry.registered ++ [definition]
        distinct := by
          rw [List.map_append, List.nodup_append_comm]
          exact List.nodup_cons.mpr ⟨taken, registry.distinct⟩
        safe := by
          intro other listed
          rcases List.mem_append.mp listed with old | new
          · exact registry.safe other old
          · rw [List.mem_singleton.mp new]
            exact named }
  else .error (.integrationError "INVALID_REGISTRATION" "integration name is invalid")

/-- `IntegrationRegistry.__init__` -/
def make (definitions : List IntegrationDefinition) : Except ConfigError IntegrationRegistry :=
  definitions.foldlM register empty

variable (registry : IntegrationRegistry)

/-- `IntegrationRegistry.definitions` -/
def definitions : List IntegrationDefinition :=
  registry.registered.insertionSort fun left right => left.name ≤ right.name

/-- `IntegrationRegistry.resolve` -/
def resolve (name version : String) : Except ConfigError IntegrationDefinition :=
  match registry.registered.find? fun definition => decide (definition.name = name) with
  | none => .error (.integrationError "UNKNOWN_INTEGRATION" ("unknown integration: " ++ name))
  | some definition =>
      if version ∈ definition.versions then .ok definition
      else
        .error (.integrationError "UNSUPPORTED_VERSION"
          ("unsupported " ++ name ++ " integration version: " ++ version))

theorem register_ok {registry next : IntegrationRegistry} {definition : IntegrationDefinition}
    (registered : registry.register definition = .ok next) :
    next.registered = registry.registered ++ [definition] := by
  unfold register at registered
  split at registered
  · cases registered
  · split at registered
    · rw [← Except.ok.inj registered]
    · cases registered

theorem foldlM_register {definitions : List IntegrationDefinition}
    {registry last : IntegrationRegistry}
    (made : definitions.foldlM register registry = .ok last) :
    last.registered = registry.registered ++ definitions := by
  induction definitions generalizing registry with
  | nil =>
      cases Except.ok.inj made
      exact (List.append_nil _).symm
  | cons definition rest inductionHypothesis =>
      rw [List.foldlM_cons] at made
      rcases bind_ok made with ⟨next, first, later⟩
      rw [inductionHypothesis later, register_ok first, List.append_assoc]
      rfl

/-- A registry that is made holds the definitions it was given. -/
theorem make_ok {definitions : List IntegrationDefinition} {registry : IntegrationRegistry}
    (made : make definitions = .ok registry) : registry.registered = definitions :=
  foldlM_register made

/-- A definition is found exactly by its own name and one of its versions. -/
theorem resolve_iff {registry : IntegrationRegistry} {name version : String}
    {definition : IntegrationDefinition} :
    registry.resolve name version = .ok definition <->
      definition ∈ registry.definitions ∧ definition.name = name ∧
        version ∈ definition.versions := by
  unfold resolve definitions
  rw [List.mem_insertionSort]
  constructor
  · intro resolved
    split at resolved
    · cases resolved
    · rename_i listed found
      split at resolved
      · rename_i supported
        have named := List.find?_some found
        cases Except.ok.inj resolved
        exact ⟨List.mem_of_find?_eq_some found, of_decide_eq_true named, supported⟩
      · cases resolved
  · rintro ⟨listed, rfl, supported⟩
    have found := Table.find?_of_nodup registry.distinct listed
    rw [found]
    exact if_pos supported

end IntegrationRegistry

/-- The built-in definitions make a registry, and it resolves as the parser does. -/
theorem builtin_registry : Exists fun registry : IntegrationRegistry =>
    IntegrationRegistry.make builtinRegistry = .ok registry ∧
      forall name version, registry.resolve name version = resolve name version := by
  have accepted : (IntegrationRegistry.make builtinRegistry).isOk = true := by decide +kernel
  cases made : IntegrationRegistry.make builtinRegistry with
  | error error =>
      rw [made] at accepted
      cases accepted
  | ok registry =>
      have listed := IntegrationRegistry.make_ok made
      cases registry
      subst listed
      exact ⟨_, rfl, fun _ _ => rfl⟩

/-! ## The evaluation -/

def maxResultFields : Nat := 16
def maxResultValueChars : Nat := 256
def maxBudgetMs : Int := 1000

structure IntegrationResult where
  name : String
  version : String
  status : String
  capabilities : List String
  summary : List (String × String)
  deriving DecidableEq

/-- What the evaluation raises: an `IntegrationError`, or a `KeyError` of a
configuration that was not validated. -/
inductive EvaluationError
  | integration (error : ConfigError)
  | keyError (key : String)
  deriving DecidableEq

def integrationError (code message : String) : EvaluationError :=
  .integration (.integrationError code message)

/-- The entries of a mapping, one by one, up to the first that is refused. -/
def collectBounded (refuse : String × String -> Option EvaluationError) :
    List (String × String) -> List (String × String) ->
      Except EvaluationError (List (String × String))
  | [], result => .ok result
  | entry :: rest, result =>
      match refuse entry with
      | some error => .error error
      | none => collectBounded refuse rest (Dictionary.set entry.1 entry.2 result)

/-- `_validate_context` -/
def validateContext (context : List (String × String)) :
    Except EvaluationError (List (String × String)) :=
  if maxConfigFields < context.length then
    .error (integrationError "LIMIT_EXCEEDED" "integration context has too many fields")
  else
    collectBounded (fun entry =>
      if isSecretKey entry.1 then
        some (integrationError "SECRET_REJECTED" "secret-bearing integration context is forbidden")
      else if 64 < entry.1.length ∨ maxConfigValueChars < entry.2.length then
        some (integrationError "LIMIT_EXCEEDED" "integration context field exceeds bounds")
      else none) context []

/-- `_bounded_result` -/
def boundedResult (value : List (String × String)) :
    Except EvaluationError (List (String × String)) :=
  if maxResultFields < value.length then
    .error (integrationError "LIMIT_EXCEEDED" "integration result has too many fields")
  else
    collectBounded (fun entry =>
      if isSecretKey entry.1 = true ∨ 64 < entry.1.length ∨
          maxResultValueChars < entry.2.length then
        some (integrationError "RESULT_REJECTED" "integration result violates safety bounds")
      else none) value []

/-- `config[key]` -/
def configItem (key : String) (config : List (String × String)) : Except EvaluationError String :=
  match Dictionary.get key config with
  | none => .error (.keyError key)
  | some text => .ok text

/-- The two values of a configuration between the kind and the project. -/
def summarise (kind first second : String) (config context : List (String × String)) :
    Except EvaluationError (List (String × String)) := do
  let one <- configItem first config
  let two <- configItem second config
  .ok [("kind", kind), (first, one), (second, two),
    ("project", (Dictionary.get "project" context).getD "unknown")]

/-- `_django_runtime_summary` -/
def djangoRuntimeSummary : List (String × String) -> List (String × String) ->
    Except EvaluationError (List (String × String)) :=
  summarise "django-runtime" "health_path" "metadata_label"

/-- `_otlp_export_summary` -/
def otlpExportSummary : List (String × String) -> List (String × String) ->
    Except EvaluationError (List (String × String)) :=
  summarise "otlp-export" "endpoint" "service_namespace"

/-- The dispatcher of `evaluate_integration`. -/
def summaryOf (integration : IntegrationConfig) (context : List (String × String)) :
    Except EvaluationError (List (String × String)) :=
  if integration.name = "django-runtime" then djangoRuntimeSummary integration.config context
  else if integration.name = "otlp-export" then otlpExportSummary integration.config context
  else
    .error (integrationError "UNKNOWN_INTEGRATION" ("unknown integration: " ++ integration.name))

/-- `evaluate_integration`; the time that the evaluation takes is measured in
nanoseconds. -/
def evaluateIntegration (integration : IntegrationConfig) (context : List (String × String))
    (budgetMs : Int) (elapsed : Nat) : Except EvaluationError IntegrationResult :=
  if budgetMs < 1 ∨ maxBudgetMs < budgetMs then
    .error (integrationError "INVALID_BUDGET"
      ("budget_ms must be between 1 and " ++ toString maxBudgetMs))
  else if integration.enabled = false then
    .ok ⟨integration.name, integration.version, "disabled", integration.capabilities, []⟩
  else do
    let definition <- (resolve integration.name integration.version).mapError .integration
    if integration.capabilities.any fun name =>
        decide (name ∉ definition.capabilities.map IntegrationCapability.value) then
      .error (integrationError "UNSUPPORTED_CAPABILITY"
        "configured capabilities no longer match registry")
    else do
      let context <- validateContext context
      let summary <- summaryOf integration context
      if budgetMs * 1000000 < elapsed then
        .error (integrationError "TIMEOUT"
          (integration.name ++ " integration exceeded its execution budget"))
      else do
        let bounded <- boundedResult summary
        .ok ⟨integration.name, integration.version, "ready", integration.capabilities, bounded⟩

/-! ## What the parser leaves -/

/-- What is known of an integration that was parsed. -/
structure Parsed (python : Python Other) (integration : IntegrationConfig)
    (definition : IntegrationDefinition) : Prop where
  resolved : resolve integration.name integration.version = .ok definition
  supported : forall name, name ∈ integration.capabilities ->
    name ∈ definition.capabilities.map IntegrationCapability.value
  settled : Settled definition integration.config
  finished : finishConfig python definition.name integration.config = .ok integration.config

theorem supported_parseCapabilities {definition : IntegrationDefinition} {index : Nat}
    {value : Yaml Other} {capabilities : List String}
    (parsed : parseCapabilities definition index value = .ok capabilities) :
    forall name, name ∈ capabilities ->
      name ∈ definition.capabilities.map IntegrationCapability.value := by
  unfold parseCapabilities at parsed
  split at parsed
  · cases parsed
  · dsimp only at parsed
    split at parsed
    · split at parsed
      · cases parsed
      · rename_i familiar
        cases Except.ok.inj parsed
        intro name requested
        apply Decidable.byContradiction
        intro foreign
        exact familiar (List.any_eq_true.mpr ⟨name, requested, decide_eq_true foreign⟩)
    · cases parsed

theorem parsed_of_parseEntry {python : Python Other} {index : Nat} {seen : List String}
    {raw : Yaml Other} {integration : IntegrationConfig}
    (entry : parseEntry python index seen raw = .ok integration) :
    Exists fun definition : IntegrationDefinition => Parsed python integration definition := by
  rcases parseEntry_ok entry with ⟨definition, _, resolved, ⟨_, supported⟩, ⟨_, validated⟩⟩
  rcases validateConfig_ok validated with ⟨collected, _, finished⟩
  exact ⟨definition, resolved, supported_parseCapabilities supported,
    settled_validateConfig (mem_of_resolve resolved) validated, finishConfig_again finished⟩

/-- Integrations that were parsed have distinct names. -/
theorem parsed_parseEntries {python : Python Other} {elements : List (Yaml Other)} {index : Nat}
    {seen : List String} {integrations : List IntegrationConfig}
    (entries : parseEntries python index seen elements = .ok integrations) :
    (integrations.map IntegrationConfig.name).Nodup ∧
      forall integration, integration ∈ integrations -> integration.name ∉ seen ∧
        Exists fun definition : IntegrationDefinition =>
          Parsed python integration definition := by
  induction elements generalizing index seen integrations with
  | nil =>
      cases Except.ok.inj entries
      exact ⟨List.nodup_nil, fun _ listed => absurd listed List.not_mem_nil⟩
  | cons raw rest inductionHypothesis =>
      rcases bind_ok entries with ⟨integration, first, entries⟩
      rcases bind_ok entries with ⟨others, later, both⟩
      cases Except.ok.inj both
      rcases inductionHypothesis later with ⟨distinct, each⟩
      constructor
      · refine List.nodup_cons.mpr ⟨fun again => ?_, distinct⟩
        rcases List.mem_map.mp again with ⟨other, listed, same⟩
        exact (each other listed).1 (same ▸ List.mem_cons_self)
      · intro other listed
        rcases List.mem_cons.mp listed with rfl | behind
        · rcases parseEntry_ok first with ⟨_, unseen, _⟩
          exact ⟨unseen, parsed_of_parseEntry first⟩
        · rcases each other behind with ⟨unseen, known⟩
          exact ⟨fun old => unseen (List.mem_cons_of_mem _ old), known⟩

theorem parsed_parseIntegrations {python : Python Other} {value : Yaml Other}
    {integrations : List IntegrationConfig}
    (parsed : parseIntegrations python value = .ok integrations) :
    (integrations.map IntegrationConfig.name).Nodup ∧
      forall integration, integration ∈ integrations ->
        Exists fun definition : IntegrationDefinition =>
          Parsed python integration definition := by
  cases value with
  | null =>
      cases Except.ok.inj parsed
      exact ⟨List.nodup_nil, fun _ listed => absurd listed List.not_mem_nil⟩
  | list elements =>
      rw [parseIntegrations] at parsed
      split at parsed
      · cases parsed
      · rcases parsed_parseEntries parsed with ⟨distinct, each⟩
        exact ⟨distinct, fun integration listed => (each integration listed).2⟩
  | _ => cases parsed

/-- The values of a finished `django-runtime`. -/
theorem finished_runtime {python : Python Other} {validated final : List (String × String)}
    (finished : finishConfig python "django-runtime" validated = .ok final) :
    Exists fun path : String => Exists fun label : String =>
      Dictionary.get "health_path" final = some path ∧
        Dictionary.get "metadata_label" final = some label ∧
        (matchesHealthPath path.toList && !contains "..".toList path.toList) = true ∧
        matchesNamespace label.toList = true := by
  unfold finishConfig at finished
  rw [if_pos rfl] at finished
  rcases bind_ok finished with ⟨middle, first, second⟩
  rcases settle_ok first with ⟨path, _, safePath, rfl⟩
  rcases settle_ok second with ⟨label, _, safeLabel, rfl⟩
  refine ⟨path, label, ?_, Dictionary.get_set_self _ _ _, safePath, safeLabel⟩
  rw [Dictionary.get_set_ne (by decide : "health_path" ≠ "metadata_label")]
  exact Dictionary.get_set_self _ _ _

/-- The values of a finished `otlp-export`. -/
theorem finished_exporter {python : Python Other} {validated final : List (String × String)}
    (finished : finishConfig python "otlp-export" validated = .ok final) :
    Exists fun endpoint : String => Exists fun label : String =>
      Dictionary.get "endpoint" final = some endpoint ∧
        Dictionary.get "service_namespace" final = some label ∧
        validateEndpoint python endpoint = .ok endpoint ∧
        matchesNamespace label.toList = true := by
  unfold finishConfig at finished
  rw [if_neg (by decide), if_pos rfl] at finished
  split at finished
  · cases finished
  · rcases bind_ok finished with ⟨endpoint, valid, second⟩
    rcases settle_ok second with ⟨label, _, safeLabel, rfl⟩
    refine ⟨endpoint, label, ?_, Dictionary.get_set_self _ _ _, validateEndpoint_again valid,
      safeLabel⟩
    rw [Dictionary.get_set_ne (by decide : "endpoint" ≠ "service_namespace")]
    exact Dictionary.get_set_self _ _ _

/-! ## What the evaluation answers -/

/-- Entries with distinct keys of which none is refused are collected as they
are. -/
theorem collectBounded_ok {refuse : String × String -> Option EvaluationError}
    {entries : List (String × String)} (distinct : (entries.map Prod.fst).Nodup)
    (fine : forall entry, entry ∈ entries -> refuse entry = none) :
    collectBounded refuse entries [] = .ok entries := by
  have collects : forall made, collectBounded refuse entries made =
      .ok (entries.foldl (fun made entry => Dictionary.set entry.1 entry.2 made) made) := by
    clear distinct
    induction entries with
    | nil => exact fun _ => rfl
    | cons entry rest inductionHypothesis =>
        intro made
        rw [collectBounded, fine entry List.mem_cons_self]
        exact inductionHypothesis (fun other listed => fine other (List.mem_cons_of_mem _ listed)) _
  rw [collects, Dictionary.foldl_set_of_nodup (by simpa only [List.nil_append] using distinct)]
  rfl

/-- The bounds on an entry of a summary. -/
structure Bounded (entry : String × String) : Prop where
  plain : isSecretKey entry.1 = false
  key : entry.1.length ≤ 64
  value : entry.2.length ≤ maxResultValueChars

theorem validateContext_ok {context : List (String × String)}
    (distinct : (context.map Prod.fst).Nodup) (few : context.length ≤ maxConfigFields)
    (bounded : forall entry, entry ∈ context -> Bounded entry) :
    validateContext context = .ok context := by
  unfold validateContext
  rw [if_neg (Nat.not_lt.mpr few)]
  refine collectBounded_ok distinct fun entry listed => ?_
  rcases bounded entry listed with ⟨plain, key, value⟩
  rw [if_neg (plain ▸ Bool.false_ne_true), if_neg]
  exact not_or.mpr ⟨Nat.not_lt.mpr key, Nat.not_lt.mpr value⟩

theorem boundedResult_ok {summary : List (String × String)}
    (distinct : (summary.map Prod.fst).Nodup) (few : summary.length ≤ maxResultFields)
    (bounded : forall entry, entry ∈ summary -> Bounded entry) :
    boundedResult summary = .ok summary := by
  unfold boundedResult
  rw [if_neg (Nat.not_lt.mpr few)]
  refine collectBounded_ok distinct fun entry listed => ?_
  rcases bounded entry listed with ⟨plain, key, value⟩
  rw [if_neg]
  exact not_or.mpr ⟨plain ▸ Bool.false_ne_true,
    not_or.mpr ⟨Nat.not_lt.mpr key, Nat.not_lt.mpr value⟩⟩

/-- The summary of a parsed integration: its kind, its settings as they were
validated, and the project. -/
structure Summarised (python : Python Other) (integration : IntegrationConfig)
    (definition : IntegrationDefinition) (project : String) (summary : List (String × String)) :
    Prop where
  keys : summary.map Prod.fst = "kind" :: (definition.configKeys ++ ["project"])
  kind : ("kind", integration.name) ∈ summary
  project : ("project", project) ∈ summary
  settings : forall key, key ∈ definition.configKeys -> Exists fun text : String =>
    Dictionary.get key integration.config = some text ∧ (key, text) ∈ summary
  bounded : forall entry, entry ∈ summary -> Bounded entry
  path : forall text, ("health_path", text) ∈ summary ->
    (matchesHealthPath text.toList && !contains "..".toList text.toList) = true
  label : forall key text, key = "metadata_label" ∨ key = "service_namespace" ->
    (key, text) ∈ summary -> matchesNamespace text.toList = true
  endpoint : forall text, ("endpoint", text) ∈ summary ->
    validateEndpoint python text = .ok text

/-- The name under which a definition is found is its own. -/
theorem name_of_resolve {name version : String} {definition : IntegrationDefinition}
    (resolved : resolve name version = .ok definition) : definition.name = name := by
  rcases builtin_registry with ⟨registry, _, same⟩
  rw [← same] at resolved
  exact (IntegrationRegistry.resolve_iff.mp resolved).2.1

theorem summarise_ok {kind first second one two : String} {config context : List (String × String)}
    (foundOne : Dictionary.get first config = some one)
    (foundTwo : Dictionary.get second config = some two) :
    summarise kind first second config context =
      .ok [("kind", kind), (first, one), (second, two),
        ("project", (Dictionary.get "project" context).getD "unknown")] := by
  unfold summarise configItem
  rw [foundOne, foundTwo]
  rfl

section Summaries

variable {python : Python Other} {integration : IntegrationConfig}
  {definition : IntegrationDefinition} {project : String}

/-- The keys of a summary. -/
def summaryKeys (first second : String) : List String := ["kind", first, second, "project"]

/-- The entries of a summary of settled values keep the bounds. -/
theorem bounded_summary {kind first second one two : String}
    (settled : Settled definition integration.config)
    (own : forall key, key ∈ summaryKeys first second ->
      isSecretKey key = false ∧ key.length ≤ 64)
    (kindShort : kind.length ≤ maxResultValueChars)
    (projectShort : project.length ≤ maxResultValueChars)
    (foundOne : Dictionary.get first integration.config = some one)
    (foundTwo : Dictionary.get second integration.config = some two) :
    forall entry, entry ∈ [("kind", kind), (first, one), (second, two), ("project", project)] ->
      Bounded entry := by
  have shortOne := settled.short _ (Dictionary.mem_of_get foundOne)
  have shortTwo := settled.short _ (Dictionary.mem_of_get foundTwo)
  intro entry listed
  simp only [summaryKeys, List.mem_cons, List.not_mem_nil, or_false] at listed own
  rcases listed with rfl | rfl | rfl | rfl
  · exact ⟨(own _ (Or.inl rfl)).1, (own _ (Or.inl rfl)).2, kindShort⟩
  · exact ⟨(own _ (Or.inr (Or.inl rfl))).1, (own _ (Or.inr (Or.inl rfl))).2, shortOne⟩
  · exact ⟨(own _ (Or.inr (Or.inr (Or.inl rfl)))).1, (own _ (Or.inr (Or.inr (Or.inl rfl)))).2,
      shortTwo⟩
  · exact ⟨(own _ (Or.inr (Or.inr (Or.inr rfl)))).1, (own _ (Or.inr (Or.inr (Or.inr rfl)))).2,
      projectShort⟩

/-- A key stands for one value only. -/
theorem value_unique {keys : List String} {summary : List (String × String)}
    {key text other : String} (distinct : keys.Nodup) (first : (key, text) ∈ summary)
    (second : (key, other) ∈ summary) (named : summary.map Prod.fst = keys) : text = other := by
  rw [← named] at distinct
  have found := Dictionary.get_of_mem distinct first
  rw [Dictionary.get_of_mem distinct second] at found
  exact (Option.some.inj found).symm

theorem unlisted {keys : List String} {summary : List (String × String)} {key text : String}
    (absent : key ∉ keys) (listed : (key, text) ∈ summary)
    (named : summary.map Prod.fst = keys) : False := by
  have inner : key ∈ summary.map Prod.fst := List.mem_map.mpr ⟨(key, text), listed, rfl⟩
  exact absent (named ▸ inner)

theorem summary_runtime (parsed : Parsed python integration definition)
    (runtime : definition.name = "django-runtime")
    (keys : definition.configKeys = ["health_path", "metadata_label"])
    (short : project.length ≤ maxResultValueChars) :
    Exists fun summary : List (String × String) =>
      summaryOf integration [("project", project)] = .ok summary ∧
        Summarised python integration definition project summary := by
  have named := name_of_resolve parsed.resolved
  have finished := parsed.finished
  rw [runtime] at finished
  rcases finished_runtime finished with ⟨path, label, foundPath, foundLabel, safePath, safeLabel⟩
  have distinct : (summaryKeys "health_path" "metadata_label").Nodup := by decide
  refine ⟨[("kind", "django-runtime"), ("health_path", path), ("metadata_label", label),
    ("project", project)], ?_, ?_⟩
  · unfold summaryOf djangoRuntimeSummary
    rw [if_pos (named.symm.trans runtime), summarise_ok foundPath foundLabel]
    rfl
  · refine ⟨by rw [keys]; rfl, ?_, by simp, ?_, ?_, ?_, ?_, ?_⟩
    · rw [← named, runtime]
      exact List.mem_cons_self
    · intro key listed
      rw [keys, List.mem_cons, List.mem_singleton] at listed
      rcases listed with rfl | rfl
      · exact ⟨path, foundPath, by simp⟩
      · exact ⟨label, foundLabel, by simp⟩
    · exact bounded_summary parsed.settled (by decide +kernel) (by decide) short foundPath
        foundLabel
    · intro text listed
      rw [@value_unique _ _ "health_path" text path distinct listed (by simp) rfl]
      exact safePath
    · rintro key text (rfl | rfl) listed
      · rw [@value_unique _ _ "metadata_label" text label distinct listed (by simp) rfl]
        exact safeLabel
      · exact (unlisted (by decide :
          "service_namespace" ∉ summaryKeys "health_path" "metadata_label") listed rfl).elim
    · intro text listed
      exact (unlisted (by decide : "endpoint" ∉ summaryKeys "health_path" "metadata_label")
          listed rfl).elim

theorem summary_exporter (parsed : Parsed python integration definition)
    (exporter : definition.name = "otlp-export")
    (keys : definition.configKeys = ["endpoint", "service_namespace"])
    (short : project.length ≤ maxResultValueChars) :
    Exists fun summary : List (String × String) =>
      summaryOf integration [("project", project)] = .ok summary ∧
        Summarised python integration definition project summary := by
  have named := name_of_resolve parsed.resolved
  have finished := parsed.finished
  rw [exporter] at finished
  rcases finished_exporter finished with
    ⟨endpoint, label, foundEndpoint, foundLabel, origin, safeLabel⟩
  have distinct : (summaryKeys "endpoint" "service_namespace").Nodup := by decide
  refine ⟨[("kind", "otlp-export"), ("endpoint", endpoint), ("service_namespace", label),
    ("project", project)], ?_, ?_⟩
  · have other : integration.name ≠ "django-runtime" := by
      rw [← named, exporter]
      decide
    unfold summaryOf otlpExportSummary
    rw [if_neg other, if_pos (named.symm.trans exporter), summarise_ok foundEndpoint foundLabel]
    rfl
  · refine ⟨by rw [keys]; rfl, ?_, by simp, ?_, ?_, ?_, ?_, ?_⟩
    · rw [← named, exporter]
      exact List.mem_cons_self
    · intro key listed
      rw [keys, List.mem_cons, List.mem_singleton] at listed
      rcases listed with rfl | rfl
      · exact ⟨endpoint, foundEndpoint, by simp⟩
      · exact ⟨label, foundLabel, by simp⟩
    · exact bounded_summary parsed.settled (by decide +kernel) (by decide) short foundEndpoint
        foundLabel
    · intro text listed
      exact (unlisted (by decide : "health_path" ∉ summaryKeys "endpoint" "service_namespace")
          listed rfl).elim
    · rintro key text (rfl | rfl) listed
      · exact (unlisted (by decide : "metadata_label" ∉ summaryKeys "endpoint" "service_namespace")
          listed rfl).elim
      · rw [@value_unique _ _ "service_namespace" text label distinct listed (by simp) rfl]
        exact safeLabel
    · intro text listed
      rw [@value_unique _ _ "endpoint" text endpoint distinct listed (by simp) rfl]
      exact origin

theorem summary_parsed (parsed : Parsed python integration definition)
    (short : project.length ≤ maxResultValueChars) :
    Exists fun summary : List (String × String) =>
      summaryOf integration [("project", project)] = .ok summary ∧
        Summarised python integration definition project summary := by
  rcases List.mem_cons.mp (mem_of_resolve parsed.resolved) with runtime | other
  · exact summary_runtime parsed (by rw [runtime]) (by rw [runtime]) short
  · have exporter := List.mem_singleton.mp other
    exact summary_exporter parsed (by rw [exporter]) (by rw [exporter]) short

/-- The outcomes of an evaluation, by the budget, the switch and the clock: which error
is raised, and what the result holds when none is. -/
structure Evaluated (python : Python Other) (integration : IntegrationConfig) (project : String)
    (budgetMs : Int) (elapsed : Nat) (outcome : Except EvaluationError IntegrationResult) :
    Prop where
  budget : budgetMs < 1 ∨ maxBudgetMs < budgetMs ->
    outcome = .error (integrationError "INVALID_BUDGET" "budget_ms must be between 1 and 1000")
  disabled : 1 ≤ budgetMs -> budgetMs ≤ maxBudgetMs -> integration.enabled = false ->
    outcome =
      .ok ⟨integration.name, integration.version, "disabled", integration.capabilities, []⟩
  late : 1 ≤ budgetMs -> budgetMs ≤ maxBudgetMs -> integration.enabled = true ->
    budgetMs * 1000000 < elapsed -> outcome = .error (integrationError "TIMEOUT"
      (integration.name ++ " integration exceeded its execution budget"))
  ready : 1 ≤ budgetMs -> budgetMs ≤ maxBudgetMs -> integration.enabled = true ->
    elapsed ≤ budgetMs * 1000000 -> Exists fun summary : List (String × String) =>
      Exists fun definition : IntegrationDefinition =>
        resolve integration.name integration.version = .ok definition ∧
          outcome = .ok ⟨integration.name, integration.version, "ready", integration.capabilities,
            summary⟩ ∧ Summarised python integration definition project summary

/-- The entries of a summary have distinct keys. -/
theorem Summarised.distinct {summary : List (String × String)}
    (builtin : definition ∈ builtinRegistry)
    (summarised : Summarised python integration definition project summary) :
    (summary.map Prod.fst).Nodup ∧ summary.length ≤ maxResultFields := by
  have all : forall listed, listed ∈ builtinRegistry ->
      ("kind" :: (listed.configKeys ++ ["project"])).Nodup ∧
        ("kind" :: (listed.configKeys ++ ["project"])).length ≤ maxResultFields := by
    decide
  rw [← @List.length_map _ _ summary Prod.fst, summarised.keys]
  exact all definition builtin

/-- An integration that was parsed is evaluated without any other error than
those of the budget. -/
theorem evaluated_parsed (parsed : Parsed python integration definition)
    (short : project.length ≤ 64) (budgetMs : Int) (elapsed : Nat) :
    Evaluated python integration project budgetMs elapsed
      (evaluateIntegration integration [("project", project)] budgetMs elapsed) := by
  have allowed : 1 ≤ budgetMs -> budgetMs ≤ maxBudgetMs ->
      Not (budgetMs < 1 ∨ maxBudgetMs < budgetMs) := by
    intro least most
    omega
  rcases summary_parsed parsed (Nat.le_trans short (by decide)) with ⟨summary, made, summarised⟩
  have supported : Not ((integration.capabilities.any fun name =>
      decide (name ∉ definition.capabilities.map IntegrationCapability.value)) = true) := by
    intro some
    rcases List.any_eq_true.mp some with ⟨name, requested, foreign⟩
    exact of_decide_eq_true foreign (parsed.supported name requested)
  have context : validateContext [("project", project)] = .ok [("project", project)] := by
    have few : 1 ≤ maxConfigFields := by decide
    have plain : isSecretKey "project" = false := by decide +kernel
    refine validateContext_ok (List.nodup_singleton _) few fun entry listed => ?_
    rw [List.mem_singleton.mp listed]
    exact ⟨plain, (by decide : "project".length ≤ 64), Nat.le_trans short (by decide)⟩
  have proceeds : 1 ≤ budgetMs -> budgetMs ≤ maxBudgetMs -> integration.enabled = true ->
      evaluateIntegration integration [("project", project)] budgetMs elapsed =
        if budgetMs * 1000000 < elapsed then
          .error (integrationError "TIMEOUT"
            (integration.name ++ " integration exceeded its execution budget"))
        else
          (boundedResult summary).bind fun bounded => .ok ⟨integration.name, integration.version,
            "ready", integration.capabilities, bounded⟩ := by
    intro least most enabled
    unfold evaluateIntegration
    rw [if_neg (allowed least most), if_neg (by rw [enabled]; exact Bool.true_eq_false.mp),
      parsed.resolved]
    refine (if_neg supported).trans ?_
    rw [context]
    change Except.bind (summaryOf integration [("project", project)]) _ = _
    rw [made]
    rfl
  rcases summarised.distinct (mem_of_resolve parsed.resolved) with ⟨distinct, few⟩
  constructor
  · intro outside
    exact if_pos outside
  · intro least most disabled
    exact (if_neg (allowed least most)).trans (if_pos disabled)
  · intro least most enabled late
    rw [proceeds least most enabled, if_pos late]
  · intro least most enabled timely
    refine ⟨summary, definition, parsed.resolved, ?_, summarised⟩
    rw [proceeds least most enabled, if_neg (Int.not_lt.mpr timely),
      boundedResult_ok distinct few summarised.bounded]
    rfl

end Summaries

/-- Whatever the parser accepts evaluates for every project: a disabled
integration to nothing, an enabled one to a summary that keeps the bounds,
unless it takes longer than its budget.  The keys of the summary are the kind,
the keys of the definition that its name and version resolve to, and the
project, each once; so it consists of the kind, the settings of the integration
as they were validated, and the project, and of nothing else. -/
theorem evaluated_of_parsed (python : Python Other) (value : Yaml Other)
    (integrations : List IntegrationConfig)
    (parsed : parseIntegrations python value = .ok integrations) (project : String)
    (short : project.length ≤ 64) :
    (integrations.map IntegrationConfig.name).Nodup ∧
      forall integration, integration ∈ integrations -> forall budgetMs elapsed,
        Evaluated python integration project budgetMs elapsed
          (evaluateIntegration integration [("project", project)] budgetMs elapsed) := by
  rcases parsed_parseIntegrations parsed with ⟨distinct, each⟩
  refine ⟨distinct, fun integration listed budgetMs elapsed => ?_⟩
  rcases each integration listed with ⟨definition, known⟩
  exact evaluated_parsed known short budgetMs elapsed

/-- The sample integration, parsed without any setting, evaluates to its
defaults; a millisecond too late it times out. -/
theorem evaluated_sample :
    (sampleIntegrations.map fun integration =>
      evaluateIntegration integration [("project", "shop")] 100 99999999) =
        [.ok ⟨"django-runtime", "v1", "ready", ["metadata", "health"],
          [("kind", "django-runtime"), ("health_path", "/healthz"), ("metadata_label", "django"),
            ("project", "shop")]⟩] ∧
      forall integration, integration ∈ sampleIntegrations ->
        evaluateIntegration integration [("project", "shop")] 100 101000000 =
          .error (integrationError "TIMEOUT" (integration.name ++
            " integration exceeded its execution budget")) := by
  refine ⟨by decide +kernel, fun integration listed => ?_⟩
  have evaluated := evaluated_of_parsed samplePython _ sampleIntegrations sampleIntegrations_parsed
    "shop" (by decide)
  have enabled : forall listed, listed ∈ sampleIntegrations -> listed.enabled = true := by decide
  exact (evaluated.2 integration listed 100 101000000).late (by decide) (by decide)
    (enabled integration listed) (by decide)

end Cli
end DjangoOps
