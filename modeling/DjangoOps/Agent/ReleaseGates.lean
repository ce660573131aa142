import DjangoOps.Agent.ReleaseScript

namespace DjangoOps
namespace Agent
namespace Executor

open Protocol

/-!
# What a release has behind it

A run either ends before the verification of the rollout, with a prefix of the
steps up to the upgrade, or it comes to the verification with all of them
completed.  From the two cases follows what stands in front of an upgrade and
of a rollback, and what a reported ending implies.
-/

/-- The commands that change the cluster. -/
def Step.mutates : Step -> Bool
  | .upgrade => true
  | .rollback => true
  | _ => false

/-- The steps of a validation. -/
def checkSteps : List Step := permissionSteps ++ [.helmVersion]

/-- The steps in front of an upgrade. -/
def gateSteps : List Step := checkSteps ++ [.lint, .template]

/-- The steps in front of the verification of the rollout. -/
def installSteps : List Step := gateSteps ++ [.upgrade]

/-- Steps that all succeeded. -/
def passed (steps : List Step) : List Event := steps.map fun step => (step, .succeeded)

theorem passed_append (steps others : List Step) :
    passed (steps ++ others) = passed steps ++ passed others :=
  List.map_append

theorem mem_passed {steps : List Step} {event : Event} :
    event ∈ passed steps <-> event.1 ∈ steps ∧ event.2 = .succeeded := by
  unfold passed
  rw [List.mem_map]
  constructor
  · rintro ⟨step, listed, rfl⟩
    exact ⟨listed, rfl⟩
  · rintro ⟨listed, good⟩
    exact ⟨event.1, listed, Prod.ext rfl good.symm⟩

theorem steps_passed (steps : List Step) : (passed steps).map Prod.fst = steps := by
  unfold passed
  rw [List.map_map]
  exact List.map_id steps

/-- There is one way to split a record at a step that it has once. -/
theorem split_unique {before otherBefore after otherAfter : List Event} {step : Step}
    {outcome otherOutcome : Outcome} (early : step ∉ before.map Prod.fst)
    (late : step ∉ after.map Prod.fst)
    (same : before ++ (step, outcome) :: after =
      otherBefore ++ (step, otherOutcome) :: otherAfter) :
    before = otherBefore ∧ outcome = otherOutcome := by
  have keys := congrArg (List.map Prod.fst) same
  rw [List.map_append, List.map_append, List.map_cons, List.map_cons] at keys
  have parts := (List.append_cons_inj_of_notMem early late).mp keys
  have lengths := congrArg List.length parts.1
  rw [List.length_map, List.length_map] at lengths
  have events := List.append_inj same lengths
  exact ⟨events.1, (Prod.mk.inj (List.cons.inj events.2).1).2⟩

/-- A valid request has one of the two modes. -/
theorem validateRequest_mode {unmarshals : String -> Bool} {request : KubernetesReleaseRequest}
    (valid : validateRequest unmarshals request = none) :
    request.mode = "validate" ∨ request.mode = "release" := by
  by_contra neither
  rw [not_or] at neither
  unfold validateRequest at valid
  rw [if_pos neither] at valid
  split_ifs at valid

namespace Surroundings

/-- The run comes to the verification of the rollout. -/
structure Applies (world : Surroundings) (request : KubernetesReleaseRequest) : Prop where
  valid : validateRequest world.unmarshals request = none
  credential : Exists fun resolve : String -> Option String =>
    world.resolveKubeconfig = some resolve ∧ (resolve request.credentialRef).getD "" ≠ ""
  mode : request.mode = "release"
  chart : world.safeChart request.chartPath ≠ none
  values : world.valuesFile = true
  steps : forall step : Step, step ∈ installSteps -> world.attempt step = .succeeded

/-- An ending before the verification of the rollout: with no step, with those of
a validation, or with the step that failed. -/
structure Early (world : Surroundings) (request : KubernetesReleaseRequest) (trace : Trace) :
    Prop where
  events : (trace.events = [] ∨ trace.events = passed checkSteps) ∨
    Exists fun done : List Step => Exists fun step : Step => Exists fun rest : List Step =>
      installSteps = done ++ step :: rest ∧
        trace.events = passed done ++ [(step, world.attempt step)]
  short : ¬ Applies world request
  valid : trace.events ≠ [] -> validateRequest world.unmarshals request = none
  mode : request.mode = "release" ∨
    forall event : Event, event ∈ trace.events -> event.1 ∈ checkSteps
  status : trace.result.status = "failed" ∨ trace.result.status = "cancelled" ∨
    (request.mode = "validate" ∧ trace.result.status = "succeeded")
  rollbackStatus : trace.result.rollbackStatus = ""

variable {world : Surroundings} {request : KubernetesReleaseRequest} {step : Step}
  {done rest : List Step} {otherwise next : List Event -> Trace}

theorem stop_status (errorCode : String) (events : List Event) :
    ((world.stop step errorCode events).result.status = "failed" ∨
      (world.stop step errorCode events).result.status = "cancelled") ∧
      (world.stop step errorCode events).result.rollbackStatus = "" := by
  unfold stop
  split
  · exact ⟨.inr rfl, rfl⟩
  · exact ⟨.inl rfl, rfl⟩

/-- A request that is refused before its first command. -/
theorem Early.of_refused (errorCode : String) (short : ¬ Applies world request) :
    Early world request ⟨.failed errorCode, []⟩ where
  events := .inl (.inl rfl)
  short := short
  valid := fun nonempty => absurd rfl nonempty
  mode := .inr fun _ member => absurd member List.not_mem_nil
  status := .inl rfl
  rollbackStatus := rfl

/-- An ending behind the checks. -/
theorem Early.of_checked {result : PersistedResult} (short : ¬ Applies world request)
    (valid : validateRequest world.unmarshals request = none)
    (status : result.status = "failed" ∨
      (request.mode = "validate" ∧ result.status = "succeeded"))
    (rollbackStatus : result.rollbackStatus = "") :
    Early world request ⟨result, passed checkSteps⟩ where
  events := .inl (.inr rfl)
  short := short
  valid := fun _ => valid
  mode := .inr fun _ member => (mem_passed.mp member).1
  status := status.imp id .inr
  rollbackStatus := rollbackStatus

/-- An ending at a failed step. -/
theorem Early.of_stopped {errorCode : String}
    (valid : validateRequest world.unmarshals request = none)
    (place : installSteps = done ++ step :: rest)
    (mode : request.mode = "release" ∨
      forall earlier : Step, earlier ∈ done ++ [step] -> earlier ∈ checkSteps)
    (bad : world.attempt step ≠ .succeeded) :
    Early world request
      (world.stop step errorCode (passed done ++ [(step, world.attempt step)])) where
  events := .inr ⟨done, step, rest, place, rfl⟩
  short := by
    intro applies
    refine bad (applies.steps step ?_)
    rw [place]
    exact List.mem_append_right _ (.head _)
  valid := fun _ => valid
  mode := by
    refine mode.imp_right fun inside event member => inside event.1 ?_
    rcases List.mem_append.mp member with early | last
    · exact List.mem_append_left _ (mem_passed.mp early).1
    · rw [List.mem_singleton.mp last]
      exact List.mem_append_right _ (.head _)
  status := (stop_status errorCode _).1.imp id .inl
  rollbackStatus := (stop_status errorCode _).2

/-- One step behind steps that succeeded: the run ends there, or it goes on. -/
theorem Early.perform {errorCode : String} {goal : Trace -> Prop}
    (valid : validateRequest world.unmarshals request = none)
    (place : installSteps = done ++ step :: rest)
    (mode : request.mode = "release" ∨
      forall earlier : Step, earlier ∈ done ++ [step] -> earlier ∈ checkSteps)
    (ends : forall trace : Trace, Early world request trace -> goal trace)
    (goes : world.attempt step = .succeeded -> goal (next (passed (done ++ [step])))) :
    goal (world.perform step (passed done) (world.stop step errorCode) next) := by
  by_cases good : world.attempt step = .succeeded
  · rw [perform_success good]
    have further := goes good
    rw [passed_append] at further
    exact further
  · rw [perform_failure good]
    exact ends _ (.of_stopped valid place mode good)

/-- The loop over the permissions, from a place inside of it on. -/
theorem Early.checkPermissions {goal : Trace -> Prop}
    (valid : validateRequest world.unmarshals request = none)
    (ends : forall trace : Trace, Early world request trace -> goal trace)
    (goes : (forall step : Step, step ∈ permissionSteps -> world.attempt step = .succeeded) ->
      goal (next (passed permissionSteps)))
    (place : permissionSteps = done ++ rest)
    (behind : forall step : Step, step ∈ done -> world.attempt step = .succeeded) :
    goal (world.checkPermissions next rest (passed done)) := by
  induction rest generalizing done with
  | nil =>
      rw [List.append_nil] at place
      subst place
      exact goes behind
  | cons step rest inductionHypothesis =>
      have listed (earlier : Step) (member : earlier ∈ done ++ [step]) :
          earlier ∈ permissionSteps := by
        rw [place]
        rcases List.mem_append.mp member with old | new
        · exact List.mem_append_left _ old
        · rw [List.mem_singleton.mp new]
          exact List.mem_append_right _ (.head _)
      have whole : installSteps = done ++ step :: (rest ++ [.helmVersion, .lint, .template,
          .upgrade]) := by
        have same : installSteps = permissionSteps ++ [.helmVersion, .lint, .template, .upgrade] :=
          rfl
        rw [same, place, List.append_assoc, List.cons_append]
      refine Early.perform valid whole
        (.inr fun earlier member => List.mem_append_left _ (listed earlier member)) ends
        fun good => inductionHypothesis ?_ ?_
      · rw [place, List.append_assoc]
        rfl
      · intro earlier member
        rcases List.mem_append.mp member with old | new
        · exact behind earlier old
        · rw [List.mem_singleton.mp new]
          exact good

/-- The run has come to the verification of the rollout. -/
def Installed (world : Surroundings) (request : KubernetesReleaseRequest) (trace : Trace) : Prop :=
  Applies world request ∧
    trace = world.perform .verify (passed installSteps) (world.recover request)
      (world.record request)

/-- The chart and the steps up to the upgrade. -/
theorem install_cases (valid : validateRequest world.unmarshals request = none)
    (credential : Exists fun resolve : String -> Option String =>
      world.resolveKubeconfig = some resolve ∧ (resolve request.credentialRef).getD "" ≠ "")
    (mode : request.mode = "release")
    (checked : forall step : Step, step ∈ checkSteps -> world.attempt step = .succeeded) :
    Early world request (world.install request (passed checkSteps)) ∨
      Installed world request (world.install request (passed checkSteps)) := by
  unfold install
  cases chart : world.safeChart request.chartPath with
  | none => exact .inl (.of_checked (fun applies => applies.chart chart) valid (.inl rfl) rfl)
  | some place =>
      dsimp only
      by_cases values : world.valuesFile = false
      · rw [if_pos values]
        have short (applies : Applies world request) : False := by
          rw [applies.values] at values
          cases values
        exact .inl (.of_checked short valid (.inl rfl) rfl)
      · rw [if_neg values]
        let goal (trace : Trace) : Prop :=
          Early world request trace ∨ Installed world request trace
        have ends (trace : Trace) (early : Early world request trace) : goal trace := .inl early
        refine @Early.perform world request .lint checkSteps [.template, .upgrade] _ _ goal valid
          rfl (.inl mode) ends fun lint => ?_
        refine @Early.perform world request .template (checkSteps ++ [.lint]) [.upgrade] _ _ goal
          valid rfl (.inl mode) ends fun template => ?_
        refine @Early.perform world request .upgrade gateSteps [] _ _ goal
          valid rfl (.inl mode) ends fun upgrade => ?_
        refine .inr ⟨?_, rfl⟩
        refine
          { valid := valid
            credential := credential
            mode := mode
            chart := by rw [chart]; exact Option.some_ne_none place
            values := eq_true_of_ne_false values
            steps := ?_ }
        intro step listed
        rcases List.mem_append.mp listed with gate | last
        · rcases List.mem_append.mp gate with check | render
          · exact checked step check
          · rcases List.mem_pair.mp render with first | second
            · rw [first]
              exact lint
            · rw [second]
              exact template
        · rw [List.mem_singleton.mp last]
          exact upgrade

/-- A run ends early, or it comes to the verification of the rollout. -/
theorem script_cases (world : Surroundings) (request : KubernetesReleaseRequest) :
    Early world request (world.script request) ∨
      Installed world request (world.script request) := by
  unfold script
  cases valid : validateRequest world.unmarshals request with
  | some text =>
      refine .inl (.of_refused _ fun applies => ?_)
      rw [applies.valid] at valid
      cases valid
  | none =>
      rw [Option.isSome_none, if_neg Bool.false_ne_true]
      cases resolver : world.resolveKubeconfig with
      | none =>
          refine .inl (.of_refused _ fun applies => ?_)
          rcases applies.credential with ⟨resolve, found, credential⟩
          rw [resolver] at found
          cases found
      | some resolve =>
          dsimp only
          by_cases credential : (resolve request.credentialRef).getD "" = ""
          · rw [if_pos credential]
            refine .inl (.of_refused _ fun applies => ?_)
            rcases applies.credential with ⟨other, found, given⟩
            rw [resolver] at found
            cases found
            exact given credential
          · rw [if_neg credential]
            let goal (trace : Trace) : Prop :=
              Early world request trace ∨ Installed world request trace
            have ends (trace : Trace) (early : Early world request trace) : goal trace :=
              .inl early
            refine @Early.checkPermissions world request [] permissionSteps _ goal valid ends
              ?_ rfl fun step member => absurd member List.not_mem_nil
            intro granted
            refine @Early.perform world request .helmVersion permissionSteps
              [.lint, .template, .upgrade] _ _ goal valid rfl (.inr fun step member => member) ends
              fun version => ?_
            have checked (step : Step) (listed : step ∈ checkSteps) :
                world.attempt step = .succeeded := by
              rcases List.mem_append.mp listed with permission | last
              · exact granted step permission
              · rw [List.mem_singleton.mp last]
                exact version
            have modes := (validateRequest_mode valid)
            by_cases mode : request.mode = "validate"
            · rw [if_pos mode]
              have short (applies : Applies world request) : False := by
                have release := applies.mode
                rw [mode] at release
                exact absurd release (by decide)
              exact .inl (.of_checked short valid (.inr ⟨mode, rfl⟩) rfl)
            · rw [if_neg mode]
              exact install_cases valid ⟨resolve, resolver, credential⟩
                (modes.resolve_left mode) checked

/-- The verification of the rollout and what follows it. -/
inductive Ended (world : Surroundings) (request : KubernetesReleaseRequest) :
    List Event -> PersistedResult -> Prop
  | unrecorded (verified : world.attempt .verify = .succeeded) (outcome : Outcome)
      (errorCode : String) :
      Ended world request [(.verify, .succeeded), (.recordRevision, outcome)]
        { PersistedResult.failed errorCode with previousRevision := request.previousRevision }
  | recorded (verified : world.attempt .verify = .succeeded) (value : HelmMetadata)
      (revision : Nat) (output : world.helmOutput = .metadata value)
      (read : helmRevision value = some revision) :
      Ended world request [(.verify, .succeeded), (.recordRevision, .succeeded)]
        { status := "succeeded", helmRevision := revision
          previousRevision := request.previousRevision, rollbackStatus := "", errorCode := "" }
  | cancelled (failed : world.attempt .verify ≠ .succeeded)
      (cancelled : world.cancelledBehind .verify = true) :
      Ended world request [(.verify, world.attempt .verify)] cancelledResult
  | blocked (failed : world.attempt .verify ≠ .succeeded)
      (pending : world.cancelledBehind .verify = false)
      (policy : request.rollbackPolicy ≠ "allow" ∨ request.previousRevision = 0) :
      Ended world request [(.verify, world.attempt .verify)]
        { status := "rollback_blocked", helmRevision := 0
          previousRevision := request.previousRevision, rollbackStatus := "blocked"
          errorCode := "ROLLOUT_FAILED_DB_COMPATIBILITY_UNKNOWN" }
  | unrolled (failed : world.attempt .verify ≠ .succeeded)
      (pending : world.cancelledBehind .verify = false)
      (policy : request.rollbackPolicy = "allow" ∧ request.previousRevision ≠ 0)
      (bad : world.attempt .rollback ≠ .succeeded) :
      Ended world request [(.verify, world.attempt .verify), (.rollback, world.attempt .rollback)]
        { status := "failed", helmRevision := 0, previousRevision := request.previousRevision
          rollbackStatus := "failed", errorCode := "ROLLBACK_FAILED" }
  | unverified (failed : world.attempt .verify ≠ .succeeded)
      (pending : world.cancelledBehind .verify = false)
      (policy : request.rollbackPolicy = "allow" ∧ request.previousRevision ≠ 0)
      (rolled : world.attempt .rollback = .succeeded) (outcome : Outcome) :
      Ended world request [(.verify, world.attempt .verify), (.rollback, .succeeded),
          (.rollbackVerify, outcome)]
        { status := "failed", helmRevision := 0, previousRevision := request.previousRevision
          rollbackStatus := "failed", errorCode := "ROLLBACK_VERIFY_FAILED" }
  | rolledBack (failed : world.attempt .verify ≠ .succeeded)
      (pending : world.cancelledBehind .verify = false)
      (policy : request.rollbackPolicy = "allow" ∧ request.previousRevision ≠ 0)
      (rolled : world.attempt .rollback = .succeeded) :
      Ended world request [(.verify, world.attempt .verify), (.rollback, .succeeded),
          (.rollbackVerify, .succeeded)]
        { status := "rolled_back", helmRevision := request.previousRevision
          previousRevision := request.previousRevision, rollbackStatus := "succeeded"
          errorCode := "" }

/-- What an ending behind the upgrade looks like. -/
def EndedWith (world : Surroundings) (request : KubernetesReleaseRequest) (trace : Trace) : Prop :=
  Exists fun tail : List Event =>
    trace.events = passed installSteps ++ tail ∧ Ended world request tail trace.result

theorem ended_record (verified : world.attempt .verify = .succeeded) :
    EndedWith world request
      (world.record request (passed installSteps ++ [(.verify, .succeeded)])) := by
  unfold record
  by_cases good : world.attempt .recordRevision = .succeeded
  · rw [perform_success good, List.append_assoc]
    cases output : world.helmOutput with
    | tooLong => exact ⟨_, rfl, .unrecorded verified _ _⟩
    | invalid => exact ⟨_, rfl, .unrecorded verified _ _⟩
    | metadata value =>
        dsimp only
        cases read : helmRevision value with
        | none => exact ⟨_, rfl, .unrecorded verified _ _⟩
        | some revision => exact ⟨_, rfl, .recorded verified value revision output read⟩
  · rw [perform_failure good, List.append_assoc]
    exact ⟨_, rfl, .unrecorded verified _ _⟩

theorem ended_recover (failed : world.attempt .verify ≠ .succeeded) :
    EndedWith world request
      (world.recover request (passed installSteps ++ [(.verify, world.attempt .verify)])) := by
  unfold recover
  dsimp only
  by_cases cancelled : world.cancelledBehind .verify = true
  · rw [if_pos cancelled]
    exact ⟨_, rfl, .cancelled failed cancelled⟩
  · rw [if_neg cancelled]
    have pending := Bool.eq_false_iff.mpr cancelled
    by_cases policy : request.rollbackPolicy ≠ "allow" ∨ request.previousRevision = 0
    · rw [if_pos policy]
      exact ⟨_, rfl, .blocked failed pending policy⟩
    · rw [if_neg policy]
      rw [not_or, ne_eq, Decidable.not_not] at policy
      by_cases rolled : world.attempt .rollback = .succeeded
      · rw [perform_success rolled]
        by_cases verified : world.attempt .rollbackVerify = .succeeded
        · rw [perform_success verified, List.append_assoc, List.append_assoc]
          exact ⟨_, rfl, .rolledBack failed pending policy rolled⟩
        · rw [perform_failure verified, List.append_assoc, List.append_assoc]
          exact ⟨_, rfl, .unverified failed pending policy rolled _⟩
      · rw [perform_failure rolled, List.append_assoc]
        exact ⟨_, rfl, .unrolled failed pending policy rolled⟩

theorem Installed.ended {trace : Trace} (installed : Installed world request trace) :
    EndedWith world request trace := by
  rw [installed.2]
  by_cases good : world.attempt .verify = .succeeded
  · rw [perform_success good]
    exact ended_record good
  · rw [perform_failure good]
    exact ended_recover good

/-- The gates of a run.  A step is come to at most once; an upgrade and a
rollback have their conditions behind them; a reported ending is backed by the
commands that succeeded. -/
structure Gated (world : Surroundings) (request : KubernetesReleaseRequest) (trace : Trace) :
    Prop where
  once : (trace.events.map Prod.fst).Nodup
  upgrade : forall {before after : List Event} {outcome : Outcome},
    trace.events = before ++ (.upgrade, outcome) :: after ->
      request.mode = "release" ∧ validateRequest world.unmarshals request = none ∧
        forall step : Step, step ∈ gateSteps -> (step, .succeeded) ∈ before
  rollback : forall {before after : List Event} {outcome : Outcome},
    trace.events = before ++ (.rollback, outcome) :: after -> outcome.started = true ->
      (.upgrade, .succeeded) ∈ before ∧
        (Exists fun verdict : Outcome =>
          (.verify, verdict) ∈ before ∧ verdict ≠ .succeeded) ∧
        world.cancelledBy (3 * Step.rollback.position + 1) = false ∧
        request.rollbackPolicy = "allow" ∧ request.previousRevision ≠ 0
  succeeded : request.mode = "release" -> trace.result.status = "succeeded" ->
    (.upgrade, .succeeded) ∈ trace.events ∧ (.verify, .succeeded) ∈ trace.events ∧
      (.recordRevision, .succeeded) ∈ trace.events ∧ trace.result.helmRevision ≠ 0 ∧
      Exists fun value : HelmMetadata => world.helmOutput = .metadata value ∧
        helmRevision value = some trace.result.helmRevision
  rolledBack : trace.result.status = "rolled_back" ->
    (.rollback, .succeeded) ∈ trace.events ∧ (.rollbackVerify, .succeeded) ∈ trace.events
  validates : request.mode = "validate" ->
    forall event : Event, event ∈ trace.events -> event.1.mutates = false

/-- The steps of an early ending are a prefix of those up to the upgrade. -/
theorem Early.prefix {trace : Trace} (early : Early world request trace) :
    trace.events.map Prod.fst <+: installSteps := by
  rcases early.events with (none | checked) | ⟨done, step, rest, place, stopped⟩
  · rw [none]
    exact List.nil_prefix
  · rw [checked, steps_passed]
    exact ⟨[.lint, .template, .upgrade], rfl⟩
  · rw [stopped, List.map_append, steps_passed, place]
    exact ⟨rest, by rw [List.append_assoc]; rfl⟩

/-- An upgrade in an early ending has the gates in front of it. -/
theorem Early.gates {trace : Trace} (early : Early world request trace)
    {before after : List Event} {outcome : Outcome}
    (split : trace.events = before ++ (.upgrade, outcome) :: after) :
    before = passed gateSteps := by
  rcases early.prefix with ⟨further, whole⟩
  rw [split, List.map_append, List.map_cons, List.append_assoc, List.cons_append] at whole
  have parts := (List.append_cons_inj_of_notMem (show Step.upgrade ∉ gateSteps by decide)
    List.not_mem_nil).mp whole.symm
  have last : after = [] := List.map_eq_nil_iff.mp (List.append_eq_nil_iff.mp parts.2.2.symm).1
  subst last
  have member : (Step.upgrade, outcome) ∈ trace.events := by
    rw [split]
    exact List.mem_append_right _ (.head _)
  rcases early.events with (none | checked) | ⟨done, step, rest, place, stopped⟩
  · rw [none] at member
    cases member
  · rw [checked] at member
    exact absurd (mem_passed.mp member).1 (show Step.upgrade ∉ checkSteps by decide)
  · have same := List.append_inj' (split.symm.trans stopped) rfl
    rw [same.1, steps_passed] at parts
    rw [same.1, parts.1]

/-- A run that ends early is gated. -/
theorem Early.gated {trace : Trace} (early : Early world request trace) :
    Gated world request trace := by
  have inside (event : Event) (member : event ∈ trace.events) : event.1 ∈ installSteps :=
    early.prefix.subset (List.mem_map.mpr ⟨event, member, rfl⟩)
  have unmutated (event : Event) (member : event ∈ trace.events)
      (checks : event.1 ∈ checkSteps) : event.1.mutates = false := by
    have all : forall step : Step, step ∈ checkSteps -> step.mutates = false := by decide
    exact all event.1 checks
  exact
    { once := early.prefix.sublist.nodup (by decide)
      upgrade := by
        intro before after outcome split
        have member : (Step.upgrade, outcome) ∈ trace.events := by
          rw [split]
          exact List.mem_append_right _ (.head _)
        refine ⟨early.mode.resolve_right fun checks => ?_, early.valid fun none => ?_, ?_⟩
        · exact absurd (checks _ member) (show Step.upgrade ∉ checkSteps by decide)
        · rw [none] at member
          cases member
        · intro step listed
          rw [early.gates split]
          exact mem_passed.mpr ⟨listed, rfl⟩
      rollback := by
        intro before after outcome split
        have member : (Step.rollback, outcome) ∈ trace.events := by
          rw [split]
          exact List.mem_append_right _ (.head _)
        exact absurd (inside _ member) (show Step.rollback ∉ installSteps by decide)
      succeeded := by
        intro mode status
        rcases early.status with failed | cancelled | ⟨validate, good⟩
        · rw [failed] at status
          exact absurd status (by decide)
        · rw [cancelled] at status
          exact absurd status (by decide)
        · rw [mode] at validate
          exact absurd validate (by decide)
      rolledBack := by
        intro status
        rcases early.status with failed | cancelled | ⟨validate, good⟩
        · rw [failed] at status
          exact absurd status (by decide)
        · rw [cancelled] at status
          exact absurd status (by decide)
        · rw [good] at status
          exact absurd status (by decide)
      validates := by
        intro mode event member
        rcases early.mode with release | checks
        · rw [mode] at release
          exact absurd release (by decide)
        · exact unmutated event member (checks event member) }

/-- A command starts under a live context only. -/
theorem cancelledBy_of_started (started : (world.attempt step).started = true) :
    world.cancelledBy (3 * step.position + 1) = false := by
  unfold attempt at started
  by_cases undelivered : world.delivers step = false
  · rw [if_pos undelivered] at started
    cases started
  · rw [if_neg undelivered] at started
    by_contra cancelled
    rw [if_pos (Bool.not_eq_false _ ▸ cancelled)] at started
    cases started

variable {tail : List Event} {result : PersistedResult}

/-- The steps behind the upgrade. -/
theorem Ended.steps (ended : Ended world request tail result) :
    tail.map Prod.fst = [.verify, .recordRevision] ∨
      tail.map Prod.fst <+: [.verify, .rollback, .rollbackVerify] := by
  cases ended with
  | unrecorded => exact .inl rfl
  | recorded => exact .inl rfl
  | cancelled => exact .inr ⟨[.rollback, .rollbackVerify], rfl⟩
  | blocked => exact .inr ⟨[.rollback, .rollbackVerify], rfl⟩
  | unrolled => exact .inr ⟨[.rollbackVerify], rfl⟩
  | unverified => exact .inr ⟨[], rfl⟩
  | rolledBack => exact .inr ⟨[], rfl⟩

theorem Ended.distinct (ended : Ended world request tail result) :
    (installSteps ++ tail.map Prod.fst).Nodup := by
  rcases ended.steps with same | ⟨rest, same⟩
  · rw [same]
    decide
  · have whole : (installSteps ++ [Step.verify, .rollback, .rollbackVerify]).Nodup := by decide
    rw [← same, ← List.append_assoc] at whole
    exact whole.of_append_left

/-- A rollback stands behind a failed verification and its conditions. -/
theorem Ended.rollback (ended : Ended world request tail result) {outcome : Outcome}
    (member : (Step.rollback, outcome) ∈ tail) :
    world.attempt .verify ≠ .succeeded ∧ world.cancelledBehind .verify = false ∧
      (request.rollbackPolicy = "allow" ∧ request.previousRevision ≠ 0) ∧
      outcome = world.attempt .rollback ∧
      Exists fun after : List Event =>
        tail = [(.verify, world.attempt .verify)] ++ (.rollback, outcome) :: after := by
  cases ended with
  | unrecorded | recorded =>
      simp only [List.mem_cons, Prod.mk.injEq, reduceCtorEq, false_and, List.not_mem_nil,
        or_false] at member
  | cancelled | blocked =>
      simp only [List.mem_cons, Prod.mk.injEq, reduceCtorEq, false_and, List.not_mem_nil,
        or_false] at member
  | unrolled failed pending policy bad =>
      simp only [List.mem_cons, Prod.mk.injEq, reduceCtorEq, false_and, true_and,
        List.not_mem_nil, or_false, false_or] at member
      exact ⟨failed, pending, policy, member, [], by rw [member]; rfl⟩
  | unverified failed pending policy rolled verdict =>
      simp only [List.mem_cons, Prod.mk.injEq, reduceCtorEq, false_and, true_and,
        List.not_mem_nil, or_false, false_or] at member
      exact ⟨failed, pending, policy, member.trans rolled.symm, [_], by rw [member]; rfl⟩
  | rolledBack failed pending policy rolled =>
      simp only [List.mem_cons, Prod.mk.injEq, reduceCtorEq, false_and, true_and,
        List.not_mem_nil, or_false, false_or] at member
      exact ⟨failed, pending, policy, member.trans rolled.symm, [_], by rw [member]; rfl⟩

/-- A revision that is read is not zero. -/
theorem helmRevision_ne_zero {value : HelmMetadata} {revision : Nat}
    (read : helmRevision value = some revision) : revision ≠ 0 := by
  have nonzero {found : Nat} (same : (if found ≠ 0 then some found else none) = some revision) :
      revision ≠ 0 := by
    split_ifs at same with given
    rw [← Option.some.inj same]
    exact given
  unfold helmRevision at read
  dsimp only at read
  split at read
  · cases read
  · split_ifs at read with given
    · rw [← Option.some.inj read]
      exact given
    · split at read
      · exact nonzero read
      · cases read
  · split at read
    · exact nonzero read
    · cases read

/-- A step that the steps in front do not have comes from the rest. -/
theorem mem_tail {outcome : Outcome} (member : (step, outcome) ∈ passed installSteps ++ tail)
    (beyond : step ∉ installSteps) : (step, outcome) ∈ tail := by
  rcases List.mem_append.mp member with front | behind
  · exact absurd (mem_passed.mp front).1 beyond
  · exact behind

/-- A run that comes to the verification of the rollout is gated. -/
theorem Installed.gated {trace : Trace} (installed : Installed world request trace) :
    Gated world request trace := by
  rcases installed.ended with ⟨tail, events, ended⟩
  have distinct := ended.distinct
  have upgraded : (Step.upgrade, Outcome.succeeded) ∈ trace.events := by
    rw [events]
    exact List.mem_append_left _ (mem_passed.mpr ⟨by decide, rfl⟩)
  exact
    { once := by
        rw [events, List.map_append, steps_passed]
        exact distinct
      upgrade := by
        intro before after outcome split
        refine ⟨installed.1.mode, installed.1.valid, fun step listed => ?_⟩
        have gates : passed installSteps ++ tail =
            passed gateSteps ++ (.upgrade, .succeeded) :: tail := by
          rw [installSteps, passed_append, List.append_assoc]
          rfl
        have late : Step.upgrade ∉ tail.map Prod.fst :=
          List.disjoint_of_nodup_append distinct (by decide)
        have early : Step.upgrade ∉ (passed gateSteps).map Prod.fst := by
          rw [steps_passed]
          decide
        have same := split_unique early late ((gates.symm.trans events.symm).trans split)
        rw [← same.1]
        exact mem_passed.mpr ⟨listed, rfl⟩
      rollback := by
        intro before after outcome split started
        have member : (Step.rollback, outcome) ∈ passed installSteps ++ tail := by
          rw [← events, split]
          exact List.mem_append_right _ (.head _)
        rcases ended.rollback (mem_tail member (by decide)) with
          ⟨failed, pending, policy, attempted, rest, place⟩
        have early : Step.rollback ∉
            (passed installSteps ++ [(Step.verify, world.attempt .verify)]).map Prod.fst := by
          rw [List.map_append, steps_passed]
          exact (show Step.rollback ∉ installSteps ++ [.verify] by decide)
        have late : Step.rollback ∉ rest.map Prod.fst := by
          have tails := distinct.of_append_right
          rw [place, List.map_append, List.map_cons] at tails
          exact (List.nodup_cons.mp tails.of_append_right).1
        have whole : (passed installSteps ++ [(.verify, world.attempt .verify)]) ++
            (.rollback, outcome) :: rest = before ++ (.rollback, outcome) :: after := by
          rw [← split, events, place, List.append_assoc]
        rw [← (split_unique early late whole).1]
        refine ⟨?_, ⟨_, List.mem_append_right _ (.head _), failed⟩, ?_, policy⟩
        · exact List.mem_append_left _ (mem_passed.mpr ⟨by decide, rfl⟩)
        · rw [attempted] at started
          exact cancelledBy_of_started started
      succeeded := by
        intro mode status
        rw [events] at upgraded ⊢
        generalize trace.result = result at ended status ⊢
        cases ended with
        | recorded verified value revision output read =>
            refine ⟨upgraded, ?_, ?_, helmRevision_ne_zero read, value, output, read⟩
            · exact List.mem_append_right _ (.head _)
            · exact List.mem_append_right _ (.tail _ (.head _))
        | _ => exact absurd status (by simp [PersistedResult.failed, cancelledResult])
      rolledBack := by
        intro status
        rw [events]
        generalize trace.result = result at ended status ⊢
        cases ended with
        | rolledBack =>
            constructor
            · exact List.mem_append_right _ (.tail _ (.head _))
            · exact List.mem_append_right _ (.tail _ (.tail _ (.head _)))
        | _ => exact absurd status (by simp [PersistedResult.failed, cancelledResult])
      validates := by
        intro mode
        rw [installed.1.mode] at mode
        exact absurd mode (by decide) }

end Surroundings

/-- Release gating: every run of the script is gated, however its commands end and
whenever the context is cancelled.  It comes to a step at most once; it upgrades
only behind all gates; it rolls back only behind an upgrade that has succeeded and
a verification that has not, where the policy allows this; and what it reports is
backed by the commands that succeeded. -/
theorem release_gated (world : Surroundings) (request : KubernetesReleaseRequest) :
    world.Gated request (world.script request) := by
  rcases world.script_cases request with early | installed
  · exact early.gated
  · exact installed.gated

end Executor
end Agent
end DjangoOps
