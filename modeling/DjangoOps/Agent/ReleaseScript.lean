import DjangoOps.Agent.Executor

namespace DjangoOps
namespace Agent
namespace Executor

open Protocol

/-!
# The script of a release, step by step

`Runner.Run` with a record of every step that it comes to.  A step first
reports its progress, then starts its command, and looks at the context when
the command has failed.  Each of the three can go wrong, so the steps of this
script have three instants: the report of the step at position `n` is made at
`3 * n`, its command starts at `3 * n + 1`, and the look behind it happens at
`3 * n + 2`.

The progress callback is any function; that of the transport layer also refuses
when the context is cancelled.
-/

/-- How a command ends.  `unstarted` is an error of `Start`. -/
inductive Ending
  | unstarted
  | failed
  | timedOut
  | succeeded
  deriving DecidableEq

/-- What becomes of a step: its progress is not delivered, or its command ends. -/
inductive Outcome
  | undelivered
  | command (ending : Ending)
  deriving DecidableEq

namespace Outcome

abbrev succeeded : Outcome := .command .succeeded

/-- The command was started. -/
def started : Outcome -> Bool
  | .undelivered => false
  | .command .unstarted => false
  | .command _ => true

end Outcome

abbrev Event := Step × Outcome

/-- The surroundings of one run. -/
structure Surroundings where
  unmarshals : String -> Bool
  resolveKubeconfig : Option (String -> Option String)
  safeChart : String -> Option String
  valuesFile : Bool
  delivers : Step -> Bool
  ending : Step -> Ending
  helmOutput : HelmOutput
  cancelAt : Option Nat

/-- A result with the steps that the run came to. -/
structure Trace where
  result : PersistedResult
  events : List Event

namespace Surroundings

/-- `ctx.Err() != nil` at an instant. -/
def cancelledBy (world : Surroundings) (instant : Nat) : Bool :=
  match world.cancelAt with
  | none => false
  | some cancelled => decide (cancelled ≤ instant)

/-- The context is cancelled when the script looks at it behind a step. -/
def cancelledBehind (world : Surroundings) (step : Step) : Bool :=
  world.cancelledBy (3 * step.position + 2)

/-- `runOutputStep`; a command is not started under a cancelled context. -/
def attempt (world : Surroundings) (step : Step) : Outcome :=
  if world.delivers step = false then .undelivered
  else if world.cancelledBy (3 * step.position + 1) then .command .unstarted
  else .command (world.ending step)

/-- `if !runStep(...) { ... }` in front of the rest of the script. -/
def perform (world : Surroundings) (step : Step) (events : List Event)
    (otherwise next : List Event -> Trace) : Trace :=
  let after := events ++ [(step, world.attempt step)]
  if world.attempt step = .succeeded then next after else otherwise after

/-- The return after a failed step, which looks at the context first. -/
def stop (world : Surroundings) (step : Step) (errorCode : String) (events : List Event) : Trace :=
  ⟨if world.cancelledBehind step then cancelledResult else .failed errorCode, events⟩

/-- The loop over the required permissions. -/
def checkPermissions (world : Surroundings) (next : List Event -> Trace) :
    List Step -> List Event -> Trace
  | [], events => next events
  | step :: rest, events =>
      world.perform step events (world.stop step "KUBERNETES_PERMISSION_DENIED")
        (world.checkPermissions next rest)

/-- `Run` from a verified rollout on. -/
def record (world : Surroundings) (request : KubernetesReleaseRequest) (events : List Event) :
    Trace :=
  let failure (errorCode : String) (events : List Event) : Trace :=
    ⟨{ PersistedResult.failed errorCode with previousRevision := request.previousRevision }, events⟩
  world.perform .recordRevision events (failure "HELM_STATUS_FAILED") fun events =>
    match world.helmOutput with
    | .tooLong => failure "HELM_STATUS_FAILED" events
    | .invalid => failure "HELM_STATUS_INVALID" events
    | .metadata value =>
        match helmRevision value with
        | none => failure "HELM_STATUS_INVALID" events
        | some revision =>
            ⟨{ status := "succeeded", helmRevision := revision
               previousRevision := request.previousRevision, rollbackStatus := ""
               errorCode := "" }, events⟩

/-- `Run` from a failed rollout on. -/
def recover (world : Surroundings) (request : KubernetesReleaseRequest) (events : List Event) :
    Trace :=
  let ended (status : String) (revision : Nat) (rollbackStatus errorCode : String)
      (events : List Event) : Trace :=
    ⟨{ status := status, helmRevision := revision, previousRevision := request.previousRevision
       rollbackStatus := rollbackStatus, errorCode := errorCode }, events⟩
  if world.cancelledBehind .verify then ⟨cancelledResult, events⟩
  else if request.rollbackPolicy ≠ "allow" ∨ request.previousRevision = 0 then
    ended "rollback_blocked" 0 "blocked" "ROLLOUT_FAILED_DB_COMPATIBILITY_UNKNOWN" events
  else
    world.perform .rollback events (ended "failed" 0 "failed" "ROLLBACK_FAILED") fun events =>
      world.perform .rollbackVerify events (ended "failed" 0 "failed" "ROLLBACK_VERIFY_FAILED")
        (ended "rolled_back" request.previousRevision "succeeded" "")

/-- `Run` from the chart on. -/
def install (world : Surroundings) (request : KubernetesReleaseRequest) (events : List Event) :
    Trace :=
  match world.safeChart request.chartPath with
  | none => ⟨.failed "INVALID_CHART_PATH", events⟩
  | some _ =>
      if world.valuesFile = false then ⟨.failed "VALUES_FILE_FAILED", events⟩
      else
        world.perform .lint events (world.stop .lint "RENDER_FAILED") fun events =>
          world.perform .template events (world.stop .template "RENDER_FAILED") fun events =>
            world.perform .upgrade events (world.stop .upgrade "MIGRATION_OR_APPLY_FAILED")
              fun events =>
                world.perform .verify events (world.recover request) (world.record request)

/-- `Run` from the granted permissions on. -/
def checkHelm (world : Surroundings) (request : KubernetesReleaseRequest) (events : List Event) :
    Trace :=
  world.perform .helmVersion events (world.stop .helmVersion "HELM_UNAVAILABLE") fun events =>
    if request.mode = "validate" then
      ⟨{ PersistedResult.failed "" with status := "succeeded" }, events⟩
    else world.install request events

/-- `Runner.Run`. -/
def script (world : Surroundings) (request : KubernetesReleaseRequest) : Trace :=
  if (validateRequest world.unmarshals request).isSome then
    ⟨.failed "INVALID_RELEASE_REQUEST", []⟩
  else
    match world.resolveKubeconfig with
    | none => ⟨.failed "CREDENTIAL_RESOLVER_UNAVAILABLE", []⟩
    | some resolve =>
        if (resolve request.credentialRef).getD "" = "" then
          ⟨.failed "CLUSTER_CREDENTIAL_UNAVAILABLE", []⟩
        else world.checkPermissions (world.checkHelm request) permissionSteps []

/-! ## The run without its record -/

/-- The surroundings with two instants for each step. -/
def coarse (world : Surroundings) : World where
  unmarshals := world.unmarshals
  resolveKubeconfig := world.resolveKubeconfig
  safeChart := world.safeChart
  valuesFile := world.valuesFile
  sends := world.delivers
  succeeds := fun step =>
    !world.cancelledBy (3 * step.position + 1) && decide (world.ending step = .succeeded)
  helmOutput := world.helmOutput
  cancelAt := world.cancelAt.map fun instant => 2 * (instant / 3) + min 1 (instant % 3)

variable {world : Surroundings} {request : KubernetesReleaseRequest} {step : Step}
  {events : List Event} {otherwise next : List Event -> Trace}

theorem cancelledBy_mono {early late : Nat} (order : early ≤ late)
    (cancelled : world.cancelledBy early = true) : world.cancelledBy late = true := by
  unfold cancelledBy at cancelled ⊢
  split at cancelled
  · cases cancelled
  · exact decide_eq_true (Nat.le_trans (of_decide_eq_true cancelled) order)

theorem coarse_cancelledBy (position : Nat) :
    world.coarse.cancelledBy (2 * position) = world.cancelledBy (3 * position) ∧
      world.coarse.cancelledBy (2 * position + 1) = world.cancelledBy (3 * position + 2) := by
  unfold World.cancelledBy cancelledBy coarse
  cases world.cancelAt with
  | none => exact ⟨rfl, rfl⟩
  | some instant =>
      simp only [Option.map_some, decide_eq_decide]
      omega

/-- A step of the run succeeds when its attempt does. -/
theorem runStep_coarse (step : Step) :
    world.coarse.runStep step = true <-> world.attempt step = .succeeded := by
  have early := (world.coarse_cancelledBy step.position).1
  unfold World.runStep attempt
  rw [early]
  cases delivered : world.delivers step with
  | false =>
      refine iff_of_false ?_ (by intro same; cases same)
      simp only [coarse, delivered, Bool.and_false, Bool.false_and, Bool.false_eq_true,
        not_false_eq_true]
  | true =>
      cases cancelled : world.cancelledBy (3 * step.position + 1) with
      | true =>
          refine iff_of_false ?_ (by intro same; cases same)
          simp only [coarse, cancelled, Bool.not_true, Bool.false_and, Bool.and_false,
            Bool.false_eq_true, not_false_eq_true]
      | false =>
          have before : world.cancelledBy (3 * step.position) = false := by
            by_contra earlier
            rw [Bool.not_eq_false] at earlier
            rw [cancelledBy_mono (Nat.le_succ _) earlier] at cancelled
            cases cancelled
          simp only [coarse, delivered, cancelled, before, Bool.not_false, Bool.true_and,
            Bool.true_eq_false, if_false, Bool.false_eq_true, decide_eq_true_eq, Outcome.succeeded,
            Outcome.command.injEq]

/-- The steps that succeeded, in their order. -/
def successes (events : List Event) : List Step :=
  (events.filter fun event => decide (event.2 = .succeeded)).map Prod.fst

/-- The record agrees with a run: the result is the same, and so are the steps
that succeeded. -/
def Follows (trace : Trace) (execution : Execution) : Prop :=
  trace.result = execution.result ∧ successes trace.events = execution.completed

theorem successes_append (outcome : Outcome) :
    successes (events ++ [(step, outcome)]) =
      successes events ++ if outcome = .succeeded then [step] else [] := by
  unfold successes
  rw [List.filter_append, List.map_append, List.filter_cons, List.filter_nil]
  by_cases good : outcome = .succeeded
  · rw [if_pos good, if_pos (decide_eq_true good)]
    rfl
  · rw [if_neg good, if_neg (by rw [decide_eq_true_eq]; exact good)]
    rfl

theorem perform_success (good : world.attempt step = .succeeded) :
    world.perform step events otherwise next = next (events ++ [(step, .succeeded)]) := by
  unfold perform
  dsimp only
  rw [if_pos good, good]

theorem perform_failure (bad : world.attempt step ≠ .succeeded) :
    world.perform step events otherwise next =
      otherwise (events ++ [(step, world.attempt step)]) := by
  unfold perform
  dsimp only
  rw [if_neg bad]

/-- A step and its branch in the run. -/
theorem follows_perform {completed : List Step} {stopped going : Execution}
    (same : successes events = completed)
    (stops : forall {after : List Event}, successes after = completed ->
      Follows (otherwise after) stopped)
    (goes : forall {after : List Event}, successes after = completed ++ [step] ->
      Follows (next after) going) :
    Follows (world.perform step events otherwise next)
      (if world.coarse.runStep step = false then stopped else going) := by
  by_cases good : world.attempt step = .succeeded
  · rw [perform_success good, (world.runStep_coarse step).mpr good, if_neg Bool.true_eq_false.mp]
    apply goes
    rw [successes_append, if_pos rfl, same]
  · have bad : world.coarse.runStep step = false :=
      Bool.eq_false_iff.mpr fun ran => good ((world.runStep_coarse step).mp ran)
    rw [perform_failure good, bad, if_pos rfl]
    apply stops
    rw [successes_append, if_neg good, same, List.append_nil]

theorem follows_stop {completed : List Step} {errorCode : String}
    (same : successes events = completed) :
    Follows (world.stop step errorCode events)
      ⟨stepFailed world.coarse step errorCode, completed⟩ := by
  unfold stop stepFailed cancelledBehind
  rw [(world.coarse_cancelledBy step.position).2]
  exact ⟨rfl, same⟩

theorem follows_record {completed : List Step}
    (same : successes events = completed) :
    Follows (world.record request events) (recordRevision world.coarse request completed) := by
  unfold record recordRevision
  dsimp only
  refine follows_perform same (fun kept => ⟨rfl, kept⟩) fun longer => ?_
  change Follows (match world.helmOutput with
    | .tooLong => _
    | .invalid => _
    | .metadata value => _) (match world.helmOutput with
    | .tooLong => _
    | .invalid => _
    | .metadata value => _)
  cases world.helmOutput with
  | tooLong => exact ⟨rfl, longer⟩
  | invalid => exact ⟨rfl, longer⟩
  | metadata value =>
      dsimp only
      cases helmRevision value with
      | none => exact ⟨rfl, longer⟩
      | some revision => exact ⟨rfl, longer⟩

theorem follows_recover {completed : List Step}
    (same : successes events = completed) :
    Follows (world.recover request events) (recoverRollout world.coarse request completed) := by
  unfold recover recoverRollout cancelledBehind
  dsimp only
  rw [(world.coarse_cancelledBy Step.verify.position).2]
  split
  · exact ⟨rfl, same⟩
  · split
    · exact ⟨rfl, same⟩
    · refine follows_perform same (fun kept => ⟨rfl, kept⟩) fun longer => ?_
      refine follows_perform longer (fun kept => ⟨rfl, kept⟩) fun longest => ⟨rfl, ?_⟩
      exact longest.trans (List.append_assoc _ _ _)

theorem follows_install {completed : List Step}
    (same : successes events = completed) :
    Follows (world.install request events) (applyRelease world.coarse request completed) := by
  unfold install applyRelease
  change Follows (match world.safeChart request.chartPath with
    | none => _
    | some _ => _) (match world.safeChart request.chartPath with
    | none => _
    | some _ => _)
  cases world.safeChart request.chartPath with
  | none => exact ⟨rfl, same⟩
  | some chart =>
      dsimp only
      change Follows (if world.valuesFile = false then _ else _)
        (if world.valuesFile = false then _ else _)
      split
      · exact ⟨rfl, same⟩
      · have branch : forall (ran : Bool) (going stopped : Execution),
            (if ran then going else stopped) = if ran = false then stopped else going := by
          intro ran going stopped
          cases ran <;> rfl
        rw [branch]
        refine follows_perform same follows_stop fun lint => ?_
        refine follows_perform lint follows_stop fun template => ?_
        refine follows_perform (template.trans (List.append_assoc _ _ _)) follows_stop
          fun upgrade => ?_
        refine follows_perform (upgrade.trans (List.append_assoc _ _ _)) follows_recover
          fun verify => ?_
        exact follows_record (verify.trans (List.append_assoc _ _ _))

theorem follows_checkHelm {completed : List Step}
    (same : successes events = completed) :
    Follows (world.checkHelm request events)
      (if world.coarse.runStep .helmVersion = false then
        ⟨stepFailed world.coarse .helmVersion "HELM_UNAVAILABLE", completed⟩
      else if request.mode = "validate" then
        ⟨{ PersistedResult.failed "" with status := "succeeded" }, completed ++ [.helmVersion]⟩
      else applyRelease world.coarse request (completed ++ [.helmVersion])) := by
  refine follows_perform same follows_stop fun helm => ?_
  by_cases mode : request.mode = "validate"
  · rw [if_pos mode, if_pos mode]
    exact ⟨rfl, helm⟩
  · rw [if_neg mode, if_neg mode]
    exact follows_install helm

/-- The loop over the permissions stops at the first one that is not granted. -/
theorem follows_checkPermissions {going : List Step -> Execution}
    (goes : forall {events : List Event} {completed : List Step},
      successes events = completed -> Follows (next events) (going completed))
    (steps : List Step) {completed : List Step} (same : successes events = completed) :
    Follows (world.checkPermissions next steps events)
      (match steps.find? fun step => !world.coarse.runStep step with
        | some denied => ⟨stepFailed world.coarse denied "KUBERNETES_PERMISSION_DENIED",
            completed ++ steps.takeWhile world.coarse.runStep⟩
        | none => going (completed ++ steps)) := by
  induction steps generalizing events completed with
  | nil =>
      rw [List.find?_nil, List.append_nil]
      exact goes same
  | cons step rest inductionHypothesis =>
      rw [checkPermissions]
      by_cases good : world.attempt step = .succeeded
      · have ran := (world.runStep_coarse step).mpr good
        rw [List.find?_cons_of_neg (by rw [ran]; exact Bool.false_ne_true),
          List.takeWhile_cons_of_pos ran, perform_success good]
        have later := @inductionHypothesis (events ++ [(step, .succeeded)]) (completed ++ [step])
          (by rw [successes_append, if_pos rfl, same])
        rw [List.append_assoc, List.append_assoc] at later
        exact later
      · have failed : ¬ world.coarse.runStep step = true :=
          fun ran => good ((world.runStep_coarse step).mp ran)
        rw [List.find?_cons_of_pos (by rw [Bool.not_eq_true'] ; exact Bool.eq_false_iff.mpr failed),
          List.takeWhile_cons_of_neg failed, List.append_nil, perform_failure good]
        apply follows_stop
        rw [successes_append, if_neg good, same, List.append_nil]

/-- Without its record the script is the run of `Runner.Run`. -/
theorem follows_script : Follows (world.script request) (run world.coarse request) := by
  unfold script run
  change Follows (if (validateRequest world.unmarshals request).isSome = true then _ else _)
    (if (validateRequest world.unmarshals request).isSome = true then _ else _)
  split
  · exact ⟨rfl, rfl⟩
  · change Follows (match world.resolveKubeconfig with
      | none => _
      | some _ => _) (match world.resolveKubeconfig with
      | none => _
      | some _ => _)
    cases world.resolveKubeconfig with
    | none => exact ⟨rfl, rfl⟩
    | some resolve =>
        dsimp only
        split
        · exact ⟨rfl, rfl⟩
        · have loop := @follows_checkPermissions world [] (world.checkHelm request)
            (fun completed =>
              if world.coarse.runStep .helmVersion = false then
                ⟨stepFailed world.coarse .helmVersion "HELM_UNAVAILABLE", completed⟩
              else if request.mode = "validate" then
                ⟨{ PersistedResult.failed "" with status := "succeeded" },
                  completed ++ [.helmVersion]⟩
              else applyRelease world.coarse request (completed ++ [.helmVersion]))
            follows_checkHelm permissionSteps [] rfl
          exact loop

end Surroundings

end Executor
end Agent
end DjangoOps
