import DjangoOps.Agent.Transport

namespace DjangoOps
namespace Agent
namespace Executor

open Protocol

/-!
# The Kubernetes executor

`kubernetes.Runner.Run` is a fixed script of external commands.  Its
surroundings decide how each command ends and when the job context is
cancelled.  Instants are numbered: the progress report of the step at position
`n` happens at instant `2 * n`, its command runs at instant `2 * n + 1`, and
the transport layer looks at the context once more at `returned`.  A command
that runs while the context is cancelled may end either way.

The result is returned together with the commands that completed
successfully, which is what the run did to the cluster.
-/

/-- The steps of the script. -/
inductive Step
  | permission (index : Nat)
  | helmVersion
  | lint
  | template
  | upgrade
  | verify
  | recordRevision
  | rollback
  | rollbackVerify
  deriving DecidableEq

def requiredPermissions : List (String × String) :=
  [("get", "deployments.apps"), ("create", "deployments.apps"), ("patch", "deployments.apps"),
    ("delete", "deployments.apps"), ("get", "jobs.batch"), ("create", "jobs.batch"),
    ("delete", "jobs.batch"), ("get", "services"), ("create", "services"), ("patch", "services"),
    ("delete", "services"), ("get", "secrets"), ("create", "secrets"), ("update", "secrets"),
    ("patch", "secrets"), ("delete", "secrets"), ("get", "ingresses.networking.k8s.io"),
    ("create", "ingresses.networking.k8s.io"), ("patch", "ingresses.networking.k8s.io"),
    ("delete", "ingresses.networking.k8s.io"), ("get", "pods"), ("list", "pods"),
    ("get", "events"), ("list", "events")]

def permissionSteps : List Step := (List.range requiredPermissions.length).map .permission

/-- The place of a step in the script; a rollback takes the place of the
recording of the revision. -/
def Step.position : Step -> Nat
  | .permission index => index
  | .helmVersion => 24
  | .lint => 25
  | .template => 26
  | .upgrade => 27
  | .verify => 28
  | .recordRevision => 29
  | .rollback => 29
  | .rollbackVerify => 30

/-- The instant at which the executor has returned. -/
def returned : Nat := 62

/-- A JSON value as far as unmarshalling it into a `uint32` can tell. -/
inductive RawValue
  | number (value : Nat)
  | other
  deriving DecidableEq

/-- The two members of the metadata that are looked at. -/
structure HelmMetadata where
  revision : Option RawValue
  version : Option RawValue

/-- What `helm get metadata` printed: too much, no JSON object, or an object. -/
inductive HelmOutput
  | tooLong
  | invalid
  | metadata (value : HelmMetadata)

/-- The surroundings of one run. -/
structure World where
  unmarshals : String -> Bool
  resolveKubeconfig : Option (String -> Option String)
  safeChart : String -> Option String
  valuesFile : Bool
  sends : Step -> Bool
  succeeds : Step -> Bool
  helmOutput : HelmOutput
  cancelAt : Option Nat

/-- `ctx.Err() != nil` at an instant. -/
def World.cancelledBy (world : World) (instant : Nat) : Bool :=
  match world.cancelAt with
  | none => false
  | some cancelled => decide (cancelled ≤ instant)

/-- `runStep`. -/
def World.runStep (world : World) (step : Step) : Bool :=
  !world.cancelledBy (2 * step.position) && world.sends step && world.succeeds step

/-! ## `ValidateRequest` -/

def isDnsCharacter (char : Char) : Bool :=
  ('a' ≤ char && char ≤ 'z') || ('0' ≤ char && char ≤ '9')

/-- `^[a-z0-9](?:[-a-z0-9]*[a-z0-9])?$` and the bound on the length, which
counts bytes; a text that matches has one byte for each character. -/
def dnsName (text : String) (bound : Nat) : Bool :=
  match text.toList with
  | [] => false
  | first :: rest =>
      isDnsCharacter first && rest.all (fun char => isDnsCharacter char || char == '-') &&
        isDnsCharacter ((first :: rest).getLast (List.cons_ne_nil first rest)) &&
        decide (text.length ≤ bound)

/-- `^.+@sha256:[0-9a-f]{64}$`. -/
def digestImage (text : String) : Bool :=
  let chars := text.toList
  let name := chars.take (chars.length - 72)
  let digest := chars.drop (chars.length - 72)
  decide (72 < chars.length) && name.all (fun char => char != '\n') &&
    decide (digest.take 8 = "@sha256:".toList) &&
    (digest.drop 8).all fun char =>
      ('a' ≤ char && char ≤ 'f') || ('0' ≤ char && char ≤ '9')

/-- `^[A-Za-z0-9][A-Za-z0-9:/_.-]{2,127}$`. -/
def credentialRef (text : String) : Bool :=
  match text.toList with
  | [] => false
  | first :: rest =>
      isAsciiAlphanumeric first && decide (2 ≤ rest.length) && decide (rest.length ≤ 127) &&
        rest.all fun char => isIdCharacter char || char == ':' || char == '/'

/-- `ValidateRequest`; the value is the text of its error. -/
def validateRequest (unmarshals : String -> Bool) (request : KubernetesReleaseRequest) :
    Option String :=
  if dnsName request.namespaceName 63 = false then some "invalid namespace"
  else if dnsName request.releaseName 53 = false then some "invalid release name"
  else if digestImage request.image = false then some "image must use sha256 digest"
  else if credentialRef request.credentialRef = false then some "invalid credential reference"
  else if request.mode ≠ "validate" ∧ request.mode ≠ "release" then
    some "invalid Kubernetes operation mode"
  else if request.rollbackPolicy ≠ "allow" ∧ request.rollbackPolicy ≠ "block-after-migration" then
    some "invalid rollback policy"
  else if request.migrationTimeoutSeconds = 0 ∨ 1800 < request.migrationTimeoutSeconds ∨
      request.rolloutTimeoutSeconds = 0 ∨ 1800 < request.rolloutTimeoutSeconds then
    some "timeouts must be positive and bounded to 30 minutes"
  else if unmarshals request.valuesJson = false then some "invalid values JSON"
  else none

/-! ## `Runner.Run` -/

/-- `helmRevision`; no value on an error. -/
def helmRevision (metadata : HelmMetadata) : Option Nat :=
  let version : Option Nat :=
    match metadata.version with
    | some (.number value) => if value ≠ 0 then some value else none
    | _ => none
  match metadata.revision with
  | some .other => none
  | some (.number value) => if value ≠ 0 then some value else version
  | none => version

/-- A result with the commands that completed successfully before it. -/
structure Execution where
  result : PersistedResult
  completed : List Step

/-- `Result{Status: "cancelled", ErrorCode: "CANCELLED"}`. -/
def cancelledResult : PersistedResult :=
  { status := "cancelled", helmRevision := 0, previousRevision := 0, rollbackStatus := ""
    errorCode := "CANCELLED" }

/-- The return after a failed step, which looks at the context first. -/
def stepFailed (world : World) (step : Step) (errorCode : String) : PersistedResult :=
  if world.cancelledBy (2 * step.position + 1) then cancelledResult else .failed errorCode

/-- `Run` from a verified rollout on. -/
def recordRevision (world : World) (request : KubernetesReleaseRequest) (completed : List Step) :
    Execution :=
  let failure (errorCode : String) : PersistedResult :=
    { PersistedResult.failed errorCode with previousRevision := request.previousRevision }
  if world.runStep .recordRevision = false then ⟨failure "HELM_STATUS_FAILED", completed⟩
  else
    match world.helmOutput with
    | .tooLong => ⟨failure "HELM_STATUS_FAILED", completed ++ [.recordRevision]⟩
    | .invalid => ⟨failure "HELM_STATUS_INVALID", completed ++ [.recordRevision]⟩
    | .metadata value =>
        match helmRevision value with
        | none => ⟨failure "HELM_STATUS_INVALID", completed ++ [.recordRevision]⟩
        | some revision =>
            ⟨{ status := "succeeded", helmRevision := revision
               previousRevision := request.previousRevision, rollbackStatus := ""
               errorCode := "" }, completed ++ [.recordRevision]⟩

/-- `Run` from a failed rollout on. -/
def recoverRollout (world : World) (request : KubernetesReleaseRequest) (completed : List Step) :
    Execution :=
  let ended (status : String) (revision : Nat) (rollbackStatus errorCode : String) :
      PersistedResult :=
    { status := status, helmRevision := revision, previousRevision := request.previousRevision
      rollbackStatus := rollbackStatus, errorCode := errorCode }
  if world.cancelledBy (2 * Step.verify.position + 1) then ⟨cancelledResult, completed⟩
  else if request.rollbackPolicy ≠ "allow" ∨ request.previousRevision = 0 then
    ⟨ended "rollback_blocked" 0 "blocked" "ROLLOUT_FAILED_DB_COMPATIBILITY_UNKNOWN", completed⟩
  else if world.runStep .rollback = false then
    ⟨ended "failed" 0 "failed" "ROLLBACK_FAILED", completed⟩
  else if world.runStep .rollbackVerify = false then
    ⟨ended "failed" 0 "failed" "ROLLBACK_VERIFY_FAILED", completed ++ [.rollback]⟩
  else
    ⟨ended "rolled_back" request.previousRevision "succeeded" "",
      completed ++ [.rollback, .rollbackVerify]⟩

/-- `Run` from the chart on, after a successful validation of the target. -/
def applyRelease (world : World) (request : KubernetesReleaseRequest) (completed : List Step) :
    Execution :=
  match world.safeChart request.chartPath with
  | none => ⟨.failed "INVALID_CHART_PATH", completed⟩
  | some _ =>
      if world.valuesFile = false then ⟨.failed "VALUES_FILE_FAILED", completed⟩
      else if world.runStep .lint = false then
        ⟨stepFailed world .lint "RENDER_FAILED", completed⟩
      else if world.runStep .template = false then
        ⟨stepFailed world .template "RENDER_FAILED", completed ++ [.lint]⟩
      else if world.runStep .upgrade = false then
        ⟨stepFailed world .upgrade "MIGRATION_OR_APPLY_FAILED", completed ++ [.lint, .template]⟩
      else if world.runStep .verify then
        recordRevision world request (completed ++ [.lint, .template, .upgrade, .verify])
      else recoverRollout world request (completed ++ [.lint, .template, .upgrade])

/-- `Runner.Run`. -/
def run (world : World) (request : KubernetesReleaseRequest) : Execution :=
  if (validateRequest world.unmarshals request).isSome then
    ⟨.failed "INVALID_RELEASE_REQUEST", []⟩
  else
    match world.resolveKubeconfig with
    | none => ⟨.failed "CREDENTIAL_RESOLVER_UNAVAILABLE", []⟩
    | some resolve =>
        if (resolve request.credentialRef).getD "" = "" then
          ⟨.failed "CLUSTER_CREDENTIAL_UNAVAILABLE", []⟩
        else
          match permissionSteps.find? (fun step => !world.runStep step) with
          | some denied =>
              ⟨stepFailed world denied "KUBERNETES_PERMISSION_DENIED",
                permissionSteps.takeWhile world.runStep⟩
          | none =>
              if world.runStep .helmVersion = false then
                ⟨stepFailed world .helmVersion "HELM_UNAVAILABLE", permissionSteps⟩
              else if request.mode = "validate" then
                ⟨{ PersistedResult.failed "" with status := "succeeded" },
                  permissionSteps ++ [.helmVersion]⟩
              else applyRelease world request (permissionSteps ++ [.helmVersion])

/-! ## What a result says about the run -/

/-- A cancelled context stays cancelled. -/
theorem World.cancelledBy_mono {world : World} {early late : Nat} (order : early ≤ late)
    (cancelled : world.cancelledBy early = true) : world.cancelledBy late = true := by
  unfold cancelledBy at cancelled ⊢
  split at cancelled
  · cases cancelled
  · exact decide_eq_true (Nat.le_trans (of_decide_eq_true cancelled) order)

/-- Every step of the script ends before the executor returns. -/
theorem position_permission {step : Step} (listed : step ∈ permissionSteps) :
    2 * step.position + 1 ≤ returned := by
  rcases List.mem_map.mp listed with ⟨index, inRange, same⟩
  have bound : index < 24 := List.mem_range.mp inRange
  subst same
  simp only [Step.position, returned]
  omega

/-- A cancellation is reported only when there was one, a revision only for a
run that completed the upgrade, and a success only for a validation or for a
run that has read the revision back.  The previous revision is the requested
one, if it is reported at all. -/
structure Honest (world : World) (request : KubernetesReleaseRequest) (execution : Execution) :
    Prop where
  cancelled : execution.result.status = "cancelled" -> world.cancelledBy returned = true
  revision : execution.result.helmRevision ≠ 0 -> Step.upgrade ∈ execution.completed
  succeeded : execution.result.status = "succeeded" -> request.mode = "validate" ∨
    (Step.upgrade ∈ execution.completed ∧ Step.recordRevision ∈ execution.completed ∧
      Exists fun value : HelmMetadata => world.helmOutput = .metadata value ∧
        helmRevision value = some execution.result.helmRevision)
  previous : execution.result.previousRevision = 0 ∨
    execution.result.previousRevision = request.previousRevision

variable {world : World} {request : KubernetesReleaseRequest} {completed : List Step}

/-- An ending that reports neither a success nor a cancellation. -/
theorem Honest.of_failure {result : PersistedResult}
    (status : result.status ≠ "cancelled" ∧ result.status ≠ "succeeded")
    (revision : result.helmRevision = 0 ∨ Step.upgrade ∈ completed)
    (previous : result.previousRevision = 0 ∨
      result.previousRevision = request.previousRevision) :
    Honest world request ⟨result, completed⟩ where
  cancelled := fun same => absurd same status.1
  revision := fun nonzero => revision.resolve_left nonzero
  succeeded := fun same => absurd same status.2
  previous := previous

theorem Honest.of_failed (errorCode : String) :
    Honest world request ⟨.failed errorCode, completed⟩ :=
  .of_failure (by simp [PersistedResult.failed]) (.inl rfl) (.inl rfl)

/-- The ending of a run whose context is looked at inside the script. -/
theorem Honest.of_cancelled {instant : Nat} (inside : instant ≤ returned)
    (cancelled : world.cancelledBy instant = true) :
    Honest world request ⟨cancelledResult, completed⟩ where
  cancelled := fun _ => World.cancelledBy_mono inside cancelled
  revision := fun nonzero => absurd rfl nonzero
  succeeded := fun impossible => absurd impossible (by simp [cancelledResult])
  previous := .inl rfl

theorem honest_stepFailed {step : Step} (errorCode : String)
    (inside : 2 * step.position + 1 ≤ returned) :
    Honest world request ⟨stepFailed world step errorCode, completed⟩ := by
  unfold stepFailed
  split
  · rename_i cancelled
    exact .of_cancelled inside cancelled
  · exact .of_failed errorCode

theorem honest_recordRevision (upgraded : Step.upgrade ∈ completed) :
    Honest world request (recordRevision world request completed) := by
  have further : Step.upgrade ∈ completed ++ [.recordRevision] :=
    List.mem_append.mpr (.inl upgraded)
  unfold recordRevision
  dsimp only
  split
  · exact .of_failure (by simp [PersistedResult.failed]) (.inl rfl) (.inr rfl)
  · split
    · exact .of_failure (by simp [PersistedResult.failed]) (.inl rfl) (.inr rfl)
    · exact .of_failure (by simp [PersistedResult.failed]) (.inl rfl) (.inr rfl)
    · rename_i value output
      split
      · exact .of_failure (by simp [PersistedResult.failed]) (.inl rfl) (.inr rfl)
      · rename_i revision found
        have recorded : Step.recordRevision ∈ completed ++ [.recordRevision] :=
          List.mem_append.mpr (.inr (.head _))
        exact
          { cancelled := fun impossible => absurd impossible (by simp)
            revision := fun _ => further
            succeeded := fun _ => .inr ⟨further, recorded, value, output, found⟩
            previous := .inr rfl }

theorem honest_recoverRollout (upgraded : Step.upgrade ∈ completed) :
    Honest world request (recoverRollout world request completed) := by
  unfold recoverRollout
  dsimp only
  split
  · rename_i cancelled
    exact .of_cancelled (by decide) cancelled
  · split
    · exact .of_failure (by simp) (.inl rfl) (.inr rfl)
    · split
      · exact .of_failure (by simp) (.inl rfl) (.inr rfl)
      · split
        · exact .of_failure (by simp) (.inl rfl) (.inr rfl)
        · exact .of_failure (by simp) (.inr (List.mem_append.mpr (.inl upgraded))) (.inr rfl)

theorem honest_applyRelease : Honest world request (applyRelease world request completed) := by
  unfold applyRelease
  split
  · exact .of_failed _
  · split
    · exact .of_failed _
    · split
      · exact honest_stepFailed _ (by decide)
      · split
        · exact honest_stepFailed _ (by decide)
        · split
          · exact honest_stepFailed _ (by decide)
          · split
            · exact honest_recordRevision (List.mem_append.mpr (.inr (by decide)))
            · exact honest_recoverRollout (List.mem_append.mpr (.inr (by decide)))

/-- Every result of the executor is honest. -/
theorem honest_run (world : World) (request : KubernetesReleaseRequest) :
    Honest world request (run world request) := by
  unfold run
  split
  · exact .of_failed _
  · split
    · exact .of_failed _
    · split
      · exact .of_failed _
      · split
        · rename_i denied found
          exact honest_stepFailed _ (position_permission (List.mem_of_find?_eq_some found))
        · split
          · exact honest_stepFailed _ (by decide)
          · split
            · rename_i mode
              exact
                { cancelled := fun impossible => absurd impossible (by simp)
                  revision := fun nonzero => absurd rfl nonzero
                  succeeded := fun _ => .inl mode
                  previous := .inl rfl }
            · exact honest_applyRelease

end Executor

end Agent
end DjangoOps
