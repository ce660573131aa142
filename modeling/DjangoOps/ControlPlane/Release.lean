import DjangoOps.Gateway.Step
import DjangoOps.ControlPlane.Operations

namespace DjangoOps
namespace ControlPlane

open Protocol Gateway

/-!
# Kubernetes releases

The row of a `KubernetesRelease`, the transaction at the start of
`start_release`, and the backend that turns a request into a result.  The
arguments of `start_release` are taken behind its validation, which touches no
row when it refuses them.
-/

/-- `KubernetesRelease.Status`. -/
inductive ReleaseStatus
  | pending
  | validating
  | migrating
  | applying
  | verifying
  | succeeded
  | failed
  | cancelled
  | rolledBack
  | rollbackBlocked
  deriving DecidableEq

namespace ReleaseStatus

/-- `_ACTIVE` -/
def active : ReleaseStatus -> Bool
  | .pending => true
  | .validating => true
  | .migrating => true
  | .applying => true
  | .verifying => true
  | _ => false

/-- `result.status if result.status in _TERMINAL else "failed"`. -/
def ofResult (status : String) : ReleaseStatus :=
  if status = "succeeded" then .succeeded
  else if status = "cancelled" then .cancelled
  else if status = "rolled_back" then .rolledBack
  else if status = "rollback_blocked" then .rollbackBlocked
  else .failed

theorem active_ofResult (status : String) : (ofResult status).active = false := by
  unfold ofResult
  repeat' split
  all_goals rfl

end ReleaseStatus

/-- `_RECOVERABLE_ERRORS` -/
def recoverableErrors : List String :=
  ["AGENT_UNAVAILABLE", "AGENT_RESULT_UNAVAILABLE", "CANCEL_UNAVAILABLE",
    "DURABLE_STATE_UNAVAILABLE", "RECOVERY_REQUIRED"]

/-- The fields of `KubernetesRelease` that its service reads or writes. -/
structure KubernetesRelease where
  operationId : String
  image : String
  chartVersion : String
  valuesDigest : String
  valuesSnapshot : String
  status : ReleaseStatus
  helmRevision : Option Nat
  previousHelmRevision : Option Nat
  previousImage : String
  previousValuesDigest : String
  migrationCompatibility : String
  rollbackStatus : String
  errorCode : String
  deriving DecidableEq

/-- What `start_release` reads of its target. -/
structure KubernetesTarget where
  agentId : String
  namespaceName : String
  releaseName : String
  credentialRef : String

/-- The validated arguments of `start_release`: the values are given by their
canonical encoding. -/
structure Intent where
  image : String
  chartVersion : String
  values : String
  compatibility : String
  deriving DecidableEq

/-- The target of a release, which nobody edits, and the digest of its values. -/
structure ServiceConfig where
  target : KubernetesTarget
  sha256 : String -> String

/-- `values_digest` -/
def ServiceConfig.valuesDigest (config : ServiceConfig) (values : String) : String :=
  config.sha256 values

namespace KubernetesRelease

/-- The filter of `start_release` on status and error code. -/
def isOpen (release : KubernetesRelease) : Bool :=
  release.status.active ||
    (decide (release.status = .failed) && decide (release.errorCode ∈ recoverableErrors))

/-- The filter of `start_release` on image, chart version and values. -/
def matchesIntent (config : ServiceConfig) (intent : Intent) (release : KubernetesRelease) : Bool :=
  decide (release.image = intent.image ∧ release.chartVersion = intent.chartVersion ∧
    release.valuesDigest = config.valuesDigest intent.values)

/-- `KubernetesRelease.objects.create(...)` within `start_release`. -/
def create (config : ServiceConfig) (intent : Intent) (operationId : String)
    (previous : Option KubernetesRelease) : KubernetesRelease where
  operationId := operationId
  image := intent.image
  chartVersion := intent.chartVersion
  valuesDigest := config.valuesDigest intent.values
  valuesSnapshot := intent.values
  status := .validating
  helmRevision := none
  previousHelmRevision := previous.bind helmRevision
  previousImage := (previous.map image).getD ""
  previousValuesDigest := (previous.map valuesDigest).getD ""
  migrationCompatibility := intent.compatibility
  rollbackStatus := ""
  errorCode := ""

/-- `update(status="validating", error_code="")`. -/
def reopen (release : KubernetesRelease) : KubernetesRelease :=
  { release with status := .validating, errorCode := "" }

end KubernetesRelease

/-- The request that `start_release` and `RuntimeKubernetesBackend._run` make. -/
def releaseRequest (config : ServiceConfig) (intent : Intent) (release : KubernetesRelease) :
    KubernetesReleaseRequest where
  jobId := release.operationId
  namespaceName := config.target.namespaceName
  releaseName := config.target.releaseName
  chartPath := "charts/djangoops"
  image := intent.image
  valuesJson := intent.values
  credentialRef := config.target.credentialRef
  migrationTimeoutSeconds := 300
  rolloutTimeoutSeconds := 300
  rollbackPolicy := if intent.compatibility = "safe" then "allow" else "block-after-migration"
  mode := "release"
  previousRevision := release.previousHelmRevision.getD 0

/-- What a backend makes of the last frame of a release. -/
structure ReleaseResult where
  status : String
  helmRevision : Option Nat
  previousRevision : Option Nat
  rollbackStatus : String
  errorCode : String
  deriving DecidableEq

/-! ## The runtime backend -/

/-- `value or None`. -/
def nonzero (value : Nat) : Option Nat := if value = 0 then none else some value

/-- What `kubernetes_release` raises before it yields a frame, given the state
of the gateway in which it opens its job. -/
def refusal (config : GatewayConfig) (gateway : Gateway.State) (agentId jobId : String) :
    Option PyException :=
  match gateway.openJob config agentId jobId true with
  | .error error => some error
  | .ok stream =>
      if kubernetesCapability ∈ (gateway.streams stream).session.capabilities then none
      else some (.lookupError "agent does not advertise Kubernetes release capability")

/-- How the coroutine of `_run` comes to its end.  `served` opens its job in a
state of the gateway; unless it is refused there, its generator yields the
deliveries and ends. -/
inductive Course
  | absent
  | timedOut
  | cancelled
  | served (config : GatewayConfig) (gateway : Gateway.State) (deliveries : List Delivery)

/-- The last `kubernetes_result` among the frames of a generator. -/
def lastResult (deliveries : List Delivery) : Option (Delivery × KubernetesReleaseResult) :=
  deliveries.reverse.findSome? fun delivery =>
    match delivery.frame with
    | .kubernetesResult result => some (delivery, result)
    | _ => none

/-- The return of `collect`. -/
def collect (deliveries : List Delivery) : Except PyException ReleaseResult :=
  match lastResult deliveries with
  | none => .error (.runtimeError "agent returned no Kubernetes result")
  | some (_, result) =>
      .ok
        { status := result.status, helmRevision := nonzero result.helmRevision
          previousRevision := nonzero result.previousRevision
          rollbackStatus := result.rollbackStatus, errorCode := result.errorCode }

/-- The exception clause around `future.result`. -/
def throughFuture : Except PyException ReleaseResult -> Except PyException ReleaseResult
  | .error .timeoutError => .error (.runtimeError "kubernetes agent operation failed")
  | .error (.runtimeError _) => .error (.runtimeError "kubernetes agent operation failed")
  | other => other

/-- `RuntimeKubernetesBackend._run` -/
def runBackend (agentId jobId : String) : Course -> Except PyException ReleaseResult
  | .absent => .error (.runtimeError "kubernetes agent backend unavailable")
  | .timedOut => throughFuture (.error .timeoutError)
  | .cancelled => throughFuture (.error .cancelledError)
  | .served config gateway deliveries =>
      match refusal config gateway agentId jobId with
      | some error => throughFuture (.error error)
      | none => throughFuture (collect deliveries)

namespace Course

/-- The result that a course ends with, and the frame that carries it. -/
def result? (agentId jobId : String) : Course -> Option (Delivery × KubernetesReleaseResult)
  | .served config gateway deliveries =>
      if (refusal config gateway agentId jobId).isSome then none else lastResult deliveries
  | _ => none

/-- The course ends with a result that an agent has sent. -/
def authored (agentId jobId : String) (course : Course) : Bool :=
  match course.result? agentId jobId with
  | some (delivery, _) => decide (delivery.origin ≠ .gateway)
  | none => false

/-- The course ends with a failure frame of the gateway. -/
def synthesised (agentId jobId : String) (course : Course) : Bool :=
  match course.result? agentId jobId with
  | some (delivery, _) => decide (delivery.origin = .gateway)
  | none => false

end Course

/-- A result of the backend is read off the last result frame. -/
theorem result_of_runBackend {agentId jobId : String} {course : Course} {result : ReleaseResult}
    (outcome : runBackend agentId jobId course = .ok result) :
    Exists fun found : Delivery × KubernetesReleaseResult =>
      course.result? agentId jobId = some found ∧
        result = ⟨found.2.status, nonzero found.2.helmRevision, nonzero found.2.previousRevision,
          found.2.rollbackStatus, found.2.errorCode⟩ := by
  cases course with
  | served config gateway deliveries =>
      simp only [runBackend] at outcome
      cases refused : refusal config gateway agentId jobId with
      | some error =>
          simp only [refused] at outcome
          cases error <;> cases outcome
      | none =>
          simp only [refused, collect] at outcome
          cases last : lastResult deliveries with
          | none =>
              simp only [last] at outcome
              cases outcome
          | some found =>
              simp only [last] at outcome
              cases outcome
              refine ⟨found, ?_, rfl⟩
              simp only [Course.result?, refused, Option.isSome_none, Bool.false_eq_true, if_false,
                last]
  | _ => cases outcome

/-- A result frame made by the gateway is a failure with one of its two codes,
and names no revision. -/
theorem lastResult_gateway {deliveries : List Delivery} {delivery : Delivery}
    {result : KubernetesReleaseResult} (last : lastResult deliveries = some (delivery, result))
    (made : delivery.origin = .gateway) :
    result.status = "failed" ∧ result.previousRevision = 0 ∧
      Exists fun code : FailureCode => result.errorCode = code.text := by
  rcases List.exists_of_findSome?_eq_some last with ⟨found, _, carries⟩
  have frame : found = delivery ∧ found.frame = .kubernetesResult result := by
    split at carries
    · rename_i carried same
      cases carries
      exact ⟨rfl, same⟩
    · cases carries
  rcases frame with ⟨rfl, same⟩
  rcases found.synthesised made with ⟨⟨kind, jobId, sequence, code⟩, failure⟩
  rw [same] at failure
  cases kind with
  | kubernetes =>
      cases failure
      exact ⟨rfl, rfl, code, rfl⟩
  | diagnostic => cases failure

theorem Course.result_gateway {agentId jobId : String} {course : Course} {delivery : Delivery}
    {frame : KubernetesReleaseResult} (found : course.result? agentId jobId = some (delivery, frame))
    (made : delivery.origin = .gateway) :
    frame.status = "failed" ∧ frame.previousRevision = 0 ∧
      Exists fun code : FailureCode => frame.errorCode = code.text := by
  cases course with
  | served config gateway deliveries =>
      simp only [Course.result?] at found
      split at found
      · cases found
      · exact lastResult_gateway found made
  | _ => cases found

/-! ## The writes of `start_release` -/

/-- The row that the result of a dispatch makes of an active one.  `release` is
the object that the call has kept since its transaction. -/
def KubernetesRelease.applyResult (release current : KubernetesRelease) (result : ReleaseResult) :
    KubernetesRelease :=
  { current with
    status := .ofResult result.status
    helmRevision := result.helmRevision
    previousHelmRevision := result.previousRevision.orElse fun _ => release.previousHelmRevision
    rollbackStatus := truncate 32 result.rollbackStatus
    errorCode := truncate 48 result.errorCode }

/-- The row after `except RuntimeError`. -/
def KubernetesRelease.applyUnavailable (current : KubernetesRelease) : KubernetesRelease :=
  { current with status := .failed, errorCode := "AGENT_UNAVAILABLE" }

/-- The row after `cancel_release`. -/
def KubernetesRelease.applyCancel (accepted : Bool) (current : KubernetesRelease) :
    KubernetesRelease :=
  { current with
    status := if accepted then .cancelled else .failed
    errorCode := if accepted then "" else "CANCEL_UNAVAILABLE" }

end ControlPlane
end DjangoOps
