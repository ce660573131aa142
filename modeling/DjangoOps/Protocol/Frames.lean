import Mathlib.Data.Char

namespace DjangoOps
namespace Protocol

/-!
# Messages of the agent control protocol

The two directions of the bidirectional `Connect` stream.  Field names follow
`proto/djangoops/agent/v1/agent.proto`; a `oneof` is an inductive type, and
the frame whose payload is unset is kept because a peer may send it.
-/

/-- The instance through which a segment is looked for in a split path. -/
instance lawfulBEqSegment : LawfulBEq (List Char) := inferInstance

/-- A letter or digit of the ASCII range, the only characters that the
identifier patterns of both peers accept in first position. -/
def isAsciiAlphanumeric (char : Char) : Bool :=
  ('a' ≤ char && char ≤ 'z') || ('A' ≤ char && char ≤ 'Z') || ('0' ≤ char && char ≤ '9')

/-- It is the class that the patterns of the control plane are written with. -/
theorem isAsciiAlphanumeric_eq (char : Char) : isAsciiAlphanumeric char = char.isAlphanum := by
  have upper : ('A' ≤ char && char ≤ 'Z') = char.isUpper := by
    unfold Char.isUpper
    rw [Bool.eq_iff_iff]
    simp only [Bool.and_eq_true, decide_eq_true_eq]
    rfl
  have lower : ('a' ≤ char && char ≤ 'z') = char.isLower := rfl
  have digit : ('0' ≤ char && char ≤ '9') = char.isDigit := rfl
  unfold isAsciiAlphanumeric Char.isAlphanum Char.isAlpha
  rw [lower, upper, digit, Bool.or_comm char.isUpper]

theorem toNat_of_isAlphanum {char : Char} (alphanumeric : char.isAlphanum = true) :
    48 ≤ char.toNat ∧ char.toNat ≤ 122 := by
  rw [← isAsciiAlphanumeric_eq] at alphanumeric
  simp only [isAsciiAlphanumeric, Bool.or_eq_true, Bool.and_eq_true, decide_eq_true_eq,
    Char.le_def, UInt32.le_iff_toNat_le] at alphanumeric
  change ((97 ≤ char.toNat ∧ char.toNat ≤ 122) ∨ (65 ≤ char.toNat ∧ char.toNat ≤ 90)) ∨
    (48 ≤ char.toNat ∧ char.toNat ≤ 57) at alphanumeric
  omega

def isIdCharacter (char : Char) : Bool :=
  isAsciiAlphanumeric char || char == '.' || char == '_' || char == '-'

/-- The pattern `^[A-Za-z0-9][A-Za-z0-9._-]{0,63}$`, matched against the whole
text.  It is `_ID_RE` of the gateway and `safeJobID` of the agent. -/
def safeJobID (text : String) : Bool :=
  match text.toList with
  | [] => false
  | first :: rest =>
      isAsciiAlphanumeric first && rest.all isIdCharacter && decide (rest.length ≤ 63)

structure ProtocolVersion where
  major : Nat
  minor : Nat
  deriving DecidableEq

structure AgentHello where
  agentId : String
  protocol : ProtocolVersion
  capabilities : List String
  authToken : String
  deriving DecidableEq

structure DiagnosticsRequest where
  jobId : String
  releaseRoot : String
  deriving DecidableEq

structure ProgressEvent where
  jobId : String
  sequence : Nat
  phase : String
  message : String
  deriving DecidableEq

structure DiagnosticCheck where
  name : String
  status : String
  detail : String
  deriving DecidableEq

structure DiagnosticsResult where
  jobId : String
  sequence : Nat
  status : String
  checks : List DiagnosticCheck
  deriving DecidableEq

structure KubernetesReleaseRequest where
  jobId : String
  namespaceName : String
  releaseName : String
  chartPath : String
  image : String
  valuesJson : String
  credentialRef : String
  migrationTimeoutSeconds : Nat
  rolloutTimeoutSeconds : Nat
  rollbackPolicy : String
  mode : String
  previousRevision : Nat
  deriving DecidableEq

structure KubernetesProgressEvent where
  jobId : String
  sequence : Nat
  phase : String
  message : String
  deriving DecidableEq

structure KubernetesReleaseResult where
  jobId : String
  sequence : Nat
  status : String
  helmRevision : Nat
  previousRevision : Nat
  rollbackStatus : String
  errorCode : String
  deriving DecidableEq

/-- What an agent sends. -/
inductive AgentFrame
  | unset
  | hello (hello : AgentHello)
  | heartbeat (unixMillis : Int)
  | progress (event : ProgressEvent)
  | result (event : DiagnosticsResult)
  | kubernetesProgress (event : KubernetesProgressEvent)
  | kubernetesResult (event : KubernetesReleaseResult)
  deriving DecidableEq

/-- What the control plane sends. -/
inductive ControlFrame
  | diagnostics (request : DiagnosticsRequest)
  | cancel (jobId : String)
  | kubernetesRelease (request : KubernetesReleaseRequest)
  deriving DecidableEq

namespace AgentFrame

/-- Job id and sequence number of the four kinds of job event.  The session
reader dispatches on exactly these. -/
def event? : AgentFrame -> Option (String × Nat)
  | .progress event => some (event.jobId, event.sequence)
  | .result event => some (event.jobId, event.sequence)
  | .kubernetesProgress event => some (event.jobId, event.sequence)
  | .kubernetesResult event => some (event.jobId, event.sequence)
  | _ => none

/-- `HasField("result") or HasField("kubernetes_result")`. -/
def isTerminal : AgentFrame -> Bool
  | .result _ => true
  | .kubernetesResult _ => true
  | _ => false

/-- The sequence number a consumer reads off a frame. -/
def sequence (frame : AgentFrame) : Nat := (frame.event?.map Prod.snd).getD 0

end AgentFrame

/-- A request that asks the agent to start a job. -/
inductive Request
  | diagnostics (request : DiagnosticsRequest)
  | kubernetes (request : KubernetesReleaseRequest)
  deriving DecidableEq

namespace Request

def jobId : Request -> String
  | .diagnostics request => request.jobId
  | .kubernetes request => request.jobId

end Request

namespace ControlFrame

/-- The job request carried by a control frame, if it is not a cancellation. -/
def request? : ControlFrame -> Option Request
  | .diagnostics request => some (.diagnostics request)
  | .kubernetesRelease request => some (.kubernetes request)
  | .cancel _ => none

end ControlFrame

end Protocol
end DjangoOps
