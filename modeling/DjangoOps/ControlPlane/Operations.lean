import DjangoOps.Gateway.State
import DjangoOps.ControlPlane.Redaction

namespace DjangoOps
namespace ControlPlane

open Protocol Gateway

/-!
# Diagnostic operations

The row of a `DiagnosticOperation` and the writes of the task that consumes
the frames of its job.  Each write is one conditional update of the database;
other transactions may run between two of them.
-/

/-- `DiagnosticOperation.Status`. -/
inductive OperationStatus
  | pending
  | running
  | succeeded
  | failed
  | cancelled
  | offline
  | overloaded
  | disconnected
  | timeout
  deriving DecidableEq

namespace OperationStatus

/-- `_ACTIVE` -/
def active : OperationStatus -> Bool
  | .pending => true
  | .running => true
  | _ => false

end OperationStatus

/-- The JSON value of `result_summary`. -/
inductive ResultSummary
  | empty
  | progress (phase message : String)
  | checks (checks : List DiagnosticCheck)
  deriving DecidableEq

structure DiagnosticOperation where
  status : OperationStatus
  resultSummary : ResultSummary
  errorCode : String
  deriving DecidableEq

def maxChecks : Nat := 32

/-- `text[:length]`. -/
def truncate (length : Nat) (text : String) : String := String.ofList (text.toList.take length)

/-- `str.upper`, one character at a time.  Only its values on the ASCII range
are fixed. -/
structure Casing where
  upper : Char -> List Char
  ascii : forall char, char.toNat < 128 -> upper char = [char.toUpper]

/-- The casing that changes ASCII letters only. -/
def Casing.simple : Casing := ⟨fun char => [char.toUpper], fun _ _ => rfl⟩

def Casing.upperText (casing : Casing) (text : String) : String :=
  String.ofList (text.toList.flatMap casing.upper)

theorem Casing.upperText_ascii (casing : Casing) {text : String}
    (ascii : forall char, char ∈ text.toList -> char.toNat < 128) :
    casing.upperText text = String.ofList (text.toList.map Char.toUpper) := by
  unfold upperText
  congr 1
  generalize text.toList = chars at ascii ⊢
  induction chars with
  | nil => rfl
  | cons char rest inductionHypothesis =>
      rw [List.flatMap_cons, casing.ascii char (ascii char (.head _)),
        inductionHypothesis fun other listed => ascii other (.tail _ listed)]
      rfl

namespace DiagnosticOperation

/-- `filter(pk=pk, status__in=_ACTIVE).update(...)`. -/
def updateActive (operation : DiagnosticOperation)
    (change : DiagnosticOperation -> DiagnosticOperation) : DiagnosticOperation :=
  if operation.status.active then change operation else operation

/-- `_set_running` -/
def setRunning (operation : DiagnosticOperation) : DiagnosticOperation :=
  if operation.status = .pending then { operation with status := .running } else operation

/-- `_save_progress` -/
def saveProgress (operation : DiagnosticOperation) (phase message : String) :
    DiagnosticOperation :=
  operation.updateActive fun current =>
    { current with resultSummary := .progress (truncate 64 phase) (redact message) }

/-- The first four cases of `_save_result`. -/
def mapStatus (status : String) : OperationStatus :=
  if status = "succeeded" then .succeeded
  else if status = "cancelled" then .cancelled
  else if status = "disconnected" then .disconnected
  else .failed

/-- `_save_result` -/
def saveResult (casing : Casing) (operation : DiagnosticOperation) (status : String)
    (checks : List DiagnosticCheck) : DiagnosticOperation :=
  operation.updateActive fun _ =>
    { status := mapStatus status
      resultSummary := .checks checks
      errorCode :=
        if mapStatus status = .succeeded then "" else truncate 32 (casing.upperText status) }

/-- `_save_error` -/
def saveError (operation : DiagnosticOperation) (status : OperationStatus) (code : String) :
    DiagnosticOperation :=
  operation.updateActive fun current => { current with status := status, errorCode := code }

/-- One check as `_consume` stores it. -/
def storedCheck (check : DiagnosticCheck) : DiagnosticCheck :=
  { name := truncate 128 check.name, status := truncate 32 check.status
    detail := redact check.detail }

/-- The body of the loop of `_consume`. -/
def saveFrame (casing : Casing) (operation : DiagnosticOperation) (frame : AgentFrame) :
    DiagnosticOperation :=
  match frame with
  | .progress event => operation.saveProgress event.phase event.message
  | .result event =>
      operation.saveResult casing event.status ((event.checks.take maxChecks).map storedCheck)
  | _ => operation

/-- The loop of `_consume`.  Every frame comes with what other transactions
did to the row since the last one. -/
def saveFrames (casing : Casing) :
    DiagnosticOperation -> List ((DiagnosticOperation -> DiagnosticOperation) × AgentFrame) ->
      DiagnosticOperation
  | operation, [] => operation
  | operation, (others, frame) :: rest =>
      saveFrames casing ((others operation).saveFrame casing frame) rest

/-- The exception handlers of `_consume`; an exception that is not listed there
leaves the row as it is. -/
def saveException (operation : DiagnosticOperation) : PyException -> DiagnosticOperation
  | .timeoutError => operation.saveError .timeout "DIAGNOSTIC_TIMEOUT"
  | .lookupError _ => operation.saveError .offline "AGENT_OFFLINE"
  | .runtimeError _ => operation.saveError .overloaded "OVERLOADED"
  | .valueError _ => operation.saveError .failed "DIAGNOSTIC_FAILED"
  | .typeError => operation.saveError .failed "DIAGNOSTIC_FAILED"
  | .cancelledError => operation

/-- `_consume`, whose stream of frames ends by itself or with an exception. -/
def consume (casing : Casing) (operation : DiagnosticOperation)
    (frames : List ((DiagnosticOperation -> DiagnosticOperation) × AgentFrame))
    (ending : Option PyException) : DiagnosticOperation :=
  let consumed := saveFrames casing operation.setRunning frames
  match ending with
  | none => consumed
  | some error => consumed.saveException error

/-- Frames together with what other transactions did before each of them. -/
def interleave (others : Nat -> DiagnosticOperation -> DiagnosticOperation)
    (frames : List AgentFrame) :
    List ((DiagnosticOperation -> DiagnosticOperation) × AgentFrame) :=
  frames.zipIdx.map fun entry => (others entry.2, entry.1)

/-- The row as the last frame of a stream finds it. -/
def atLastFrame (casing : Casing) (operation : DiagnosticOperation)
    (others : Nat -> DiagnosticOperation -> DiagnosticOperation) (frames : List AgentFrame) :
    DiagnosticOperation :=
  others (frames.length - 1)
    (saveFrames casing operation.setRunning (interleave others frames.dropLast))

theorem updateActive_of_active {operation : DiagnosticOperation}
    {change : DiagnosticOperation -> DiagnosticOperation}
    (active : operation.status.active = true) :
    operation.updateActive change = change operation := if_pos active

theorem updateActive_of_settled {operation : DiagnosticOperation}
    {change : DiagnosticOperation -> DiagnosticOperation}
    (settled : operation.status.active = false) :
    operation.updateActive change = operation := by
  unfold updateActive
  rw [settled]
  rfl

theorem saveFrames_append (casing : Casing) (operation : DiagnosticOperation)
    (first second : List ((DiagnosticOperation -> DiagnosticOperation) × AgentFrame)) :
    saveFrames casing operation (first ++ second) =
      saveFrames casing (saveFrames casing operation first) second := by
  induction first generalizing operation with
  | nil => rfl
  | cons head rest inductionHypothesis => exact inductionHypothesis _

/-- A stream that ends with a result leaves the row as that result is saved,
when the row is still active by then. -/
theorem consume_of_result (casing : Casing) (operation : DiagnosticOperation)
    (others : Nat -> DiagnosticOperation -> DiagnosticOperation) (frames : List AgentFrame)
    (event : DiagnosticsResult)
    (active : (atLastFrame casing operation others (frames ++ [.result event])).status.active =
      true) :
    consume casing operation (interleave others (frames ++ [.result event])) none =
      { status := mapStatus event.status
        resultSummary := .checks ((event.checks.take maxChecks).map storedCheck)
        errorCode :=
          if mapStatus event.status = .succeeded then ""
          else truncate 32 (casing.upperText event.status) } := by
  have split : interleave others (frames ++ [.result event]) =
      interleave others frames ++ [(others frames.length, .result event)] := by
    simp only [interleave, List.zipIdx_append, List.map_append, List.zipIdx_cons,
      List.zipIdx_nil, List.map_cons, List.map_nil, Nat.zero_add]
  unfold atLastFrame at active
  rw [List.dropLast_concat, List.length_append, List.length_singleton,
    Nat.add_sub_cancel] at active
  unfold consume
  rw [split, saveFrames_append]
  simp only [saveFrames, saveFrame, saveResult]
  exact updateActive_of_active active

end DiagnosticOperation

end ControlPlane
end DjangoOps
