import DjangoOps.ControlPlane.OperationsService
import DjangoOps.ControlPlane.DiagnosticVerdict
import DjangoOps.Gateway.JobStream

namespace DjangoOps
namespace ControlPlane

open Protocol Gateway

/-!
# The end of a consumed diagnostic

The generator of a job ends behind a diagnostics result or a Kubernetes
result, whichever comes first, and the session reader forwards both for a job
of either kind.  The consumer saves a verdict for a diagnostics result only.
-/

/-- A statement of another task that may settle the row: the `save` of `start`,
or the conditional update of `cancel`. -/
inductive OtherWrite
  | save (status : OperationStatus) (errorCode : String) (settles : status.active = false)
  | update (outcome : OperationsService.CancelOutcome)

namespace OtherWrite

def write (operation : DiagnosticOperation) : OtherWrite -> DiagnosticOperation
  | .save status errorCode _ => { operation with status := status, errorCode := errorCode }
  | .update outcome =>
      match outcome.verdict with
      | some verdict => operation.saveError verdict.1 verdict.2
      | none => operation

def writeAll (writes : List OtherWrite) (operation : DiagnosticOperation) : DiagnosticOperation :=
  writes.foldl write operation

end OtherWrite

namespace DiagnosticOperation

/-- `_consume` among the statements of other tasks: those before every frame,
and those between the last frame and the end. -/
def consumeAmong (casing : Casing) (operation : DiagnosticOperation)
    (others : Nat -> List OtherWrite) (frames : List AgentFrame) (ending : Option PyException) :
    DiagnosticOperation :=
  let consumed := saveFrames casing operation.setRunning
    (interleave (fun position => OtherWrite.writeAll (others position)) frames)
  let met := OtherWrite.writeAll (others frames.length) consumed
  match ending with
  | none => met
  | some error => met.saveException error

/-- The statements of other tasks have settled the row by the end of the
stream, whatever the last frame writes. -/
def settledByOthers (casing : Casing) (operation : DiagnosticOperation)
    (others : Nat -> List OtherWrite) (frames : List AgentFrame) : Bool :=
  !(OtherWrite.writeAll (others frames.length) (atLastFrame casing operation
    (fun position => OtherWrite.writeAll (others position)) frames)).status.active

end DiagnosticOperation

/-- An exception that one of the handlers of `_consume` catches. -/
def handled : PyException -> Bool
  | .cancelledError => false
  | _ => true

/-- What `AgentGateway.diagnostics` raises at its start. -/
def refusal? (config : GatewayConfig) (state : State) (agentId jobId releaseRoot : String) :
    Option PyException :=
  match State.validateReleaseRoot releaseRoot with
  | some error => some error
  | none =>
      match state.openJob config agentId jobId false with
      | .error error => some error
      | .ok _ => none

/-- How the loop of `_consume` can end, with the frames it has received: behind
the last frame of its generator, with an exception of the gateway, or at any
point with the timeout. -/
inductive Ending (config : GatewayConfig) (state : State) (call : Nat) :
    List AgentFrame -> Option PyException -> Prop
  | exhausted (phase : (state.calls call).phase = .finished true) :
      Ending config state call ((state.calls call).received.map Delivery.frame) none
  | refused (agentId jobId releaseRoot : String) (error : PyException)
      (raised : refusal? config state agentId jobId releaseRoot = some error) :
      Ending config state call [] (some error)
  | timeout :
      Ending config state call ((state.calls call).received.map Delivery.frame)
        (some .timeoutError)

section Refusals

variable {config : GatewayConfig} {state : State}

theorem handled_of_openJob {agentId jobId : String} {reuse : Bool} {error : PyException}
    (refused : state.openJob config agentId jobId reuse = .error error) : handled error = true := by
  unfold State.openJob at refused
  split at refused
  · cases refused
    rfl
  · split at refused
    · cases refused
      rfl
    · split at refused
      · cases refused
        rfl
      · split at refused
        · cases refused
          rfl
        · split at refused <;> cases refused
          rfl

theorem handled_of_validateReleaseRoot {releaseRoot : String} {error : PyException}
    (refused : State.validateReleaseRoot releaseRoot = some error) : handled error = true := by
  unfold State.validateReleaseRoot at refused
  split at refused
  · cases refused
    rfl
  · split at refused <;> cases refused
    rfl

/-- `_consume` has a handler for everything that the gateway raises. -/
theorem handled_of_refusal {agentId jobId releaseRoot : String} {error : PyException}
    (raised : refusal? config state agentId jobId releaseRoot = some error) :
    handled error = true := by
  unfold refusal? at raised
  split at raised
  · rename_i refused
    cases raised
    exact handled_of_validateReleaseRoot refused
  · split at raised
    · rename_i refused
      cases raised
      exact handled_of_openJob refused
    · cases raised

end Refusals

section Settling

variable {operation : DiagnosticOperation}

theorem updateActive_settles {change : DiagnosticOperation -> DiagnosticOperation}
    (settles : forall current, (change current).status.active = false) :
    (operation.updateActive change).status.active = false := by
  unfold DiagnosticOperation.updateActive
  cases active : operation.status.active with
  | true => exact settles operation
  | false => exact active

theorem mapStatus_settles (status : String) :
    (DiagnosticOperation.mapStatus status).active = false := by
  unfold DiagnosticOperation.mapStatus
  split
  · rfl
  · split
    · rfl
    · split <;> rfl

theorem saveResult_settles (casing : Casing) (status : String) (checks : List DiagnosticCheck) :
    (operation.saveResult casing status checks).status.active = false :=
  updateActive_settles fun _ => mapStatus_settles status

theorem saveException_settles {error : PyException} (caught : handled error = true) :
    (operation.saveException error).status.active = false := by
  cases error with
  | cancelledError => cases caught
  | _ => exact updateActive_settles fun _ => rfl

/-- The statements of the other tasks never make a settled row active. -/
theorem writeAll_settled (writes : List OtherWrite) (settled : operation.status.active = false) :
    (OtherWrite.writeAll writes operation).status.active = false := by
  unfold OtherWrite.writeAll
  induction writes generalizing operation with
  | nil => exact settled
  | cons write rest inductionHypothesis =>
      refine inductionHypothesis ?_
      cases write with
      | save status errorCode settles => exact settles
      | update outcome =>
          change (match outcome.verdict with
            | some verdict => operation.saveError verdict.1 verdict.2
            | none => operation).status.active = false
          cases outcome.verdict with
          | none => exact settled
          | some verdict =>
              dsimp only
              rw [DiagnosticOperation.saveError,
                DiagnosticOperation.updateActive_of_settled settled]
              exact settled

end Settling

/-- The frames of an exhausted generator end with a result of either kind. -/
theorem exhausted_frames {config : GatewayConfig} {state : State} {call : Nat}
    (reached : (machine config).Reachable state)
    (phase : (state.calls call).phase = .finished true) :
    Exists fun earlier : List AgentFrame => Exists fun last : AgentFrame =>
      (state.calls call).received.map Delivery.frame = earlier ++ [last] ∧
        last.isTerminal = true := by
  have paced := paced_of_reachable reached call
  rw [Call.Paced, phase] at paced
  rcases paced with ⟨earlier, last, received, _, terminal⟩
  refine ⟨earlier.map Delivery.frame, last.frame, ?_, terminal⟩
  rw [received, List.map_append]
  rfl

/-- The last frame is saved to the row as the other tasks have left it. -/
theorem saveFrames_last (casing : Casing) (operation : DiagnosticOperation)
    (others : Nat -> DiagnosticOperation -> DiagnosticOperation) (earlier : List AgentFrame)
    (last : AgentFrame) :
    DiagnosticOperation.saveFrames casing operation.setRunning
        (DiagnosticOperation.interleave others (earlier ++ [last])) =
      (DiagnosticOperation.atLastFrame casing operation others (earlier ++ [last])).saveFrame
        casing last := by
  have split : DiagnosticOperation.interleave others (earlier ++ [last]) =
      DiagnosticOperation.interleave others earlier ++ [(others earlier.length, last)] := by
    simp only [DiagnosticOperation.interleave, List.zipIdx_append, List.map_append,
      List.zipIdx_cons, List.zipIdx_nil, List.map_cons, List.map_nil, Nat.zero_add]
  unfold DiagnosticOperation.atLastFrame
  rw [split, DiagnosticOperation.saveFrames_append, List.dropLast_concat, List.length_append,
    List.length_singleton, Nat.add_sub_cancel]
  rfl

/-- When `_consume` finishes, the row is terminal exactly when the stream did
not end by itself, or ended with a diagnostics result, or the other tasks have
settled the row.  Time-outs and exceptions have handlers that settle it; a stream
that ends with the terminal frame of another kind of job has none, and the row
stays running. -/
theorem consumed_terminal (casing : Casing) (config : GatewayConfig) (state : State)
    (reached : (machine config).Reachable state) (call : Nat) (frames : List AgentFrame)
    (ending : Option PyException) (ends : Ending config state call frames ending)
    (operation : DiagnosticOperation) (others : Nat -> List OtherWrite) :
    (operation.consumeAmong casing others frames ending).status.active = false <->
      (ending = none ->
        (Exists fun event : DiagnosticsResult => frames.getLast? = some (.result event)) ∨
          operation.settledByOthers casing others frames = true) := by
  cases ends with
  | exhausted phase =>
      rcases exhausted_frames reached phase with ⟨earlier, last, received, terminal⟩
      rw [received]
      unfold DiagnosticOperation.consumeAmong DiagnosticOperation.settledByOthers
      dsimp only
      rw [saveFrames_last, List.getLast?_concat]
      cases last with
      | result event =>
          exact ⟨fun _ _ => .inl ⟨event, rfl⟩,
            fun _ => writeAll_settled _ (saveResult_settles casing _ _)⟩
      | kubernetesResult event =>
          constructor
          · intro settled _
            exact .inr (by rw [Bool.not_eq_true']; exact settled)
          · intro condition
            rcases condition rfl with ⟨_, impossible⟩ | settled
            · cases impossible
            · rw [Bool.not_eq_true'] at settled
              exact settled
      | _ => cases terminal
  | refused agentId jobId releaseRoot error raised =>
      exact ⟨fun _ impossible => (nomatch impossible),
        fun _ => saveException_settles (handled_of_refusal raised)⟩
  | timeout => exact ⟨fun _ impossible => (nomatch impossible), fun _ => saveException_settles rfl⟩

/-! ## Two results for a diagnostics job -/

/-- An agent answers a diagnostics job with one frame, which is consumed. -/
def answered (frame : AgentFrame) : List Action :=
  [.connect 0, .firstFrame 0 (some (helloOf "alpha" "alpha-token")), .register 0,
    .openDiagnostics 0 "alpha" "job-1" "releases/web", .readFrame 0 frame, .deliver 0, .advance 0,
    .finalise 0]

def sampleResult : AgentFrame := .result ⟨"job-1", 1, "unhealthy", []⟩

def foreignResult : AgentFrame := .kubernetesResult ⟨"job-1", 1, "succeeded", 1, 0, "", ""⟩

theorem consumed_terminal_result :
    Exists fun state : State => (state.calls 0).phase = .finished true ∧
      (DiagnosticOperation.consumeAmong .simple ⟨.pending, .empty, ""⟩ (fun _ => [])
        ((state.calls 0).received.map Delivery.frame) none).status.active = false := by
  rcases (machine .pair).exists_reachableUnder_of_replay (fun _ _ => True)
    (answered sampleResult) .initial rfl
    (fun state => (state.calls 0).phase = .finished true ∧
      (state.calls 0).received.map Delivery.frame = [sampleResult])
    (by decide +kernel) with ⟨state, reached, tested⟩
  rcases of_decide_eq_true tested with ⟨finished, received⟩
  refine ⟨state, finished, ?_⟩
  refine (consumed_terminal .simple .pair state reached 0 _ none (.exhausted finished) _ _).mpr ?_
  exact fun _ => .inl ⟨_, by rw [received]; rfl⟩

/-- A Kubernetes result ends the stream of a diagnostics job, and its
operation is shown as running for ever. -/
theorem consumed_running :
    Exists fun state : State => (machine .pair).Reachable state ∧
      (state.calls 0).job.kind = .diagnostic ∧ (state.calls 0).phase = .finished true ∧
      DiagnosticOperation.consumeAmong .simple ⟨.pending, .empty, ""⟩ (fun _ => [])
        ((state.calls 0).received.map Delivery.frame) none = ⟨.running, .empty, ""⟩ := by
  rcases (machine .pair).exists_reachableUnder_of_replay (fun _ _ => True)
    (answered foreignResult) .initial rfl
    (fun state => (state.calls 0).job.kind = .diagnostic ∧
      (state.calls 0).phase = .finished true ∧
      (state.calls 0).received.map Delivery.frame = [foreignResult])
    (by decide +kernel) with ⟨state, reached, tested⟩
  rcases of_decide_eq_true tested with ⟨kind, finished, received⟩
  refine ⟨state, reached, kind, finished, ?_⟩
  rw [received]
  rfl

end ControlPlane
end DjangoOps
