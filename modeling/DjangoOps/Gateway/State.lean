import Mathlib.Data.List.AList
import Mathlib.Data.Finset.Basic
import Mathlib.Logic.Function.Basic
import DjangoOps.Foundation.BoundedQueue
import DjangoOps.Protocol.Frames

namespace DjangoOps
namespace Gateway

open Protocol

/-!
# State of `AgentGateway`

The gateway is one asyncio program.  Its tasks share dictionaries, a lock and
bounded queues, and they interleave at `await` expressions only.  The state
therefore records, for every task, at which `await` it is suspended.

Python objects are named by the call that creates them.  A `JobState` belongs
to the `diagnostics` or `kubernetes_release` call that opened it, so `_jobs`
maps a job id to the number of that call; an `AgentSession` belongs to its
`Connect` call, so `_sessions` maps an agent id to the number of that stream.
Identity tests of the source are equality of these numbers.
-/

def protocolMajor : Nat := 1
def diagnosticCapability : String := "django_diagnostics_v1"
def kubernetesCapability : String := "kubernetes_release_v1"
def maxJobEvents : Nat := 32
def maxOutgoingFrames : Nat := 32

/-- Exceptions that the modelled Python code raises or lets pass. -/
inductive PyException
  | valueError (message : String)
  | lookupError (message : String)
  | runtimeError (message : String)
  | timeoutError
  | typeError
  | cancelledError
  deriving DecidableEq

/-- The constructor arguments of `AgentGateway`.  Its check that the resource
limits are positive is part of the type. -/
structure GatewayConfig where
  agentTokens : String -> Option String
  maxCompletedJobs : Nat
  maxInflightPerAgent : Nat
  completed_pos : 1 ≤ maxCompletedJobs
  inflight_pos : 1 ≤ maxInflightPerAgent

inductive JobKind
  | diagnostic
  | kubernetes
  deriving DecidableEq

/-- The two codes of frames that the gateway makes up itself. -/
inductive FailureCode
  | streamOrder
  | agentDisconnected
  deriving DecidableEq

namespace FailureCode

def text : FailureCode -> String
  | .streamOrder => "STREAM_ORDER"
  | .agentDisconnected => "AGENT_DISCONNECTED"

/-- `code.lower()`. -/
def lower : FailureCode -> String
  | .streamOrder => "stream_order"
  | .agentDisconnected => "agent_disconnected"

end FailureCode

/-- `AgentGateway._failure_frame`. -/
def failureFrame (kind : JobKind) (jobId : String) (sequence : Nat) (code : FailureCode) :
    AgentFrame :=
  match kind with
  | .kubernetes =>
      .kubernetesResult
        { jobId := jobId, sequence := sequence, status := "failed", helmRevision := 0
          previousRevision := 0, rollbackStatus := "", errorCode := code.text }
  | .diagnostic =>
      .result
        { jobId := jobId, sequence := sequence, status := "failed"
          checks := [{ name := "control_channel", status := "fail", detail := code.lower }] }

/-- Who made a queued frame: an agent, through the reader of one of its
streams, or the gateway. -/
inductive Origin
  | agent (stream : Nat)
  | gateway
  deriving DecidableEq

/-- A frame of a job queue together with its origin.  A frame of the gateway
is a failure frame; nothing else can be built. -/
structure Delivery where
  frame : AgentFrame
  origin : Origin
  synthesised : origin = .gateway ->
    Exists fun made : JobKind × String × Nat × FailureCode =>
      frame = failureFrame made.1 made.2.1 made.2.2.1 made.2.2.2

instance : DecidableEq Delivery := fun left right =>
  if same : left.frame = right.frame ∧ left.origin = right.origin then
    isTrue (by cases left; cases right; cases same.1; cases same.2; rfl)
  else isFalse (fun equal => same (equal ▸ ⟨rfl, rfl⟩))

namespace Delivery

/-- A frame passed on from the agent of a stream. -/
def forwarded (stream : Nat) (frame : AgentFrame) : Delivery :=
  ⟨frame, .agent stream, fun impossible => nomatch impossible⟩

/-- A failure frame made by the gateway. -/
def failure (kind : JobKind) (jobId : String) (sequence : Nat) (code : FailureCode) : Delivery :=
  ⟨failureFrame kind jobId sequence code, .gateway, fun _ => ⟨(kind, jobId, sequence, code), rfl⟩⟩

def sequence (delivery : Delivery) : Nat := delivery.frame.sequence
def isTerminal (delivery : Delivery) : Bool := delivery.frame.isTerminal

@[simp] theorem failure_sequence (kind : JobKind) (jobId : String) (sequence : Nat)
    (code : FailureCode) : (failure kind jobId sequence code).sequence = sequence := by
  cases kind <;> rfl

/-- Every frame of the gateway ends its job. -/
theorem isTerminal_of_gateway {delivery : Delivery} (made : delivery.origin = .gateway) :
    delivery.isTerminal = true := by
  rcases delivery.synthesised made with ⟨⟨kind, jobId, sequence, code⟩, frame⟩
  unfold isTerminal
  rw [frame]
  cases kind <;> rfl

end Delivery

/-- The tasks that may be suspended on a queue. -/
inductive Task
  | reader (stream : Nat)
  | connect (stream : Nat)
  | call (call : Nat)
  | canceller (request : Nat)
  deriving DecidableEq

/-- `JobState`. -/
structure JobState where
  agentId : String
  kind : JobKind
  queue : BoundedQueue Task Delivery
  nextSequence : Nat
  cancelSent : Bool

/-- `JobState(agent_id, kind)`. -/
def JobState.new (agentId : String) (kind : JobKind) : JobState :=
  { agentId := agentId, kind := kind, queue := .empty, nextSequence := 1, cancelSent := false }

/-- Where a `diagnostics` or `kubernetes_release` generator stands.  `requesting`
waits for room in the outgoing queue, `dropping` waits for the lock after a
missing capability, `receiving` waits for a frame, `delivered` is suspended at
its `yield`, and `closing` waits for the lock of the final clean-up.  The flag
of the last two tells whether the generator ended by itself, after a terminal
frame, or was closed by its consumer.  `leaked` was cancelled at a point that
no clean-up covers. -/
inductive CallPhase
  | idle
  | refused (error : PyException)
  | dropping
  | requesting (stream : Nat)
  | receiving
  | delivered (delivery : Delivery)
  | closing (exhausted : Bool)
  | finished (exhausted : Bool)
  | leaked
  deriving DecidableEq

/-- One generator call with the job it opened and the frames its consumer has
received so far, oldest first. -/
structure Call where
  jobId : String
  job : JobState
  phase : CallPhase
  received : List Delivery

/-- `AgentSession`.  The queue ends with the item `none`. -/
structure AgentSession where
  agentId : String
  capabilities : List String
  protocolMajor : Nat
  protocolMinor : Nat
  outgoing : BoundedQueue Task (Option ControlFrame)

inductive StatusCode
  | invalidArgument
  | failedPrecondition
  | unauthenticated
  | alreadyExists
  deriving DecidableEq

/-- How `Connect` turns a stream away: `context.abort`, or the `TypeError` of
`hmac.compare_digest` on a token that is not ASCII. -/
inductive Refusal
  | abort (code : StatusCode) (details : String)
  | typeError
  deriving DecidableEq

/-- Where a `Connect` call stands.  `refusing` holds the lock while the abort
of a duplicate agent is sent.  `closing` waits for the cancelled reader,
`disconnecting` for the lock of `_disconnect`, `failing` is inside its loop
and `failWaiting` is suspended there on the full queue of one job. -/
inductive ConnectPhase
  | idle
  | awaitingHello
  | refused (refusal : Refusal)
  | registering
  | refusing
  | serving
  | closing
  | disconnecting
  | failing (remaining : List (String × Nat))
  | failWaiting (call : Nat) (remaining : List (String × Nat))
  | ended
  deriving DecidableEq

/-- Where the reader task `_consume` of a session stands.  `putEvent` and
`putFailure` are suspended on a job queue, with an accepted frame or with a
failure frame; `putCancel` and `putNone` on the outgoing queue. -/
inductive ReaderPhase
  | absent
  | reading
  | putEvent (call : Nat)
  | putFailure (call : Nat) (jobId : String)
  | putCancel
  | putNone
  | done
  deriving DecidableEq

/-- One `Connect` call.  `first` is the first frame it received. -/
structure Stream where
  phase : ConnectPhase
  first : Option AgentFrame
  session : AgentSession
  reader : ReaderPhase

/-- A call of `AgentGateway.cancel`. -/
inductive CancelPhase
  | idle
  | waiting (stream : Nat)
  | returned (accepted : Bool)
  | abandoned
  deriving DecidableEq

/-- The shared state and all tasks.  `lock` names the stream that keeps the
lock across its abort; every other critical section is free of suspension and
is one step. -/
structure State where
  sessions : AList (fun _ : String => Nat)
  jobs : AList (fun _ : String => Nat)
  completedJobs : Finset String
  completedOrder : List String
  lock : Option Nat
  streams : Nat -> Stream
  calls : Nat -> Call
  cancels : Nat -> CancelPhase

def AgentSession.new (agentId : String) (capabilities : List String) (protocol : ProtocolVersion) :
    AgentSession :=
  { agentId := agentId, capabilities := capabilities, protocolMajor := protocol.major
    protocolMinor := protocol.minor, outgoing := .empty }

def Stream.idle : Stream :=
  { phase := .idle, first := none, session := .new "" [] ⟨0, 0⟩, reader := .absent }

def Call.idle : Call :=
  { jobId := "", job := .new "" .diagnostic, phase := .idle, received := [] }

/-- A gateway that nothing has connected to. -/
def State.initial : State :=
  { sessions := ∅, jobs := ∅, completedJobs := ∅, completedOrder := [], lock := none
    streams := fun _ => .idle, calls := fun _ => .idle, cancels := fun _ => .idle }

namespace State

def modifyStream (state : State) (stream : Nat) (change : Stream -> Stream) : State :=
  { state with streams := Function.update state.streams stream (change (state.streams stream)) }

def modifyCall (state : State) (call : Nat) (change : Call -> Call) : State :=
  { state with calls := Function.update state.calls call (change (state.calls call)) }

def modifyJob (state : State) (call : Nat) (change : JobState -> JobState) : State :=
  state.modifyCall call fun record => { record with job := change record.job }

def modifyQueue (state : State) (call : Nat)
    (change : BoundedQueue Task Delivery -> BoundedQueue Task Delivery) : State :=
  state.modifyJob call fun job => { job with queue := change job.queue }

def modifyOutgoing (state : State) (stream : Nat)
    (change : BoundedQueue Task (Option ControlFrame) -> BoundedQueue Task (Option ControlFrame)) :
    State :=
  state.modifyStream stream fun record =>
    { record with session := { record.session with outgoing := change record.session.outgoing } }

def setReader (state : State) (stream : Nat) (phase : ReaderPhase) : State :=
  state.modifyStream stream fun record => { record with reader := phase }

def setConnect (state : State) (stream : Nat) (phase : ConnectPhase) : State :=
  state.modifyStream stream fun record => { record with phase := phase }

def setCall (state : State) (call : Nat) (phase : CallPhase) : State :=
  state.modifyCall call fun record => { record with phase := phase }

def setCancel (state : State) (request : Nat) (phase : CancelPhase) : State :=
  { state with cancels := Function.update state.cancels request phase }

def queue (state : State) (call : Nat) : BoundedQueue Task Delivery :=
  (state.calls call).job.queue

def outgoing (state : State) (stream : Nat) : BoundedQueue Task (Option ControlFrame) :=
  (state.streams stream).session.outgoing

/-- `await state.queue.put(frame)` up to its possible suspension. -/
def putJob (state : State) (call : Nat) (task : Task) (delivery : Delivery) : State :=
  state.modifyQueue call (BoundedQueue.put maxJobEvents task delivery)

/-- `await session.outgoing.put(frame)` up to its possible suspension. -/
def putOutgoing (state : State) (stream : Nat) (task : Task) (frame : Option ControlFrame) : State :=
  state.modifyOutgoing stream (BoundedQueue.put maxOutgoingFrames task frame)

/-- The put on this job queue would be suspended. -/
def jobFull (state : State) (call : Nat) : Bool := (state.queue call).full maxJobEvents

/-- The put on this outgoing queue would be suspended. -/
def outgoingFull (state : State) (stream : Nat) : Bool :=
  (state.outgoing stream).full maxOutgoingFrames

/-! Reading a state after one of its records was changed. -/

theorem streams_modifyStream (state : State) (stream other : Nat) (change : Stream -> Stream) :
    (state.modifyStream stream change).streams other =
      if other = stream then change (state.streams stream) else state.streams other := by
  by_cases same : other = stream
  · subst same
    rw [if_pos rfl]
    exact Function.update_self _ _ _
  · rw [if_neg same]
    exact Function.update_of_ne same _ _

theorem calls_modifyCall (state : State) (call other : Nat) (change : Call -> Call) :
    (state.modifyCall call change).calls other =
      if other = call then change (state.calls call) else state.calls other := by
  by_cases same : other = call
  · subst same
    rw [if_pos rfl]
    exact Function.update_self _ _ _
  · rw [if_neg same]
    exact Function.update_of_ne same _ _

@[simp] theorem calls_modifyStream (state : State) (stream : Nat) (change : Stream -> Stream) :
    (state.modifyStream stream change).calls = state.calls := rfl

/-- `list(self._jobs.items())`, in the insertion order of a dictionary. -/
def jobItems (state : State) : List (String × Nat) :=
  (state.jobs.entries.map fun entry => (entry.1, entry.2)).reverse

/-- `sum(1 for state in self._jobs.values() if state.agent_id == agent_id)`. -/
def inflight (state : State) (agentId : String) : Nat :=
  state.jobItems.countP fun item => (state.calls item.2).job.agentId = agentId

end State
end Gateway
end DjangoOps
