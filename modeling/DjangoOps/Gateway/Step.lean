import DjangoOps.Foundation.Transition
import DjangoOps.Gateway.State

namespace DjangoOps
namespace Gateway

open Protocol

/-!
# Steps of `AgentGateway`

One action is the run of one task from a point where it is suspended to the
next one.  Loops that suspend on some iterations only are split at every
iteration, so the runs of the model include those of the event loop.  Every
suspended task may be resumed, and every task that a caller can cancel may be
cancelled, at any time.
-/

/-! ## The handshake of `Connect` -/

def isAscii (text : String) : Bool := text.toList.all fun char => decide (char.toNat < 128)

/-- `hmac.compare_digest` on two strings; no value stands for its `TypeError`. -/
def compareDigest (expected given : String) : Option Bool :=
  if isAscii expected && isAscii given then some (decide (expected = given)) else none

/-- The checks that `Connect` makes on the first frame, in their order. -/
def handshake (config : GatewayConfig) (first : Option AgentFrame) : Except Refusal AgentHello :=
  match first with
  | none => .error (.abort .invalidArgument "agent hello is required")
  | some (.hello hello) =>
      if safeJobID hello.agentId = false then
        .error (.abort .invalidArgument "invalid agent identity")
      else if hello.protocol.major ≠ protocolMajor then
        .error (.abort .failedPrecondition "unsupported protocol version")
      else if diagnosticCapability ∉ hello.capabilities then
        .error (.abort .failedPrecondition "diagnostics capability required")
      else
        match config.agentTokens hello.agentId with
        | none => .error (.abort .unauthenticated "agent authentication failed")
        | some expected =>
            match compareDigest expected hello.authToken with
            | none => .error .typeError
            | some false => .error (.abort .unauthenticated "agent authentication failed")
            | some true => .ok hello
  | some _ => .error (.abort .invalidArgument "first frame must be agent hello")

namespace State

def connect (state : State) (stream : Nat) : Option State :=
  if (state.streams stream).phase = .idle then some (state.setConnect stream .awaitingHello)
  else none

/-- The first frame arrives, or the request stream ends without one. -/
def firstFrame (config : GatewayConfig) (state : State) (stream : Nat) (first : Option AgentFrame) :
    Option State :=
  if (state.streams stream).phase = .awaitingHello then
    match handshake config first with
    | .error refusal =>
        some (state.modifyStream stream fun record =>
          { record with phase := .refused refusal, first := first })
    | .ok hello =>
        some (state.modifyStream stream fun record =>
          { record with
            phase := .registering
            first := first
            session := .new hello.agentId hello.capabilities hello.protocol })
  else none

/-- The critical section that registers the session.  A duplicate keeps the
lock until its abort is sent. -/
def register (state : State) (stream : Nat) : Option State :=
  if (state.streams stream).phase = .registering ∧ state.lock = none then
    let agentId := (state.streams stream).session.agentId
    if agentId ∈ state.sessions then
      some { state.setConnect stream .refusing with lock := some stream }
    else
      some ({ state with sessions := state.sessions.insert agentId stream }.modifyStream stream
        fun record => { record with phase := .serving, reader := .reading })
  else none

def abortDone (state : State) (stream : Nat) : Option State :=
  if (state.streams stream).phase = .refusing then
    some { state.setConnect stream
      (.refused (.abort .alreadyExists "agent identity already connected")) with lock := none }
  else none

/-! ## The session reader `_consume` -/

/-- `await session.outgoing.put(ControlFrame(cancel=...))` of `_accept_event`. -/
def readerPutCancel (state : State) (stream : Nat) (jobId : String) : State :=
  (state.putOutgoing stream (.reader stream) (some (.cancel jobId))).setReader stream
    (if state.outgoingFull stream then .putCancel else .reading)

/-- The `finally` clause of `_consume`. -/
def readerFinish (state : State) (stream : Nat) : State :=
  (state.putOutgoing stream (.reader stream) none).setReader stream
    (if state.outgoingFull stream then .putNone else .done)

/-- `AgentGateway._accept_event`, up to its first suspension. -/
def acceptEvent (state : State) (stream : Nat) (jobId : String) (sequence : Nat)
    (frame : AgentFrame) : State :=
  match state.jobs.lookup jobId with
  | none => state
  | some call =>
      let job := (state.calls call).job
      if job.agentId ≠ (state.streams stream).session.agentId then state
      else if sequence ≠ job.nextSequence then
        let failed := state.putJob call (.reader stream)
          (.failure job.kind jobId job.nextSequence .streamOrder)
        if state.jobFull call then failed.setReader stream (.putFailure call jobId)
        else failed.readerPutCancel stream jobId
      else
        -- the number is consumed before the frame is known to fit the queue
        let accepted := (state.modifyJob call fun job =>
            { job with nextSequence := job.nextSequence + 1 }).putJob call (.reader stream)
          (.forwarded stream frame)
        if state.jobFull call then accepted.setReader stream (.putEvent call) else accepted

/-- The reader receives one more frame. -/
def readFrame (state : State) (stream : Nat) (frame : AgentFrame) : Option State :=
  if (state.streams stream).reader = .reading then
    match frame.event? with
    | none => some state
    | some (jobId, sequence) => some (state.acceptEvent stream jobId sequence frame)
  else none

/-- The request stream ends or fails. -/
def readerEnds (state : State) (stream : Nat) : Option State :=
  if (state.streams stream).reader = .reading then some (state.readerFinish stream) else none

/-- A suspended put of the reader gets room. -/
def readerResume (state : State) (stream : Nat) : Option State :=
  match (state.streams stream).reader with
  | .putEvent call =>
      ((state.queue call).resume maxJobEvents (.reader stream)).map fun queue =>
        (state.modifyQueue call fun _ => queue).setReader stream .reading
  | .putFailure call jobId =>
      ((state.queue call).resume maxJobEvents (.reader stream)).map fun queue =>
        (state.modifyQueue call fun _ => queue).readerPutCancel stream jobId
  | .putCancel =>
      ((state.outgoing stream).resume maxOutgoingFrames (.reader stream)).map fun queue =>
        (state.modifyOutgoing stream fun _ => queue).setReader stream .reading
  | .putNone =>
      ((state.outgoing stream).resume maxOutgoingFrames (.reader stream)).map fun queue =>
        (state.modifyOutgoing stream fun _ => queue).setReader stream .done
  | _ => none

/-- `consumer.cancel()`.  A suspended put is abandoned with its item, and the
`finally` clause runs, unless the reader is already inside it. -/
def cancelReader (state : State) (stream : Nat) : State :=
  match (state.streams stream).reader with
  | .absent => state
  | .reading => state.readerFinish stream
  | .putEvent call =>
      (state.modifyQueue call (·.withdraw (.reader stream))).readerFinish stream
  | .putFailure call _ =>
      (state.modifyQueue call (·.withdraw (.reader stream))).readerFinish stream
  | .putCancel =>
      (state.modifyOutgoing stream (·.withdraw (.reader stream))).readerFinish stream
  | .putNone =>
      (state.modifyOutgoing stream (·.withdraw (.reader stream))).setReader stream .done
  | .done => state

/-! ## Serving a session and cleaning up after it -/

/-- `frame = await session.outgoing.get()`, then `yield frame`, or leave the
loop on the final `None`. -/
def yieldControl (state : State) (stream : Nat) : Option State :=
  if (state.streams stream).phase = .serving then
    match (state.outgoing stream).get with
    | none => none
    | some (some _, rest) => some (state.modifyOutgoing stream fun _ => rest)
    | some (none, rest) =>
        some (((state.modifyOutgoing stream fun _ => rest).cancelReader stream).setConnect
          stream .closing)
  else none

/-- The serving loop is cancelled or its generator is closed. -/
def cancelStream (state : State) (stream : Nat) : Option State :=
  if (state.streams stream).phase = .serving then
    some ((state.cancelReader stream).setConnect stream .closing)
  else none

/-- `asyncio.gather(consumer)` returns. -/
def closed (state : State) (stream : Nat) : Option State :=
  if (state.streams stream).phase = .closing ∧ (state.streams stream).reader = .done then
    some (state.setConnect stream .disconnecting)
  else none

/-- The critical section of `_disconnect` and the snapshot of `_jobs` behind it. -/
def disconnect (state : State) (stream : Nat) : Option State :=
  if (state.streams stream).phase = .disconnecting ∧ state.lock = none then
    let agentId := (state.streams stream).session.agentId
    let sessions :=
      if state.sessions.lookup agentId = some stream then state.sessions.erase agentId
      else state.sessions
    some ({ state with sessions := sessions }.setConnect stream (.failing state.jobItems))
  else none

/-- One iteration of the loop of `_disconnect`. -/
def failNext (state : State) (stream : Nat) : Option State :=
  match (state.streams stream).phase with
  | .failing [] => some (state.setConnect stream .ended)
  | .failing ((jobId, call) :: remaining) =>
      let job := (state.calls call).job
      if job.agentId = (state.streams stream).session.agentId then
        some ((state.putJob call (.connect stream)
            (.failure job.kind jobId job.nextSequence .agentDisconnected)).setConnect stream
          (if state.jobFull call then .failWaiting call remaining else .failing remaining))
      else some (state.setConnect stream (.failing remaining))
  | _ => none

/-- The suspended put of `_disconnect` gets room. -/
def failResume (state : State) (stream : Nat) : Option State :=
  match (state.streams stream).phase with
  | .failWaiting call remaining =>
      ((state.queue call).resume maxJobEvents (.connect stream)).map fun queue =>
        (state.modifyQueue call fun _ => queue).setConnect stream (.failing remaining)
  | _ => none

/-- The clean-up of `Connect` is itself cancelled. -/
def cancelCleanup (state : State) (stream : Nat) : Option State :=
  match (state.streams stream).phase with
  | .closing => some ((state.cancelReader stream).setConnect stream .ended)
  | .disconnecting => some (state.setConnect stream .ended)
  | .failing _ => some (state.setConnect stream .ended)
  | .failWaiting call _ =>
      some ((state.modifyQueue call (·.withdraw (.connect stream))).setConnect stream .ended)
  | _ => none

/-! ## Jobs -/

/-- `AgentGateway._open_job`, up to the decision; the value is the stream of
the agent's session. -/
def openJob (config : GatewayConfig) (state : State) (agentId jobId : String)
    (allowCompletedReuse : Bool) : Except PyException Nat :=
  if safeJobID jobId = false then
    .error (.valueError "job_id must be a safe 1-64 character identifier")
  else if jobId ∈ state.jobs then .error (.valueError "job_id is already active")
  else if jobId ∈ state.completedJobs ∧ allowCompletedReuse = false then
    .error (.valueError "job_id has already been used")
  else
    match state.sessions.lookup agentId with
    | none => .error (.lookupError "agent is not connected")
    | some stream =>
        if config.maxInflightPerAgent ≤ state.inflight agentId then
          .error (.runtimeError "agent operation capacity reached")
        else .ok stream

/-- `self._jobs[job_id] = JobState(agent_id, kind)`. -/
def addJob (state : State) (call : Nat) (agentId jobId : String) (kind : JobKind) : State :=
  { state with jobs := state.jobs.insert jobId call }.modifyCall call fun record =>
    { record with jobId := jobId, job := .new agentId kind }

/-- `await session.outgoing.put(...)` of the two generators. -/
def putRequest (state : State) (call stream : Nat) (frame : ControlFrame) : State :=
  (state.putOutgoing stream (.call call) (some frame)).setCall call
    (if state.outgoingFull stream then .requesting stream else .receiving)

/-- `_validate_release_root`; the parts of a POSIX path lie between slashes. -/
def validateReleaseRoot (releaseRoot : String) : Option PyException :=
  if releaseRoot = "" ∨ 256 < releaseRoot.length ∨ '\\' ∈ releaseRoot.toList then
    some (.valueError "release_root must be a bounded relative path")
  else if releaseRoot.toList.head? = some '/' ∨
      ['.', '.'] ∈ releaseRoot.toList.splitOn '/' then
    some (.valueError "release_root may not escape the configured project root")
  else none

/-- `AgentGateway.diagnostics`, up to its first suspension. -/
def openDiagnostics (config : GatewayConfig) (state : State) (call : Nat)
    (agentId jobId releaseRoot : String) : Option State :=
  if (state.calls call).phase = .idle ∧ state.lock = none then
    match validateReleaseRoot releaseRoot with
    | some error => some (state.setCall call (.refused error))
    | none =>
        match state.openJob config agentId jobId false with
        | .error error => some (state.setCall call (.refused error))
        | .ok stream =>
            some ((state.addJob call agentId jobId .diagnostic).putRequest call stream
              (.diagnostics { jobId := jobId, releaseRoot := releaseRoot }))
  else none

/-- `AgentGateway.kubernetes_release`, up to its first suspension. -/
def openKubernetes (config : GatewayConfig) (state : State) (call : Nat) (agentId : String)
    (request : KubernetesReleaseRequest) : Option State :=
  if (state.calls call).phase = .idle ∧ state.lock = none then
    match state.openJob config agentId request.jobId true with
    | .error error => some (state.setCall call (.refused error))
    | .ok stream =>
        let opened := state.addJob call agentId request.jobId .kubernetes
        if kubernetesCapability ∈ (state.streams stream).session.capabilities then
          some (opened.putRequest call stream (.kubernetesRelease request))
        else some (opened.setCall call .dropping)
  else none

/-- The critical section that takes back a job whose agent lacks the capability. -/
def dropUnsupported (state : State) (call : Nat) : Option State :=
  if (state.calls call).phase = .dropping ∧ state.lock = none then
    some ({ state with jobs := state.jobs.erase (state.calls call).jobId }.setCall call
      (.refused (.lookupError "agent does not advertise Kubernetes release capability")))
  else none

/-- The suspended put of a request gets room. -/
def requestResume (state : State) (call : Nat) : Option State :=
  match (state.calls call).phase with
  | .requesting stream =>
      ((state.outgoing stream).resume maxOutgoingFrames (.call call)).map fun queue =>
        (state.modifyOutgoing stream fun _ => queue).setCall call .receiving
  | _ => none

/-- `frame = await state.queue.get()`, then `yield frame`. -/
def deliver (state : State) (call : Nat) : Option State :=
  if (state.calls call).phase = .receiving then
    (state.queue call).get.map fun taken =>
      (state.modifyQueue call fun _ => taken.2).modifyCall call fun record =>
        { record with phase := .delivered taken.1, received := record.received ++ [taken.1] }
  else none

/-- The consumer asks for the next frame; a terminal frame ends the loop. -/
def advance (state : State) (call : Nat) : Option State :=
  match (state.calls call).phase with
  | .delivered delivery =>
      some (state.setCall call (if delivery.isTerminal then .closing true else .receiving))
  | _ => none

/-- The consuming task is cancelled or the generator closed.  The clean-up of
`_events` covers only the two points inside it. -/
def abandon (state : State) (call : Nat) : Option State :=
  match (state.calls call).phase with
  | .dropping => some (state.setCall call .leaked)
  | .requesting stream =>
      some ((state.modifyOutgoing stream (·.withdraw (.call call))).setCall call .leaked)
  | .receiving => some (state.setCall call (.closing false))
  | .delivered _ => some (state.setCall call (.closing false))
  | .closing _ => some (state.setCall call .leaked)
  | _ => none

/-- `AgentGateway._remember_completed`. -/
def rememberCompleted (config : GatewayConfig) (state : State) (jobId : String) : State :=
  if jobId ∈ state.completedJobs then state
  else
    let kept : Finset String × List String :=
      if config.maxCompletedJobs ≤ state.completedOrder.length then
        match state.completedOrder with
        | [] => (state.completedJobs, [])
        | oldest :: rest => (state.completedJobs.erase oldest, rest)
      else (state.completedJobs, state.completedOrder)
    { state with completedJobs := insert jobId kept.1, completedOrder := kept.2 ++ [jobId] }

/-- The `finally` clause of `_events`. -/
def finalise (config : GatewayConfig) (state : State) (call : Nat) : Option State :=
  match (state.calls call).phase with
  | .closing exhausted =>
      if state.lock = none then
        let jobId := (state.calls call).jobId
        some (({ state with jobs := state.jobs.erase jobId }.rememberCompleted config jobId).setCall
          call (.finished exhausted))
      else none
  | _ => none

/-! ## `AgentGateway.cancel` -/

def cancel (state : State) (request : Nat) (jobId : String) : Option State :=
  if state.cancels request = .idle then
    match state.jobs.lookup jobId with
    | none => some (state.setCancel request (.returned false))
    | some call =>
        let job := (state.calls call).job
        if job.cancelSent then some (state.setCancel request (.returned true))
        else
          match state.sessions.lookup job.agentId with
          | none => some (state.setCancel request (.returned false))
          | some stream =>
              some (((state.modifyJob call fun job => { job with cancelSent := true }).putOutgoing
                  stream (.canceller request) (some (.cancel jobId))).setCancel request
                (if state.outgoingFull stream then .waiting stream else .returned true))
  else none

def cancelResume (state : State) (request : Nat) : Option State :=
  match state.cancels request with
  | .waiting stream =>
      ((state.outgoing stream).resume maxOutgoingFrames (.canceller request)).map fun queue =>
        (state.modifyOutgoing stream fun _ => queue).setCancel request (.returned true)
  | _ => none

/-- The caller of `cancel` gives up. -/
def cancelAbandon (state : State) (request : Nat) : Option State :=
  match state.cancels request with
  | .waiting stream =>
      some ((state.modifyOutgoing stream (·.withdraw (.canceller request))).setCancel request
        .abandoned)
  | _ => none

end State

/-- The steps of all tasks.  Those of one stream name the `Connect` call, those
of one job the generator call, those of a cancellation its own number. -/
inductive Action
  | connect (stream : Nat)
  | firstFrame (stream : Nat) (first : Option AgentFrame)
  | register (stream : Nat)
  | abortDone (stream : Nat)
  | readFrame (stream : Nat) (frame : AgentFrame)
  | readerEnds (stream : Nat)
  | readerResume (stream : Nat)
  | yieldControl (stream : Nat)
  | cancelStream (stream : Nat)
  | closed (stream : Nat)
  | disconnect (stream : Nat)
  | failNext (stream : Nat)
  | failResume (stream : Nat)
  | cancelCleanup (stream : Nat)
  | openDiagnostics (call : Nat) (agentId jobId releaseRoot : String)
  | openKubernetes (call : Nat) (agentId : String) (request : KubernetesReleaseRequest)
  | dropUnsupported (call : Nat)
  | requestResume (call : Nat)
  | deliver (call : Nat)
  | advance (call : Nat)
  | abandon (call : Nat)
  | finalise (call : Nat)
  | cancel (request : Nat) (jobId : String)
  | cancelResume (request : Nat)
  | cancelAbandon (request : Nat)
  deriving DecidableEq

/-- The `Connect` call whose tasks take an action. -/
def Action.stream? : Action -> Option Nat
  | .connect stream => some stream
  | .firstFrame stream _ => some stream
  | .register stream => some stream
  | .abortDone stream => some stream
  | .readFrame stream _ => some stream
  | .readerEnds stream => some stream
  | .readerResume stream => some stream
  | .yieldControl stream => some stream
  | .cancelStream stream => some stream
  | .closed stream => some stream
  | .disconnect stream => some stream
  | .failNext stream => some stream
  | .failResume stream => some stream
  | .cancelCleanup stream => some stream
  | _ => none

/-- The generator call, agent and job id of an action that opens a job. -/
def Action.opens? : Action -> Option (Nat × String × String)
  | .openDiagnostics call agentId jobId _ => some (call, agentId, jobId)
  | .openKubernetes call agentId request => some (call, agentId, request.jobId)
  | _ => none

def step (config : GatewayConfig) (state : State) : Action -> Option State
  | .connect stream => state.connect stream
  | .firstFrame stream first => state.firstFrame config stream first
  | .register stream => state.register stream
  | .abortDone stream => state.abortDone stream
  | .readFrame stream frame => state.readFrame stream frame
  | .readerEnds stream => state.readerEnds stream
  | .readerResume stream => state.readerResume stream
  | .yieldControl stream => state.yieldControl stream
  | .cancelStream stream => state.cancelStream stream
  | .closed stream => state.closed stream
  | .disconnect stream => state.disconnect stream
  | .failNext stream => state.failNext stream
  | .failResume stream => state.failResume stream
  | .cancelCleanup stream => state.cancelCleanup stream
  | .openDiagnostics call agentId jobId releaseRoot =>
      state.openDiagnostics config call agentId jobId releaseRoot
  | .openKubernetes call agentId request => state.openKubernetes config call agentId request
  | .dropUnsupported call => state.dropUnsupported call
  | .requestResume call => state.requestResume call
  | .deliver call => state.deliver call
  | .advance call => state.advance call
  | .abandon call => state.abandon call
  | .finalise call => state.finalise config call
  | .cancel request jobId => state.cancel request jobId
  | .cancelResume request => state.cancelResume request
  | .cancelAbandon request => state.cancelAbandon request

/-- The gateway as a machine that starts with no connection. -/
def machine (config : GatewayConfig) : Transition.Machine State Action where
  initial := fun state => state = .initial
  step := step config

end Gateway
end DjangoOps
