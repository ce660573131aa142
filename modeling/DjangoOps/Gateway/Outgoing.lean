import Mathlib.Logic.Relation
import DjangoOps.Gateway.Disconnect

namespace DjangoOps
namespace Gateway

open Protocol

/-!
# Outgoing queues

The outgoing queue of a session is filled by the generators of its agent's
jobs, by cancellations and by the session reader, and emptied by `Connect`.
A step is a few queue operations in a row, and what they keep is kept by the
step.
-/

/-- What a task puts on the outgoing queue of a stream. -/
inductive OutgoingPut (before : State) (action : Action) (stream : Nat) :
    Task -> Option ControlFrame -> Prop
  | request (call : Nat) (agentId jobId : String) (frame : ControlFrame)
      (opens : action.opens? = some (call, agentId, jobId))
      (asks : frame.request?.map Request.jobId = some jobId)
      (connected : before.sessions.lookup agentId = some stream) :
      OutgoingPut before action stream (.call call) (some frame)
  | cancel (request call : Nat) (jobId : String) (cancels : action = .cancel request jobId)
      (idle : before.cancels request = .idle)
      (registered : before.jobs.lookup jobId = some call)
      (connected : before.sessions.lookup (before.calls call).job.agentId = some stream) :
      OutgoingPut before action stream (.canceller request) (some (.cancel jobId))
  | reader (frame : Option ControlFrame) (own : action.stream? = some stream)
      (silent : forall given, frame = some given -> given.request? = none) :
      OutgoingPut before action stream (.reader stream) frame

/-- One operation on the outgoing queue of a stream. -/
inductive OutgoingMove (before : State) (action : Action) (stream : Nat) :
    BoundedQueue Task (Option ControlFrame) -> BoundedQueue Task (Option ControlFrame) -> Prop
  | put (queue : BoundedQueue Task (Option ControlFrame)) (task : Task)
      (frame : Option ControlFrame) (source : OutgoingPut before action stream task frame) :
      OutgoingMove before action stream queue (queue.put maxOutgoingFrames task frame)
  | resumed (queue after : BoundedQueue Task (Option ControlFrame)) (task : Task)
      (resume : queue.resume maxOutgoingFrames task = some after)
      (cause : forall request, task = .canceller request -> action = .cancelResume request) :
      OutgoingMove before action stream queue after
  | withdrawn (queue : BoundedQueue Task (Option ControlFrame)) (task : Task)
      (cause : forall request, task = .canceller request -> action = .cancelAbandon request) :
      OutgoingMove before action stream queue (queue.withdraw task)
  | taken (queue rest : BoundedQueue Task (Option ControlFrame)) (frame : Option ControlFrame)
      (get : queue.get = some (frame, rest)) (yields : action = .yieldControl stream) :
      OutgoingMove before action stream queue rest
  | renewed (queue : BoundedQueue Task (Option ControlFrame))
      (awaiting : (before.streams stream).phase = .awaitingHello) :
      OutgoingMove before action stream queue .empty

/-- Several operations of one step. -/
abbrev OutgoingMoves (before : State) (action : Action) (stream : Nat) :
    BoundedQueue Task (Option ControlFrame) -> BoundedQueue Task (Option ControlFrame) -> Prop :=
  Relation.ReflTransGen (OutgoingMove before action stream)

namespace State

variable (state : State)

theorem outgoing_modifyStream (stream : Nat) (change : Stream -> Stream) :
    (state.modifyStream stream change).outgoing stream =
      (change (state.streams stream)).session.outgoing := by
  rw [outgoing, streams_modifyStream, if_pos rfl]

theorem outgoing_modifyOutgoing (stream : Nat)
    (change : BoundedQueue Task (Option ControlFrame) -> BoundedQueue Task (Option ControlFrame)) :
    (state.modifyOutgoing stream change).outgoing stream = change (state.outgoing stream) := by
  rw [modifyOutgoing, outgoing_modifyStream]
  rfl

theorem outgoing_modifyOutgoing_ne {stream other : Nat} (different : other ≠ stream)
    (change : BoundedQueue Task (Option ControlFrame) -> BoundedQueue Task (Option ControlFrame)) :
    (state.modifyOutgoing stream change).outgoing other = state.outgoing other := by
  rw [outgoing, modifyOutgoing, streams_modifyStream_ne _ different]
  rfl

theorem outgoing_setReader (stream : Nat) (phase : ReaderPhase) (other : Nat) :
    (state.setReader stream phase).outgoing other = state.outgoing other := by
  rw [outgoing, setReader, streams_modifyStream]
  split
  · rename_i same
    rw [same]
    rfl
  · rfl

theorem outgoing_setConnect (stream : Nat) (phase : ConnectPhase) (other : Nat) :
    (state.setConnect stream phase).outgoing other = state.outgoing other := by
  rw [outgoing, setConnect, streams_modifyStream]
  split
  · rename_i same
    rw [same]
    rfl
  · rfl

end State

section Moves

variable {config : GatewayConfig} {before after : State} {action : Action} {stream : Nat}

/-- The reader asks for no job. -/
theorem OutgoingMoves.readerPut (state : State) (own : action.stream? = some stream)
    (frame : Option ControlFrame)
    (silent : forall given, frame = some given -> given.request? = none) (phase : ReaderPhase) :
    OutgoingMoves before action stream (state.outgoing stream)
      (((state.putOutgoing stream (.reader stream) frame).setReader stream phase).outgoing
        stream) := by
  rw [State.outgoing_setReader, State.putOutgoing, State.outgoing_modifyOutgoing]
  exact .single (.put _ _ _ (.reader frame own silent))

theorem OutgoingMoves.readerPutCancel (state : State) (own : action.stream? = some stream)
    (jobId : String) :
    OutgoingMoves before action stream (state.outgoing stream)
      ((state.readerPutCancel stream jobId).outgoing stream) := by
  refine OutgoingMoves.readerPut _ own _ ?_ _
  rintro given ⟨⟩
  rfl

theorem OutgoingMoves.readerFinish (state : State) (own : action.stream? = some stream) :
    OutgoingMoves before action stream (state.outgoing stream)
      ((state.readerFinish stream).outgoing stream) :=
  OutgoingMoves.readerPut _ own none nofun _

theorem OutgoingMoves.cancelReader (state : State) (own : action.stream? = some stream) :
    OutgoingMoves before action stream (state.outgoing stream)
      ((state.cancelReader stream).outgoing stream) := by
  have withdrawn : OutgoingMoves before action stream (state.outgoing stream)
      ((state.modifyOutgoing stream (·.withdraw (.reader stream))).outgoing stream) := by
    rw [State.outgoing_modifyOutgoing]
    exact .single (.withdrawn _ (.reader stream) (by simp))
  unfold State.cancelReader
  split
  · exact .refl
  · exact OutgoingMoves.readerFinish _ own
  · exact OutgoingMoves.readerFinish (state.modifyQueue _ _) own
  · exact OutgoingMoves.readerFinish (state.modifyQueue _ _) own
  · exact withdrawn.trans (OutgoingMoves.readerFinish _ own)
  · rw [State.outgoing_setReader]
    exact withdrawn
  · exact .refl

theorem OutgoingMoves.acceptEvent (own : action.stream? = some stream) (jobId : String)
    (sequence : Nat) (frame : AgentFrame) :
    OutgoingMoves before action stream (before.outgoing stream)
      ((before.acceptEvent stream jobId sequence frame).outgoing stream) := by
  unfold State.acceptEvent
  split
  · exact .refl
  · dsimp only
    split
    · exact .refl
    · split <;> split
      · rw [State.outgoing_setReader]
        exact .refl
      · exact OutgoingMoves.readerPutCancel _ own jobId
      · rw [State.outgoing_setReader]
        exact .refl
      · exact .refl

/-- The steps of a stream on its own outgoing queue. -/
theorem own_outgoing_moves (own : action.stream? = some stream)
    (stepped : step config before action = some after) :
    OutgoingMoves before action stream (before.outgoing stream) (after.outgoing stream) := by
  have kept : forall {state : State} (phase : ConnectPhase),
      OutgoingMoves before action stream (before.outgoing stream) (state.outgoing stream) ->
      OutgoingMoves before action stream (before.outgoing stream)
        ((state.setConnect stream phase).outgoing stream) := by
    intro state phase moves
    rw [State.outgoing_setConnect]
    exact moves
  cases action <;> cases own <;> simp only [step] at stepped
  case connect =>
    unfold State.connect at stepped
    split at stepped <;> cases stepped
    exact kept _ .refl
  case firstFrame =>
    unfold State.firstFrame at stepped
    split at stepped
    · rename_i awaiting
      split at stepped <;> cases stepped
      · rw [State.outgoing_modifyStream]
        exact .refl
      · rw [State.outgoing_modifyStream]
        exact .single (.renewed _ awaiting)
    · cases stepped
  case register =>
    unfold State.register at stepped
    split at stepped
    · dsimp only at stepped
      split at stepped <;> cases stepped
      · exact kept .refusing .refl
      · rw [State.outgoing_modifyStream]
        exact .refl
    · cases stepped
  case abortDone =>
    unfold State.abortDone at stepped
    split at stepped <;> cases stepped
    exact kept _ .refl
  case readFrame frame =>
    unfold State.readFrame at stepped
    split at stepped
    · split at stepped <;> cases stepped
      · exact .refl
      · exact OutgoingMoves.acceptEvent rfl _ _ _
    · cases stepped
  case readerEnds =>
    unfold State.readerEnds at stepped
    split at stepped <;> cases stepped
    exact OutgoingMoves.readerFinish _ rfl
  case readerResume =>
    unfold State.readerResume at stepped
    split at stepped
    · rcases Option.map_eq_some_iff.mp stepped with ⟨queue, _, result⟩
      cases result
      rw [State.outgoing_setReader]
      exact .refl
    · rcases Option.map_eq_some_iff.mp stepped with ⟨queue, _, result⟩
      cases result
      exact OutgoingMoves.readerPutCancel (before.modifyQueue _ _) rfl _
    · rcases Option.map_eq_some_iff.mp stepped with ⟨queue, resume, result⟩
      cases result
      rw [State.outgoing_setReader, State.outgoing_modifyOutgoing]
      exact .single (.resumed _ _ _ resume (by simp))
    · rcases Option.map_eq_some_iff.mp stepped with ⟨queue, resume, result⟩
      cases result
      rw [State.outgoing_setReader, State.outgoing_modifyOutgoing]
      exact .single (.resumed _ _ _ resume (by simp))
    · cases stepped
  case yieldControl =>
    unfold State.yieldControl at stepped
    split at stepped
    · split at stepped
      · cases stepped
      · rename_i frame rest get
        cases stepped
        rw [State.outgoing_modifyOutgoing]
        exact .single (.taken _ _ _ get rfl)
      · rename_i rest get
        cases stepped
        refine kept _ ?_
        have taken : OutgoingMoves before (.yieldControl stream) stream (before.outgoing stream)
            ((before.modifyOutgoing stream fun _ => rest).outgoing stream) := by
          rw [State.outgoing_modifyOutgoing]
          exact .single (.taken _ _ _ get rfl)
        exact taken.trans (OutgoingMoves.cancelReader _ rfl)
    · cases stepped
  case cancelStream =>
    unfold State.cancelStream at stepped
    split at stepped <;> cases stepped
    exact kept _ (OutgoingMoves.cancelReader _ rfl)
  case closed =>
    unfold State.closed at stepped
    split at stepped <;> cases stepped
    exact kept _ .refl
  case disconnect =>
    unfold State.disconnect at stepped
    split at stepped <;> cases stepped
    rw [State.outgoing_setConnect]
    exact .refl
  case failNext =>
    unfold State.failNext at stepped
    split at stepped
    · cases stepped
      exact kept _ .refl
    · dsimp only at stepped
      split at stepped <;> cases stepped
      · rw [State.outgoing_setConnect]
        exact .refl
      · exact kept _ .refl
    · cases stepped
  case failResume =>
    unfold State.failResume at stepped
    split at stepped
    · rcases Option.map_eq_some_iff.mp stepped with ⟨queue, _, result⟩
      cases result
      rw [State.outgoing_setConnect]
      exact .refl
    · cases stepped
  case cancelCleanup =>
    unfold State.cancelCleanup at stepped
    split at stepped
    · cases stepped
      exact kept _ (OutgoingMoves.cancelReader _ rfl)
    · cases stepped
      exact kept _ .refl
    · cases stepped
      exact kept _ .refl
    · cases stepped
      rw [State.outgoing_setConnect]
      exact .refl
    · cases stepped

/-- A put of a generator or of a cancellation. -/
theorem OutgoingMoves.put {target : Nat} {task : Task} {frame : ControlFrame}
    (source : OutgoingPut before action target task (some frame)) (state : State)
    (same : state.streams = before.streams) (stream : Nat) :
    OutgoingMoves before action stream (before.outgoing stream)
      ((state.putOutgoing target task (some frame)).outgoing stream) := by
  have unchanged : state.outgoing stream = before.outgoing stream :=
    congrArg (fun streams => (streams stream).session.outgoing) same
  by_cases own : stream = target
  · subst own
    rw [State.putOutgoing, State.outgoing_modifyOutgoing, unchanged]
    exact .single (.put _ _ _ source)
  · rw [State.putOutgoing, State.outgoing_modifyOutgoing_ne _ own, unchanged]

/-- A change of one outgoing queue by a single operation. -/
theorem OutgoingMoves.change {target : Nat} {queue : BoundedQueue Task (Option ControlFrame)}
    (move : OutgoingMove before action target (before.outgoing target) queue) (stream : Nat) :
    OutgoingMoves before action stream (before.outgoing stream)
      ((before.modifyOutgoing target fun _ => queue).outgoing stream) := by
  by_cases own : stream = target
  · subst own
    rw [State.outgoing_modifyOutgoing]
    exact .single move
  · rw [State.outgoing_modifyOutgoing_ne _ own]

/-- The steps of generators and cancellations on any outgoing queue. -/
theorem call_outgoing_moves (foreign : action.stream? = none)
    (stepped : step config before action = some after) (stream : Nat) :
    OutgoingMoves before action stream (before.outgoing stream) (after.outgoing stream) := by
  cases action <;> cases foreign <;> simp only [step] at stepped
  case openDiagnostics call agentId jobId releaseRoot =>
    unfold State.openDiagnostics at stepped
    split at stepped
    · split at stepped
      · cases stepped
        exact .refl
      · split at stepped
        · cases stepped
          exact .refl
        · rename_i target accepted
          cases stepped
          have source : OutgoingPut before (.openDiagnostics call agentId jobId releaseRoot) target
              (.call call) (some (.diagnostics ⟨jobId, releaseRoot⟩)) :=
            .request call agentId jobId _ rfl rfl (before.lookup_of_openJob accepted)
          exact OutgoingMoves.put source (before.addJob call agentId jobId .diagnostic) rfl stream
    · cases stepped
  case openKubernetes call agentId request =>
    unfold State.openKubernetes at stepped
    split at stepped
    · split at stepped
      · cases stepped
        exact .refl
      · rename_i target accepted
        dsimp only at stepped
        split at stepped <;> cases stepped
        · have source : OutgoingPut before (.openKubernetes call agentId request) target
              (.call call) (some (.kubernetesRelease request)) :=
            .request call agentId request.jobId _ rfl rfl (before.lookup_of_openJob accepted)
          exact OutgoingMoves.put source (before.addJob call agentId request.jobId .kubernetes) rfl
            stream
        · exact .refl
    · cases stepped
  case dropUnsupported =>
    unfold State.dropUnsupported at stepped
    split at stepped <;> cases stepped
    exact .refl
  case requestResume =>
    unfold State.requestResume at stepped
    split at stepped
    · rcases Option.map_eq_some_iff.mp stepped with ⟨queue, resume, result⟩
      cases result
      exact OutgoingMoves.change (.resumed _ _ _ resume (by simp)) stream
    · cases stepped
  case deliver =>
    unfold State.deliver at stepped
    split at stepped
    · rcases Option.map_eq_some_iff.mp stepped with ⟨taken, _, result⟩
      cases result
      exact .refl
    · cases stepped
  case advance =>
    unfold State.advance at stepped
    split at stepped <;> cases stepped
    exact .refl
  case abandon call =>
    unfold State.abandon at stepped
    split at stepped <;> cases stepped
    · exact .refl
    · exact OutgoingMoves.change (.withdrawn _ (.call call) (by simp)) stream
    · exact .refl
    · exact .refl
    · exact .refl
  case finalise =>
    unfold State.finalise at stepped
    split at stepped
    · split at stepped <;> cases stepped
      change OutgoingMoves _ _ _ _ (((State.rememberCompleted _ _ _).streams stream).session.outgoing)
      rw [State.streams_rememberCompleted]
      exact .refl
    · cases stepped
  case cancel request jobId =>
    unfold State.cancel at stepped
    split at stepped
    · rename_i idle
      split at stepped
      · cases stepped
        exact .refl
      · rename_i call registered
        dsimp only at stepped
        split at stepped
        · cases stepped
          exact .refl
        · split at stepped <;> cases stepped
          · exact .refl
          · rename_i target connected
            have source : OutgoingPut before (.cancel request jobId) target (.canceller request)
                (some (.cancel jobId)) := .cancel request call jobId rfl idle registered connected
            exact OutgoingMoves.put source (before.modifyJob call _) rfl stream
    · cases stepped
  case cancelResume request =>
    unfold State.cancelResume at stepped
    split at stepped
    · rcases Option.map_eq_some_iff.mp stepped with ⟨queue, resume, result⟩
      cases result
      refine OutgoingMoves.change (.resumed _ _ _ resume ?_) stream
      rintro _ ⟨⟩
      rfl
    · cases stepped
  case cancelAbandon request =>
    unfold State.cancelAbandon at stepped
    split at stepped
    · cases stepped
      refine OutgoingMoves.change (.withdrawn _ (.canceller request) ?_) stream
      rintro _ ⟨⟩
      rfl
    · cases stepped

/-- Every step works on an outgoing queue by the listed operations only. -/
theorem step_outgoing_moves (stepped : step config before action = some after) (stream : Nat) :
    OutgoingMoves before action stream (before.outgoing stream) (after.outgoing stream) := by
  cases actor : action.stream? with
  | none => exact call_outgoing_moves actor stepped stream
  | some own =>
      by_cases same : stream = own
      · subst same
        exact own_outgoing_moves actor stepped
      · have unchanged : after.outgoing stream = before.outgoing stream :=
          congrArg (fun record => record.session.outgoing)
            (streams_of_stream_step actor same stepped)
        rw [unchanged]

end Moves

/-! ## Requests -/

section Requests

variable {config : GatewayConfig} {before after : State} {action : Action} {stream : Nat}

/-- A queued request was queued before, or is put by an operation that opens
its job. -/
theorem OutgoingMove.request {queue result : BoundedQueue Task (Option ControlFrame)}
    (move : OutgoingMove before action stream queue result) {frame : ControlFrame}
    {request : Request} (asks : frame.request? = some request)
    (listed : some frame ∈ result.pending) :
    some frame ∈ queue.pending ∨
      Exists fun opened : Nat × String =>
        action.opens? = some (opened.1, opened.2, request.jobId) ∧
          before.sessions.lookup opened.2 = some stream := by
  cases move with
  | put task put source =>
      rcases (BoundedQueue.mem_pending_put _ _ _ _ _).mp listed with earlier | same
      · exact .inl earlier
      · cases source with
        | request call agentId jobId _ opens asked connected =>
            cases same
            rw [asks] at asked
            cases asked
            exact .inr ⟨(call, agentId), opens, connected⟩
        | cancel =>
            cases same
            cases asks
        | reader _ _ silent =>
            rw [silent frame same.symm] at asks
            cases asks
  | resumed _ _ resume => exact .inl (BoundedQueue.mem_pending_resume resume listed)
  | withdrawn => exact .inl (BoundedQueue.mem_pending_withdraw listed)
  | taken _ _ get =>
      rw [BoundedQueue.pending_get get]
      exact .inl (.tail _ listed)
  | renewed => cases listed

/-- A request that waits after a step waited before, or the step opens its job. -/
theorem request_of_step (stepped : step config before action = some after)
    {frame : ControlFrame} {request : Request} (asks : frame.request? = some request)
    (listed : some frame ∈ (after.outgoing stream).pending) :
    some frame ∈ (before.outgoing stream).pending ∨
      Exists fun opened : Nat × String =>
        action.opens? = some (opened.1, opened.2, request.jobId) ∧
          before.sessions.lookup opened.2 = some stream := by
  have moves := step_outgoing_moves stepped stream
  generalize after.outgoing stream = result at moves listed
  induction moves with
  | refl => exact .inl listed
  | tail _ last inductionHypothesis =>
      rcases last.request asks listed with earlier | opens
      · exact inductionHypothesis earlier
      · exact .inr opens

/-- The frame that `Connect` yields in a step. -/
def State.sends? (state : State) : Action -> Option ControlFrame
  | .yieldControl stream =>
      if (state.streams stream).phase = .serving then
        (state.outgoing stream).items.head?.join
      else none
  | _ => none

theorem pending_of_sends {state : State} {action : Action} {frame : ControlFrame}
    (sends : state.sends? action = some frame) :
    Exists fun stream : Nat => some frame ∈ (state.outgoing stream).pending := by
  cases action with
  | yieldControl stream =>
      simp only [State.sends?] at sends
      split at sends
      · have head := Option.join_eq_some_iff.mp sends
        exact ⟨stream, List.mem_append.mpr (.inl (List.mem_of_head? head))⟩
      · cases sends
  | _ => cases sends

/-- A job that is opened for diagnostics puts its request after it is registered. -/
theorem holding_of_request {config : GatewayConfig} {before after : State} {call stream : Nat}
    {agentId jobId releaseRoot : String} {frame : Option ControlFrame}
    (stepped : step config before (.openDiagnostics call agentId jobId releaseRoot) = some after)
    (fresh : frame ∉ (before.outgoing stream).pending)
    (queued : frame ∈ (after.outgoing stream).pending) :
    (before.calls call).phase = .idle ∧ (after.calls call).phase.holding = true := by
  simp only [step] at stepped
  unfold State.openDiagnostics at stepped
  split at stepped
  · rename_i ready
    split at stepped
    · cases stepped
      exact absurd queued fresh
    · split at stepped <;> cases stepped
      · exact absurd queued fresh
      · refine ⟨ready.1, ?_⟩
        rw [State.putRequest, State.calls_setCall_self]
        dsimp only
        split <;> rfl
  · cases stepped

/-- `_open_job` refuses a job id that is not safe. -/
theorem State.safe_of_openJob {config : GatewayConfig} (state : State) {agentId jobId : String}
    {reuse : Bool} {stream : Nat}
    (accepted : state.openJob config agentId jobId reuse = .ok stream) :
    safeJobID jobId = true := by
  unfold State.openJob at accepted
  split at accepted
  · cases accepted
  · rename_i safe
    simpa only [Bool.not_eq_false] using safe

/-- An operation on a job id that is not safe puts no request. -/
theorem outgoing_of_opens (stepped : step config before action = some after) {call : Nat}
    {agentId jobId : String} (opens : action.opens? = some (call, agentId, jobId))
    (other : Nat) :
    safeJobID jobId = true ∨ after.outgoing other = before.outgoing other := by
  cases action <;> cases opens <;> simp only [step] at stepped
  case openDiagnostics =>
    unfold State.openDiagnostics at stepped
    split at stepped
    · split at stepped
      · cases stepped
        exact .inr rfl
      · split at stepped
        · cases stepped
          exact .inr rfl
        · rename_i accepted
          exact .inl (before.safe_of_openJob accepted)
    · cases stepped
  case openKubernetes =>
    unfold State.openKubernetes at stepped
    split at stepped
    · split at stepped
      · cases stepped
        exact .inr rfl
      · rename_i accepted
        exact .inl (before.safe_of_openJob accepted)
    · cases stepped

/-- Every request that waits to be sent names a safe job id. -/
def State.NamesSafely (state : State) : Prop :=
  forall stream frame request, ControlFrame.request? frame = some request ->
    some frame ∈ (state.outgoing stream).pending -> safeJobID request.jobId = true

theorem namesSafely_of_reachable {state : State} (reached : (machine config).Reachable state) :
    state.NamesSafely := by
  refine reached.invariant ?_ ?_
  · rintro start ⟨⟩ stream frame request _ listed
    cases listed
  · intro before action after _ inductionHypothesis _ stepped stream frame request asks listed
    rcases request_of_step stepped asks listed with earlier | ⟨opened, opens, _⟩
    · exact inductionHypothesis stream frame request asks earlier
    · rcases outgoing_of_opens stepped opens stream with safe | same
      · exact safe
      · rw [same] at listed
        exact inductionHypothesis stream frame request asks listed

end Requests

/-! ## Cancellations that wait for room -/

/-- A suspended put of a cancellation is the one that this cancellation waits
for. -/
def State.Cancelling (state : State) : Prop :=
  forall stream request frame, (.canceller request, frame) ∈ (state.outgoing stream).putters ->
    state.cancels request = .waiting stream ∧
      forall other, (.canceller request, other) ∈ (state.outgoing stream).putters -> other = frame

section Cancellations

variable {config : GatewayConfig} {before after : State} {action : Action} {stream request : Nat}

/-- A waiting cancellation waited before, or is put by the operation. -/
theorem OutgoingMove.canceller {queue result : BoundedQueue Task (Option ControlFrame)}
    (move : OutgoingMove before action stream queue result) {frame : Option ControlFrame}
    (listed : (.canceller request, frame) ∈ result.putters) :
    (.canceller request, frame) ∈ queue.putters ∨
      Exists fun jobId : String => action = .cancel request jobId ∧
        frame = some (.cancel jobId) ∧ before.cancels request = .idle := by
  cases move with
  | put task put source =>
      rcases queue.put_cases maxOutgoingFrames task put with suspended | queued
      · rw [suspended] at listed
        rcases List.mem_append.mp listed with earlier | new
        · exact .inl earlier
        · cases List.mem_singleton.mp new
          cases source with
          | cancel _ _ jobId cancels idle => exact .inr ⟨jobId, cancels, rfl, idle⟩
      · rw [queued] at listed
        exact .inl listed
  | resumed _ _ resume =>
      rcases BoundedQueue.resume_eq_some resume with ⟨_, _, _, putters⟩
      rw [putters] at listed
      exact .inl (List.mem_of_mem_filter listed)
  | withdrawn => exact .inl (List.mem_of_mem_filter listed)
  | taken _ _ get =>
      rw [BoundedQueue.putters_get get] at listed
      exact .inl listed
  | renewed => cases listed

theorem canceller_of_step (stepped : step config before action = some after)
    {frame : Option ControlFrame}
    (listed : (.canceller request, frame) ∈ (after.outgoing stream).putters) :
    (.canceller request, frame) ∈ (before.outgoing stream).putters ∨
      Exists fun jobId : String => action = .cancel request jobId ∧
        frame = some (.cancel jobId) ∧ before.cancels request = .idle := by
  have moves := step_outgoing_moves stepped stream
  generalize after.outgoing stream = result at moves listed
  induction moves with
  | refl => exact .inl listed
  | tail _ last inductionHypothesis =>
      rcases last.canceller listed with earlier | new
      · exact inductionHypothesis earlier
      · exact .inr new

/-- A waiting cancellation goes on waiting, or its frame is queued, unless it
is given up. -/
theorem OutgoingMove.canceller_kept {queue result : BoundedQueue Task (Option ControlFrame)}
    (move : OutgoingMove before action stream queue result) {frame : Option ControlFrame}
    (greeted : (before.streams stream).phase ≠ .awaitingHello)
    (busy : before.cancels request ≠ .idle) (kept : action ≠ .cancelAbandon request)
    (waits : ((.canceller request, frame) ∈ queue.putters ∧
        forall other, (.canceller request, other) ∈ queue.putters -> other = frame) ∨
      (frame ∈ queue.items ∧ action = .cancelResume request)) :
    ((.canceller request, frame) ∈ result.putters ∧
        forall other, (.canceller request, other) ∈ result.putters -> other = frame) ∨
      (frame ∈ result.items ∧ action = .cancelResume request) := by
  have unique : (forall other, (.canceller request, other) ∈ queue.putters -> other = frame) ->
      forall other, (.canceller request, other) ∈ result.putters -> other = frame := by
    intro single other listed
    rcases move.canceller listed with earlier | ⟨_, _, _, idle⟩
    · exact single other earlier
    · exact absurd idle busy
  rcases waits with ⟨waits, single⟩ | ⟨queued, resumes⟩
  · cases move with
    | put task put source =>
        refine .inl ⟨?_, unique single⟩
        rcases queue.put_cases maxOutgoingFrames task put with suspended | direct
        · rw [suspended]
          exact List.mem_append.mpr (.inl waits)
        · rw [direct]
          exact waits
    | resumed _ task resume cause =>
        rcases BoundedQueue.resume_eq_some resume with ⟨item, listed, items, putters⟩
        by_cases own : task = .canceller request
        · subst own
          rw [single item listed] at items
          exact .inr ⟨by rw [items]; exact List.mem_append.mpr (.inr (.head _)),
            cause request rfl⟩
        · refine .inl ⟨?_, unique single⟩
          rw [putters]
          exact List.mem_filter.mpr ⟨waits, decide_eq_true fun same => own same.symm⟩
    | withdrawn task cause =>
        refine .inl ⟨List.mem_filter.mpr ⟨waits, decide_eq_true ?_⟩, unique single⟩
        rintro rfl
        exact kept (cause request rfl)
    | taken _ _ get =>
        refine .inl ⟨?_, unique single⟩
        rw [BoundedQueue.putters_get get]
        exact waits
    | renewed awaiting => exact absurd awaiting greeted
  · refine .inr ⟨?_, resumes⟩
    cases move with
    | put task put =>
        rcases queue.put_cases maxOutgoingFrames task put with suspended | direct
        · rw [suspended]
          exact queued
        · rw [direct]
          exact List.mem_append.mpr (.inl queued)
    | resumed _ _ resume =>
        rcases BoundedQueue.resume_eq_some resume with ⟨_, _, items, _⟩
        rw [items]
        exact List.mem_append.mpr (.inl queued)
    | withdrawn => exact queued
    | taken _ _ _ yields =>
        rw [resumes] at yields
        cases yields
    | renewed awaiting => exact absurd awaiting greeted

theorem canceller_kept_of_step (cancelling : before.Cancelling)
    (stepped : step config before action = some after) {frame : Option ControlFrame}
    (greeted : (before.streams stream).phase ≠ .awaitingHello)
    (kept : action ≠ .cancelAbandon request)
    (waits : (.canceller request, frame) ∈ (before.outgoing stream).putters) :
    (.canceller request, frame) ∈ (after.outgoing stream).putters ∨
      frame ∈ (after.outgoing stream).items := by
  rcases cancelling stream request frame waits with ⟨waiting, single⟩
  have busy : before.cancels request ≠ .idle := by
    rw [waiting]
    simp
  have result : ((.canceller request, frame) ∈ (after.outgoing stream).putters ∧
        forall other, (.canceller request, other) ∈ (after.outgoing stream).putters ->
          other = frame) ∨
      (frame ∈ (after.outgoing stream).items ∧ action = .cancelResume request) := by
    have moves := step_outgoing_moves stepped stream
    generalize after.outgoing stream = result at moves ⊢
    induction moves with
    | refl => exact .inl ⟨waits, single⟩
    | tail _ last inductionHypothesis =>
        exact last.canceller_kept greeted busy kept inductionHypothesis
  rcases result with ⟨still, _⟩ | ⟨queued, _⟩
  · exact .inl still
  · exact .inr queued

theorem State.cancels_cancelReader (state : State) (stream : Nat) :
    (state.cancelReader stream).cancels = state.cancels := by
  unfold State.cancelReader
  split <;> rfl

theorem State.cancels_acceptEvent (state : State) (stream : Nat) (jobId : String) (sequence : Nat)
    (frame : AgentFrame) :
    (state.acceptEvent stream jobId sequence frame).cancels = state.cancels := by
  unfold State.acceptEvent
  split
  · rfl
  · dsimp only
    split
    · rfl
    · split <;> split <;> rfl

/-- The tasks of a stream move no cancellation. -/
theorem cancels_of_stream_step (own : action.stream? = some stream)
    (stepped : step config before action = some after) : after.cancels = before.cancels := by
  cases action <;> cases own <;> simp only [step] at stepped
  case connect =>
    unfold State.connect at stepped
    split at stepped <;> cases stepped
    rfl
  case firstFrame =>
    unfold State.firstFrame at stepped
    split at stepped
    · split at stepped <;> cases stepped <;> rfl
    · cases stepped
  case register =>
    unfold State.register at stepped
    split at stepped
    · dsimp only at stepped
      split at stepped <;> cases stepped <;> rfl
    · cases stepped
  case abortDone =>
    unfold State.abortDone at stepped
    split at stepped <;> cases stepped
    rfl
  case readFrame =>
    unfold State.readFrame at stepped
    split at stepped
    · split at stepped <;> cases stepped
      · rfl
      · exact before.cancels_acceptEvent _ _ _ _
    · cases stepped
  case readerEnds =>
    unfold State.readerEnds at stepped
    split at stepped <;> cases stepped
    rfl
  case readerResume =>
    unfold State.readerResume at stepped
    split at stepped
    case h_5 => cases stepped
    all_goals
      rcases Option.map_eq_some_iff.mp stepped with ⟨queue, _, result⟩
      cases result
      rfl
  case yieldControl =>
    unfold State.yieldControl at stepped
    split at stepped
    · split at stepped
      · cases stepped
      · cases stepped
        rfl
      · cases stepped
        exact State.cancels_cancelReader _ stream
    · cases stepped
  case cancelStream =>
    unfold State.cancelStream at stepped
    split at stepped <;> cases stepped
    exact before.cancels_cancelReader stream
  case closed =>
    unfold State.closed at stepped
    split at stepped <;> cases stepped
    rfl
  case disconnect =>
    unfold State.disconnect at stepped
    split at stepped <;> cases stepped
    rfl
  case failNext =>
    unfold State.failNext at stepped
    split at stepped
    · cases stepped
      rfl
    · dsimp only at stepped
      split at stepped <;> cases stepped <;> rfl
    · cases stepped
  case failResume =>
    unfold State.failResume at stepped
    split at stepped
    · rcases Option.map_eq_some_iff.mp stepped with ⟨queue, _, result⟩
      cases result
      rfl
    · cases stepped
  case cancelCleanup =>
    unfold State.cancelCleanup at stepped
    split at stepped <;> cases stepped
    · exact before.cancels_cancelReader stream
    · rfl
    · rfl
    · rfl

theorem cancels_of_call_step (foreign : action.stream? = none)
    (stepped : step config before action = some after) (request : Nat) :
    after.cancels request = before.cancels request ∨
      (Exists fun jobId : String => action = .cancel request jobId) ∨
        action = .cancelResume request ∨ action = .cancelAbandon request := by
  have moved : forall (state : State) (own : Nat) (phase : CancelPhase),
      state.cancels = before.cancels -> request ≠ own ->
        (state.setCancel own phase).cancels request = before.cancels request := by
    intro state own phase same different
    rw [State.setCancel, same]
    exact Function.update_of_ne different _ _
  cases action <;> cases foreign <;> simp only [step] at stepped
  case openDiagnostics =>
    unfold State.openDiagnostics at stepped
    split at stepped
    · split at stepped
      · cases stepped
        exact .inl rfl
      · split at stepped <;> cases stepped <;> exact .inl rfl
    · cases stepped
  case openKubernetes =>
    unfold State.openKubernetes at stepped
    split at stepped
    · split at stepped
      · cases stepped
        exact .inl rfl
      · dsimp only at stepped
        split at stepped <;> cases stepped <;> exact .inl rfl
    · cases stepped
  case dropUnsupported =>
    unfold State.dropUnsupported at stepped
    split at stepped <;> cases stepped
    exact .inl rfl
  case requestResume =>
    unfold State.requestResume at stepped
    split at stepped
    · rcases Option.map_eq_some_iff.mp stepped with ⟨queue, _, result⟩
      cases result
      exact .inl rfl
    · cases stepped
  case deliver =>
    unfold State.deliver at stepped
    split at stepped
    · rcases Option.map_eq_some_iff.mp stepped with ⟨queue, _, result⟩
      cases result
      exact .inl rfl
    · cases stepped
  case advance =>
    unfold State.advance at stepped
    split at stepped <;> cases stepped
    exact .inl rfl
  case abandon =>
    unfold State.abandon at stepped
    split at stepped <;> cases stepped <;> exact .inl rfl
  case finalise =>
    unfold State.finalise at stepped
    split at stepped
    · split at stepped <;> cases stepped
      change (State.rememberCompleted _ _ _).cancels _ = _ ∨ _
      unfold State.rememberCompleted
      split <;> exact .inl rfl
    · cases stepped
  case cancel own jobId =>
    by_cases same : request = own
    · exact .inr (.inl ⟨jobId, by rw [same]⟩)
    · left
      unfold State.cancel at stepped
      split at stepped
      · split at stepped
        · cases stepped
          exact moved _ _ _ rfl same
        · dsimp only at stepped
          split at stepped
          · cases stepped
            exact moved _ _ _ rfl same
          · split at stepped <;> cases stepped <;> exact moved _ _ _ rfl same
      · cases stepped
  case cancelResume own =>
    by_cases same : request = own
    · exact .inr (.inr (.inl (by rw [same])))
    · left
      unfold State.cancelResume at stepped
      split at stepped
      · rcases Option.map_eq_some_iff.mp stepped with ⟨queue, _, result⟩
        cases result
        exact moved _ _ _ rfl same
      · cases stepped
  case cancelAbandon own =>
    by_cases same : request = own
    · exact .inr (.inr (.inr (by rw [same])))
    · left
      unfold State.cancelAbandon at stepped
      split at stepped <;> cases stepped
      exact moved _ _ _ rfl same

/-- A cancellation is moved by its own steps only. -/
theorem cancels_of_step (stepped : step config before action = some after) (request : Nat) :
    after.cancels request = before.cancels request ∨
      (Exists fun jobId : String => action = .cancel request jobId) ∨
        action = .cancelResume request ∨ action = .cancelAbandon request := by
  cases actor : action.stream? with
  | some stream => exact .inl (congrFun (cancels_of_stream_step actor stepped) request)
  | none => exact cancels_of_call_step actor stepped request

/-- A cancellation that ends leaves no put behind. -/
theorem canceller_gone (stepped : step config before action = some after)
    (waiting : before.cancels request = .waiting stream)
    (ends : action = .cancelResume request ∨ action = .cancelAbandon request)
    {frame : Option ControlFrame} :
    (.canceller request, frame) ∉ (after.outgoing stream).putters := by
  intro listed
  have removed : forall queue : BoundedQueue Task (Option ControlFrame),
      (Task.canceller request, frame) ∉
        queue.putters.filter (fun other => other.1 ≠ .canceller request) := by
    intro queue member
    exact of_decide_eq_true (List.mem_filter.mp member).2 rfl
  rcases ends with rfl | rfl <;> simp only [step] at stepped
  · unfold State.cancelResume at stepped
    rw [waiting] at stepped
    rcases Option.map_eq_some_iff.mp stepped with ⟨queue, resume, result⟩
    cases result
    rcases BoundedQueue.resume_eq_some resume with ⟨_, _, _, putters⟩
    change _ ∈ ((before.modifyOutgoing stream fun _ => queue).outgoing stream).putters at listed
    rw [State.outgoing_modifyOutgoing, putters] at listed
    exact removed _ listed
  · unfold State.cancelAbandon at stepped
    rw [waiting] at stepped
    cases stepped
    change _ ∈ ((before.modifyOutgoing stream
      (·.withdraw (.canceller request))).outgoing stream).putters at listed
    rw [State.outgoing_modifyOutgoing] at listed
    exact removed _ listed

/-- A cancellation whose put is suspended waits for this stream. -/
theorem waiting_of_cancel {jobId : String} (fresh : forall frame,
      (.canceller request, frame) ∉ (before.outgoing stream).putters)
    (stepped : step config before (.cancel request jobId) = some after)
    {frame : Option ControlFrame}
    (listed : (.canceller request, frame) ∈ (after.outgoing stream).putters) :
    after.cancels request = .waiting stream := by
  simp only [step] at stepped
  unfold State.cancel at stepped
  split at stepped
  · split at stepped
    · cases stepped
      exact absurd listed (fresh frame)
    · rename_i call _
      dsimp only at stepped
      split at stepped
      · cases stepped
        exact absurd listed (fresh frame)
      · split at stepped <;> cases stepped
        · exact absurd listed (fresh frame)
        · rename_i target _
          change _ ∈ ((State.putOutgoing _ target _ _).outgoing stream).putters at listed
          by_cases own : stream = target
          · subst own
            rw [State.putOutgoing, State.outgoing_modifyOutgoing] at listed
            rw [State.setCancel]
            refine (Function.update_self _ _ _).trans (if_pos ?_)
            by_contra room
            have free : ¬ (before.outgoing stream).full maxOutgoingFrames = true := room
            change _ ∈ ((before.outgoing stream).put _ _ _).putters at listed
            rw [BoundedQueue.put, if_neg free] at listed
            exact fresh frame listed
          · rw [State.putOutgoing, State.outgoing_modifyOutgoing_ne _ own] at listed
            exact absurd listed (fresh frame)
  · cases stepped

theorem State.Cancelling.step (cancelling : before.Cancelling)
    (stepped : Gateway.step config before action = some after) : after.Cancelling := by
  intro stream request frame listed
  rcases canceller_of_step stepped listed with earlier | ⟨jobId, isCancel, same, idle⟩
  · rcases cancelling stream request frame earlier with ⟨waiting, single⟩
    constructor
    · rcases cancels_of_step stepped request with kept | ⟨jobId, isCancel⟩ | ends
      · exact kept.trans waiting
      · subst isCancel
        simp only [Gateway.step, State.cancel, waiting] at stepped
        cases stepped
      · exact absurd listed (canceller_gone stepped waiting ends)
    · intro other otherListed
      rcases canceller_of_step stepped otherListed with known | ⟨_, _, _, idle⟩
      · exact single other known
      · rw [waiting] at idle
        cases idle
  · have fresh : forall given, (.canceller request, given) ∉ (before.outgoing stream).putters := by
      intro given known
      rw [(cancelling stream request given known).1] at idle
      cases idle
    subst isCancel
    refine ⟨waiting_of_cancel fresh stepped listed, fun other otherListed => ?_⟩
    rcases canceller_of_step stepped otherListed with known | ⟨_, isCancel, otherSame, _⟩
    · exact absurd known (fresh other)
    · cases isCancel
      rw [same, otherSame]

theorem cancelling_of_reachable {config : GatewayConfig} {state : State}
    (reached : (machine config).Reachable state) : state.Cancelling := by
  refine reached.invariant ?_ ?_
  · rintro start ⟨⟩ stream request frame listed
    cases listed
  · exact fun _ _ _ _ cancelling _ stepped => cancelling.step stepped

end Cancellations

end Gateway
end DjangoOps
