import DjangoOps.Gateway.Step

namespace DjangoOps
namespace Gateway

open Protocol

/-!
# What one step can change

Every later argument about the gateway asks how a step changes one record: a
call, a stream or a dictionary.  The inversion lemmas here answer this once,
in the form that later inductions need; no later proof unfolds a step.
-/

/-- The parts of a stream that only its own tasks write. -/
structure StreamFrame (before after : Stream) : Prop where
  phase : after.phase = before.phase
  first : after.first = before.first
  reader : after.reader = before.reader
  agentId : after.session.agentId = before.session.agentId
  capabilities : after.session.capabilities = before.session.capabilities

theorem StreamFrame.refl (stream : Stream) : StreamFrame stream stream :=
  ⟨rfl, rfl, rfl, rfl, rfl⟩

/-- The stream that a task belongs to. -/
def Task.stream? : Task -> Option Nat
  | .reader stream => some stream
  | .connect stream => some stream
  | .call _ => none
  | .canceller _ => none

namespace State

variable (state : State)

/-- A task of a stream is suspended on the queue of this job. -/
def Waits (task : Task) (call : Nat) : Prop :=
  match task with
  | .reader stream =>
      (state.streams stream).reader = .putEvent call ∨
        Exists fun jobId : String => (state.streams stream).reader = .putFailure call jobId
  | .connect stream =>
      Exists fun remaining : List (String × Nat) =>
        (state.streams stream).phase = .failWaiting call remaining
  | _ => False

/-! ## Primitive changes -/

theorem frame_modifyOutgoing (stream other : Nat)
    (change : BoundedQueue Task (Option ControlFrame) -> BoundedQueue Task (Option ControlFrame)) :
    StreamFrame (state.streams other) ((state.modifyOutgoing stream change).streams other) := by
  rw [modifyOutgoing, streams_modifyStream]
  by_cases same : other = stream
  · subst same
    rw [if_pos rfl]
    exact ⟨rfl, rfl, rfl, rfl, rfl⟩
  · rw [if_neg same]
    exact .refl _

/-- A change of one stream leaves every other stream alone. -/
theorem streams_modifyStream_ne {stream other : Nat} (different : other ≠ stream)
    (change : Stream -> Stream) :
    (state.modifyStream stream change).streams other = state.streams other := by
  rw [streams_modifyStream, if_neg different]

theorem calls_modifyCall_ne {call other : Nat} (different : other ≠ call)
    (change : Call -> Call) :
    (state.modifyCall call change).calls other = state.calls other := by
  rw [calls_modifyCall, if_neg different]

/-! ## Steps of one stream leave the other streams alone -/

theorem streams_readerPutCancel_ne {stream other : Nat} (different : other ≠ stream)
    (jobId : String) :
    (state.readerPutCancel stream jobId).streams other = state.streams other := by
  simp only [readerPutCancel, setReader, putOutgoing, modifyOutgoing,
    streams_modifyStream_ne _ different]

theorem streams_readerFinish_ne {stream other : Nat} (different : other ≠ stream) :
    (state.readerFinish stream).streams other = state.streams other := by
  simp only [readerFinish, setReader, putOutgoing, modifyOutgoing,
    streams_modifyStream_ne _ different]

theorem streams_acceptEvent_ne {stream other : Nat} (different : other ≠ stream) (jobId : String)
    (sequence : Nat) (frame : AgentFrame) :
    (state.acceptEvent stream jobId sequence frame).streams other = state.streams other := by
  unfold acceptEvent
  cases state.jobs.lookup jobId with
  | none => rfl
  | some call =>
      dsimp only
      split
      · rfl
      · split
        · split
          · exact streams_modifyStream_ne _ different _
          · exact streams_readerPutCancel_ne _ different jobId
        · split
          · exact streams_modifyStream_ne _ different _
          · rfl

theorem streams_cancelReader_ne {stream other : Nat} (different : other ≠ stream) :
    (state.cancelReader stream).streams other = state.streams other := by
  unfold cancelReader
  split
  · rfl
  · exact streams_readerFinish_ne _ different
  · exact streams_readerFinish_ne _ different
  · exact streams_readerFinish_ne _ different
  · rw [streams_readerFinish_ne _ different]
    exact streams_modifyStream_ne _ different _
  · simp only [setReader, modifyOutgoing, streams_modifyStream_ne _ different]
  · rfl

theorem streams_rememberCompleted (config : GatewayConfig) (jobId : String) :
    (state.rememberCompleted config jobId).streams = state.streams := by
  unfold rememberCompleted
  split <;> rfl

end State

/-- A step of a `Connect` call does not touch another stream. -/
theorem streams_of_stream_step {config : GatewayConfig} {before after : State} {action : Action}
    {stream other : Nat} (own : action.stream? = some stream) (different : other ≠ stream)
    (stepped : step config before action = some after) :
    after.streams other = before.streams other := by
  cases action <;> cases own <;> simp only [step] at stepped
  case connect =>
    unfold State.connect at stepped
    split at stepped <;> cases stepped
    exact State.streams_modifyStream_ne _ different _
  case firstFrame =>
    unfold State.firstFrame at stepped
    split at stepped
    · split at stepped <;> cases stepped <;> exact State.streams_modifyStream_ne _ different _
    · cases stepped
  case register =>
    unfold State.register at stepped
    split at stepped
    · dsimp only at stepped
      split at stepped <;> cases stepped
      · change (before.setConnect stream .refusing).streams other = _
        exact State.streams_modifyStream_ne _ different _
      · exact State.streams_modifyStream_ne _ different _
    · cases stepped
  case abortDone =>
    unfold State.abortDone at stepped
    split at stepped <;> cases stepped
    change (before.setConnect stream _).streams other = _
    exact State.streams_modifyStream_ne _ different _
  case readFrame =>
    unfold State.readFrame at stepped
    split at stepped
    · split at stepped
      · cases stepped
        rfl
      · cases stepped
        exact State.streams_acceptEvent_ne _ different _ _ _
    · cases stepped
  case readerEnds =>
    unfold State.readerEnds at stepped
    split at stepped <;> cases stepped
    exact State.streams_readerFinish_ne _ different
  case readerResume =>
    unfold State.readerResume at stepped
    split at stepped
    · rcases Option.map_eq_some_iff.mp stepped with ⟨queue, _, result⟩
      cases result
      exact State.streams_modifyStream_ne _ different _
    · rcases Option.map_eq_some_iff.mp stepped with ⟨queue, _, result⟩
      cases result
      exact State.streams_readerPutCancel_ne _ different _
    · rcases Option.map_eq_some_iff.mp stepped with ⟨queue, _, result⟩
      cases result
      simp only [State.setReader, State.modifyOutgoing,
        State.streams_modifyStream_ne _ different]
    · rcases Option.map_eq_some_iff.mp stepped with ⟨queue, _, result⟩
      cases result
      simp only [State.setReader, State.modifyOutgoing,
        State.streams_modifyStream_ne _ different]
    · cases stepped
  case yieldControl =>
    unfold State.yieldControl at stepped
    split at stepped
    · split at stepped
      · cases stepped
      · cases stepped
        exact State.streams_modifyStream_ne _ different _
      · cases stepped
        simp only [State.setConnect, State.modifyOutgoing,
          State.streams_modifyStream_ne _ different, State.streams_cancelReader_ne _ different]
    · cases stepped
  case cancelStream =>
    unfold State.cancelStream at stepped
    split at stepped <;> cases stepped
    simp only [State.setConnect, State.streams_modifyStream_ne _ different,
      State.streams_cancelReader_ne _ different]
  case closed =>
    unfold State.closed at stepped
    split at stepped <;> cases stepped
    exact State.streams_modifyStream_ne _ different _
  case disconnect =>
    unfold State.disconnect at stepped
    split at stepped <;> cases stepped
    exact State.streams_modifyStream_ne _ different _
  case failNext =>
    unfold State.failNext at stepped
    split at stepped
    · cases stepped
      exact State.streams_modifyStream_ne _ different _
    · dsimp only at stepped
      split at stepped <;> cases stepped <;> exact State.streams_modifyStream_ne _ different _
    · cases stepped
  case failResume =>
    unfold State.failResume at stepped
    split at stepped
    · rcases Option.map_eq_some_iff.mp stepped with ⟨queue, _, result⟩
      cases result
      exact State.streams_modifyStream_ne _ different _
    · cases stepped
  case cancelCleanup =>
    unfold State.cancelCleanup at stepped
    split at stepped
    · cases stepped
      simp only [State.setConnect, State.streams_modifyStream_ne _ different,
        State.streams_cancelReader_ne _ different]
    · cases stepped
      exact State.streams_modifyStream_ne _ different _
    · cases stepped
      exact State.streams_modifyStream_ne _ different _
    · cases stepped
      exact State.streams_modifyStream_ne _ different _
    · cases stepped

/-- A step of a generator or a cancellation touches outgoing queues only. -/
theorem frame_of_call_step {config : GatewayConfig} {before after : State} {action : Action}
    (foreign : action.stream? = none) (stepped : step config before action = some after)
    (other : Nat) : StreamFrame (before.streams other) (after.streams other) := by
  cases action <;> cases foreign <;> simp only [step] at stepped
  case openDiagnostics =>
    unfold State.openDiagnostics at stepped
    split at stepped
    · split at stepped
      · cases stepped
        exact .refl _
      · split at stepped <;> cases stepped
        · exact .refl _
        · exact State.frame_modifyOutgoing _ _ other _
    · cases stepped
  case openKubernetes =>
    unfold State.openKubernetes at stepped
    split at stepped
    · split at stepped
      · cases stepped
        exact .refl _
      · dsimp only at stepped
        split at stepped <;> cases stepped
        · exact State.frame_modifyOutgoing _ _ other _
        · exact .refl _
    · cases stepped
  case dropUnsupported =>
    unfold State.dropUnsupported at stepped
    split at stepped <;> cases stepped
    exact .refl _
  case requestResume =>
    unfold State.requestResume at stepped
    split at stepped
    · rcases Option.map_eq_some_iff.mp stepped with ⟨queue, _, result⟩
      cases result
      exact before.frame_modifyOutgoing _ other fun _ => queue
    · cases stepped
  case deliver =>
    unfold State.deliver at stepped
    split at stepped
    · rcases Option.map_eq_some_iff.mp stepped with ⟨taken, _, result⟩
      cases result
      exact .refl _
    · cases stepped
  case advance =>
    unfold State.advance at stepped
    split at stepped <;> cases stepped
    exact .refl _
  case abandon =>
    unfold State.abandon at stepped
    split at stepped <;> cases stepped
    · exact .refl _
    · exact State.frame_modifyOutgoing _ _ other _
    · exact .refl _
    · exact .refl _
    · exact .refl _
  case finalise =>
    unfold State.finalise at stepped
    split at stepped
    · split at stepped <;> cases stepped
      change StreamFrame _ ((State.rememberCompleted _ _ _).streams other)
      rw [State.streams_rememberCompleted]
      exact .refl _
    · cases stepped
  case cancel =>
    unfold State.cancel at stepped
    split at stepped
    · split at stepped
      · cases stepped
        exact .refl _
      · dsimp only at stepped
        split at stepped
        · cases stepped
          exact .refl _
        · split at stepped <;> cases stepped
          · exact .refl _
          · exact State.frame_modifyOutgoing _ _ other _
    · cases stepped
  case cancelResume =>
    unfold State.cancelResume at stepped
    split at stepped
    · rcases Option.map_eq_some_iff.mp stepped with ⟨queue, _, result⟩
      cases result
      exact before.frame_modifyOutgoing _ other fun _ => queue
    · cases stepped
  case cancelAbandon =>
    unfold State.cancelAbandon at stepped
    split at stepped <;> cases stepped
    exact State.frame_modifyOutgoing _ _ other _

/-! ## Calls -/

/-- The stream whose reader an action cancels: its serving loop is left, or
its clean-up is cancelled while it waits for the reader. -/
def State.cancelsReader (state : State) : Action -> Option Nat
  | .yieldControl stream =>
      match (state.outgoing stream).get with
      | some (none, _) => some stream
      | _ => none
  | .cancelStream stream => some stream
  | .cancelCleanup stream =>
      if (state.streams stream).phase = .closing then some stream else none
  | _ => none

/-- What a step can do to the record of one call. -/
inductive CallMove (before : State) (call : Nat) : Action -> Call -> Prop
  | same (action : Action) : CallMove before call action (before.calls call)
  | refused (action : Action) (error : PyException) (foreign : action.stream? = none)
      (phase : (before.calls call).phase = .idle ∨ (before.calls call).phase = .dropping) :
      CallMove before call action { before.calls call with phase := .refused error }
  | opened (action : Action) (agentId jobId : String) (kind : JobKind) (phase : CallPhase)
      (opens : action.opens? = some (call, agentId, jobId))
      (idle : (before.calls call).phase = .idle)
      (active : phase = .dropping ∨ phase = .receiving ∨
        Exists fun stream : Nat => phase = .requesting stream) :
      CallMove before call action
        { before.calls call with jobId := jobId, job := .new agentId kind, phase := phase }
  | accepted (stream : Nat) (jobId : String) (frame : AgentFrame)
      (reading : (before.streams stream).reader = .reading)
      (event : frame.event? = some (jobId, (before.calls call).job.nextSequence))
      (registered : before.jobs.lookup jobId = some call)
      (agent : (before.calls call).job.agentId = (before.streams stream).session.agentId) :
      CallMove before call (.readFrame stream frame)
        { before.calls call with
          job := { (before.calls call).job with
            nextSequence := (before.calls call).job.nextSequence + 1
            queue := (before.queue call).put maxJobEvents (.reader stream)
              (.forwarded stream frame) } }
  | disordered (stream : Nat) (jobId : String) (frame : AgentFrame) (sequence : Nat)
      (reading : (before.streams stream).reader = .reading)
      (event : frame.event? = some (jobId, sequence))
      (mismatch : sequence ≠ (before.calls call).job.nextSequence)
      (registered : before.jobs.lookup jobId = some call)
      (agent : (before.calls call).job.agentId = (before.streams stream).session.agentId) :
      CallMove before call (.readFrame stream frame)
        { before.calls call with
          job := { (before.calls call).job with
            queue := (before.queue call).put maxJobEvents (.reader stream)
              (.failure (before.calls call).job.kind jobId
                (before.calls call).job.nextSequence .streamOrder) } }
  | failed (stream : Nat) (jobId : String) (remaining : List (String × Nat))
      (phase : (before.streams stream).phase = .failing ((jobId, call) :: remaining))
      (agent : (before.calls call).job.agentId = (before.streams stream).session.agentId) :
      CallMove before call (.failNext stream)
        { before.calls call with
          job := { (before.calls call).job with
            queue := (before.queue call).put maxJobEvents (.connect stream)
              (.failure (before.calls call).job.kind jobId
                (before.calls call).job.nextSequence .agentDisconnected) } }
  | admitted (action : Action) (task : Task) (queue : BoundedQueue Task Delivery)
      (resume : (before.queue call).resume maxJobEvents task = some queue)
      (waiting : before.Waits task call) (own : action.stream? = task.stream?) :
      CallMove before call action
        { before.calls call with job := { (before.calls call).job with queue := queue } }
  | withdrawn (action : Action) (task : Task)
      (waiting : before.Waits task call) (own : action.stream? = task.stream?)
      (cause : forall stream, task = .reader stream ->
        before.cancelsReader action = some stream) :
      CallMove before call action
        { before.calls call with
          job := { (before.calls call).job with
            queue := (before.queue call).withdraw task } }
  | requested (stream : Nat) (phase : (before.calls call).phase = .requesting stream) :
      CallMove before call (.requestResume call) { before.calls call with phase := .receiving }
  | delivered (delivery : Delivery) (rest : BoundedQueue Task Delivery)
      (phase : (before.calls call).phase = .receiving)
      (taken : (before.queue call).get = some (delivery, rest)) :
      CallMove before call (.deliver call)
        { before.calls call with
          job := { (before.calls call).job with queue := rest }
          phase := .delivered delivery
          received := (before.calls call).received ++ [delivery] }
  | advanced (delivery : Delivery) (phase : (before.calls call).phase = .delivered delivery) :
      CallMove before call (.advance call)
        { before.calls call with
          phase := if delivery.isTerminal then .closing true else .receiving }
  | abandoned (phase : CallPhase) (busy : (before.calls call).phase ≠ .idle)
      (left : phase = .closing false ∨ phase = .leaked) :
      CallMove before call (.abandon call) { before.calls call with phase := phase }
  | finished (exhausted : Bool) (phase : (before.calls call).phase = .closing exhausted) :
      CallMove before call (.finalise call)
        { before.calls call with phase := .finished exhausted }
  | cancelled (request : Nat) (jobId : String)
      (registered : before.jobs.lookup jobId = some call) :
      CallMove before call (.cancel request jobId)
        { before.calls call with job := { (before.calls call).job with cancelSent := true } }

theorem CallMove.of_eq {before : State} {call : Nat} {action : Action} {record : Call}
    (same : record = before.calls call) : CallMove before call action record :=
  same ▸ .same action

namespace State

variable (state : State)

theorem calls_modifyQueue_self (call : Nat)
    (change : BoundedQueue Task Delivery -> BoundedQueue Task Delivery) :
    (state.modifyQueue call change).calls call =
      { state.calls call with
        job := { (state.calls call).job with queue := change (state.queue call) } } := by
  rw [modifyQueue, modifyJob, calls_modifyCall, if_pos rfl]
  rfl

theorem calls_modifyQueue_ne {call other : Nat} (different : other ≠ call)
    (change : BoundedQueue Task Delivery -> BoundedQueue Task Delivery) :
    (state.modifyQueue call change).calls other = state.calls other := by
  rw [modifyQueue, modifyJob, calls_modifyCall_ne _ different]

theorem calls_setCall_self (call : Nat) (phase : CallPhase) :
    (state.setCall call phase).calls call = { state.calls call with phase := phase } := by
  rw [setCall, calls_modifyCall, if_pos rfl]

theorem calls_setCall_ne {call other : Nat} (different : other ≠ call) (phase : CallPhase) :
    (state.setCall call phase).calls other = state.calls other :=
  state.calls_modifyCall_ne different _

/-- The queue of a job is the only thing that cancelling a reader changes in a call. -/
theorem callMove_cancelReader {action : Action} {stream : Nat}
    (own : action.stream? = some stream) (cancels : state.cancelsReader action = some stream)
    (call : Nat) :
    CallMove state call action ((state.cancelReader stream).calls call) := by
  have cause : forall other, Task.reader stream = .reader other ->
      state.cancelsReader action = some other := by
    rintro other ⟨⟩
    exact cancels
  unfold cancelReader
  split
  · exact .same _
  · exact .same _
  · rename_i waiting reader
    change CallMove state call action ((state.modifyQueue waiting _).calls call)
    by_cases same : call = waiting
    · subst same
      rw [calls_modifyQueue_self]
      exact .withdrawn _ (.reader stream) (.inl reader) own cause
    · exact .of_eq (state.calls_modifyQueue_ne same _)
  · rename_i waiting jobId reader
    change CallMove state call action ((state.modifyQueue waiting _).calls call)
    by_cases same : call = waiting
    · subst same
      rw [calls_modifyQueue_self]
      exact .withdrawn _ (.reader stream) (.inr ⟨jobId, reader⟩) own cause
    · exact .of_eq (state.calls_modifyQueue_ne same _)
  · exact .same _
  · exact .same _
  · exact .same _

/-- Taking the last control frame first makes no difference to the calls. -/
theorem calls_cancelReader_modifyOutgoing (stream : Nat)
    (change : BoundedQueue Task (Option ControlFrame) -> BoundedQueue Task (Option ControlFrame)) :
    ((state.modifyOutgoing stream change).cancelReader stream).calls =
      (state.cancelReader stream).calls := by
  have reader := (state.frame_modifyOutgoing stream stream change).reader
  unfold cancelReader
  rw [reader]
  split <;> rfl

theorem calls_rememberCompleted (config : GatewayConfig) (jobId : String) :
    (state.rememberCompleted config jobId).calls = state.calls := by
  unfold rememberCompleted
  split <;> rfl

/-- Opening a job writes one fresh record, whatever the outgoing queue does. -/
theorem callMove_addJob {action : Action} {own call : Nat} {agentId jobId : String}
    {kind : JobKind} {phase : CallPhase} (opens : action.opens? = some (own, agentId, jobId))
    (idle : (state.calls own).phase = .idle)
    (active : phase = .dropping ∨ phase = .receiving ∨
      Exists fun stream : Nat => phase = .requesting stream) :
    CallMove state call action
      (((state.addJob own agentId jobId kind).setCall own phase).calls call) := by
  by_cases same : call = own
  · subst same
    simp only [setCall, addJob, calls_modifyCall, if_true]
    exact .opened action agentId jobId kind phase opens idle active
  · refine .of_eq ?_
    simp only [setCall, addJob, calls_modifyCall, if_neg same]

theorem callMove_putRequest {action : Action} {own call stream : Nat} {agentId jobId : String}
    {kind : JobKind} {frame : ControlFrame} (opens : action.opens? = some (own, agentId, jobId))
    (idle : (state.calls own).phase = .idle) :
    CallMove state call action
      (((state.addJob own agentId jobId kind).putRequest own stream frame).calls call) := by
  unfold putRequest
  split
  · exact state.callMove_addJob opens idle (.inr (.inr ⟨stream, rfl⟩))
  · exact state.callMove_addJob opens idle (.inr (.inl rfl))

theorem callMove_refused {action : Action} {own call : Nat} {error : PyException}
    (foreign : action.stream? = none) (idle : (state.calls own).phase = .idle) :
    CallMove state call action ((state.setCall own (.refused error)).calls call) := by
  by_cases same : call = own
  · subst same
    rw [calls_setCall_self]
    exact .refused action error foreign (.inl idle)
  · exact .of_eq (state.calls_setCall_ne same _)

theorem callMove_acceptEvent {stream : Nat} {jobId : String} {sequence : Nat} {frame : AgentFrame}
    (reading : (state.streams stream).reader = .reading)
    (event : frame.event? = some (jobId, sequence)) (call : Nat) :
    CallMove state call (.readFrame stream frame)
      ((state.acceptEvent stream jobId sequence frame).calls call) := by
  unfold acceptEvent
  cases registered : state.jobs.lookup jobId with
  | none => exact .same _
  | some target =>
      dsimp only
      by_cases agent : (state.calls target).job.agentId = (state.streams stream).session.agentId
      · rw [if_neg (not_not.mpr agent)]
        by_cases inOrder : sequence = (state.calls target).job.nextSequence
        · rw [if_neg (not_not.mpr inOrder)]
          have touched : CallMove state call (.readFrame stream frame)
              (((state.modifyJob target fun job =>
                { job with nextSequence := job.nextSequence + 1 }).putJob target (.reader stream)
                  (.forwarded stream frame)).calls call) := by
            by_cases same : call = target
            · subst same
              simp only [putJob, modifyQueue, modifyJob, calls_modifyCall, if_true]
              exact .accepted stream jobId frame reading (inOrder ▸ event) registered agent
            · refine .of_eq ?_
              simp only [putJob, modifyQueue, modifyJob, calls_modifyCall, if_neg same]
          split
          · exact touched
          · exact touched
        · rw [if_pos inOrder]
          have touched : CallMove state call (.readFrame stream frame)
              ((state.putJob target (.reader stream)
                (.failure (state.calls target).job.kind jobId
                  (state.calls target).job.nextSequence .streamOrder)).calls call) := by
            by_cases same : call = target
            · subst same
              rw [putJob, calls_modifyQueue_self]
              exact .disordered stream jobId frame sequence reading event inOrder registered agent
            · exact .of_eq (state.calls_modifyQueue_ne same _)
          split
          · exact touched
          · exact touched
      · rw [if_pos agent]
        exact .same _

end State

/-- Every step treats the record of a call in one of the listed ways. -/
theorem step_call_move {config : GatewayConfig} {before after : State} {action : Action}
    (stepped : step config before action = some after) (call : Nat) :
    CallMove before call action (after.calls call) := by
  cases action <;> simp only [step] at stepped
  case connect =>
    unfold State.connect at stepped
    split at stepped <;> cases stepped
    exact .same _
  case firstFrame =>
    unfold State.firstFrame at stepped
    split at stepped
    · split at stepped <;> cases stepped <;> exact .same _
    · cases stepped
  case register =>
    unfold State.register at stepped
    split at stepped
    · dsimp only at stepped
      split at stepped <;> cases stepped <;> exact .same _
    · cases stepped
  case abortDone =>
    unfold State.abortDone at stepped
    split at stepped <;> cases stepped
    exact .same _
  case readFrame stream frame =>
    unfold State.readFrame at stepped
    split at stepped
    · rename_i reading
      split at stepped
      · cases stepped
        exact .same _
      · rename_i jobId sequence event
        cases stepped
        exact before.callMove_acceptEvent reading event call
    · cases stepped
  case readerEnds =>
    unfold State.readerEnds at stepped
    split at stepped <;> cases stepped
    exact .same _
  case readerResume stream =>
    unfold State.readerResume at stepped
    split at stepped
    · rename_i waiting reader
      rcases Option.map_eq_some_iff.mp stepped with ⟨queue, resume, result⟩
      cases result
      change CallMove before call _ ((before.modifyQueue waiting fun _ => queue).calls call)
      by_cases same : call = waiting
      · subst same
        rw [State.calls_modifyQueue_self]
        exact .admitted _ (.reader stream) queue resume (.inl reader) rfl
      · exact .of_eq (before.calls_modifyQueue_ne same _)
    · rename_i waiting jobId reader
      rcases Option.map_eq_some_iff.mp stepped with ⟨queue, resume, result⟩
      cases result
      change CallMove before call _ ((before.modifyQueue waiting fun _ => queue).calls call)
      by_cases same : call = waiting
      · subst same
        rw [State.calls_modifyQueue_self]
        exact .admitted _ (.reader stream) queue resume (.inr ⟨jobId, reader⟩) rfl
      · exact .of_eq (before.calls_modifyQueue_ne same _)
    · rcases Option.map_eq_some_iff.mp stepped with ⟨queue, _, result⟩
      cases result
      exact .same _
    · rcases Option.map_eq_some_iff.mp stepped with ⟨queue, _, result⟩
      cases result
      exact .same _
    · cases stepped
  case yieldControl stream =>
    unfold State.yieldControl at stepped
    split at stepped
    · split at stepped
      · cases stepped
      · cases stepped
        exact .same _
      · rename_i rest last
        cases stepped
        change CallMove before call _
          (((before.modifyOutgoing stream fun _ => rest).cancelReader stream).calls call)
        rw [State.calls_cancelReader_modifyOutgoing]
        exact before.callMove_cancelReader rfl (by simp only [State.cancelsReader, last]) call
    · cases stepped
  case cancelStream stream =>
    unfold State.cancelStream at stepped
    split at stepped <;> cases stepped
    exact before.callMove_cancelReader rfl rfl call
  case closed =>
    unfold State.closed at stepped
    split at stepped <;> cases stepped
    exact .same _
  case disconnect =>
    unfold State.disconnect at stepped
    split at stepped <;> cases stepped
    exact .same _
  case failNext stream =>
    unfold State.failNext at stepped
    split at stepped
    · cases stepped
      exact .same _
    · rename_i jobId target remaining phase
      dsimp only at stepped
      split at stepped
      · rename_i agent
        cases stepped
        change CallMove before call _ ((before.putJob target _ _).calls call)
        by_cases same : call = target
        · subst same
          rw [State.putJob, State.calls_modifyQueue_self]
          exact .failed stream jobId remaining phase agent
        · exact .of_eq (before.calls_modifyQueue_ne same _)
      · cases stepped
        exact .same _
    · cases stepped
  case failResume stream =>
    unfold State.failResume at stepped
    split at stepped
    · rename_i waiting remaining phase
      rcases Option.map_eq_some_iff.mp stepped with ⟨queue, resume, result⟩
      cases result
      change CallMove before call _ ((before.modifyQueue waiting fun _ => queue).calls call)
      by_cases same : call = waiting
      · subst same
        rw [State.calls_modifyQueue_self]
        exact .admitted _ (.connect stream) queue resume ⟨remaining, phase⟩ rfl
      · exact .of_eq (before.calls_modifyQueue_ne same _)
    · cases stepped
  case cancelCleanup stream =>
    unfold State.cancelCleanup at stepped
    split at stepped
    · rename_i closing
      cases stepped
      have cancels : before.cancelsReader (.cancelCleanup stream) = some stream := if_pos closing
      exact before.callMove_cancelReader rfl cancels call
    · cases stepped
      exact .same _
    · cases stepped
      exact .same _
    · rename_i waiting remaining phase
      cases stepped
      change CallMove before call _ ((before.modifyQueue waiting _).calls call)
      by_cases same : call = waiting
      · subst same
        rw [State.calls_modifyQueue_self]
        exact .withdrawn _ (.connect stream) ⟨remaining, phase⟩ rfl nofun
      · exact .of_eq (before.calls_modifyQueue_ne same _)
    · cases stepped
  case openDiagnostics own agentId jobId releaseRoot =>
    unfold State.openDiagnostics at stepped
    split at stepped
    · rename_i ready
      split at stepped
      · cases stepped
        exact before.callMove_refused rfl ready.1
      · split at stepped
        · cases stepped
          exact before.callMove_refused rfl ready.1
        · cases stepped
          exact before.callMove_putRequest rfl ready.1
    · cases stepped
  case openKubernetes own agentId request =>
    unfold State.openKubernetes at stepped
    split at stepped
    · rename_i ready
      split at stepped
      · cases stepped
        exact before.callMove_refused rfl ready.1
      · dsimp only at stepped
        split at stepped
        · cases stepped
          exact before.callMove_putRequest rfl ready.1
        · cases stepped
          exact before.callMove_addJob rfl ready.1 (.inl rfl)
    · cases stepped
  case dropUnsupported own =>
    unfold State.dropUnsupported at stepped
    split at stepped
    · rename_i ready
      cases stepped
      by_cases same : call = own
      · subst same
        rw [State.calls_setCall_self]
        exact .refused _ _ rfl (.inr ready.1)
      · exact .of_eq (State.calls_setCall_ne _ same _)
    · cases stepped
  case requestResume own =>
    unfold State.requestResume at stepped
    split at stepped
    · rename_i stream phase
      rcases Option.map_eq_some_iff.mp stepped with ⟨queue, _, result⟩
      cases result
      by_cases same : call = own
      · subst same
        rw [State.calls_setCall_self]
        exact .requested stream phase
      · exact .of_eq (State.calls_setCall_ne _ same _)
    · cases stepped
  case deliver own =>
    unfold State.deliver at stepped
    split at stepped
    · rename_i phase
      rcases Option.map_eq_some_iff.mp stepped with ⟨taken, get, result⟩
      cases result
      by_cases same : call = own
      · subst same
        simp only [State.modifyQueue, State.modifyJob, State.calls_modifyCall, if_true]
        exact .delivered taken.1 taken.2 phase get
      · refine .of_eq ?_
        simp only [State.modifyQueue, State.modifyJob, State.calls_modifyCall, if_neg same]
    · cases stepped
  case advance own =>
    unfold State.advance at stepped
    split at stepped
    · rename_i delivery phase
      cases stepped
      by_cases same : call = own
      · subst same
        rw [State.calls_setCall_self]
        exact .advanced delivery phase
      · exact .of_eq (State.calls_setCall_ne _ same _)
    · cases stepped
  case abandon own =>
    by_cases same : call = own
    · subst same
      unfold State.abandon at stepped
      split at stepped <;> cases stepped <;> rename_i phase <;> rw [State.calls_setCall_self]
      · exact .abandoned _ (by rw [phase]; exact nofun) (.inr rfl)
      · exact .abandoned _ (by rw [phase]; exact nofun) (.inr rfl)
      · exact .abandoned _ (by rw [phase]; exact nofun) (.inl rfl)
      · exact .abandoned _ (by rw [phase]; exact nofun) (.inl rfl)
      · exact .abandoned _ (by rw [phase]; exact nofun) (.inr rfl)
    · unfold State.abandon at stepped
      split at stepped <;> cases stepped <;> exact .of_eq (State.calls_setCall_ne _ same _)
  case finalise own =>
    unfold State.finalise at stepped
    split at stepped
    · rename_i exhausted phase
      split at stepped
      · cases stepped
        by_cases same : call = own
        · subst same
          rw [State.calls_setCall_self, State.calls_rememberCompleted]
          exact .finished exhausted phase
        · refine .of_eq ((State.calls_setCall_ne _ same _).trans ?_)
          rw [State.calls_rememberCompleted]
      · cases stepped
    · cases stepped
  case cancel request jobId =>
    unfold State.cancel at stepped
    split at stepped
    · split at stepped
      · cases stepped
        exact .same _
      · rename_i target registered
        dsimp only at stepped
        split at stepped
        · cases stepped
          exact .same _
        · split at stepped
          · cases stepped
            exact .same _
          · cases stepped
            change CallMove before call _
              ((before.modifyJob target fun job => { job with cancelSent := true }).calls call)
            by_cases same : call = target
            · subst same
              rw [State.modifyJob, State.calls_modifyCall, if_pos rfl]
              exact .cancelled request jobId registered
            · exact .of_eq (before.calls_modifyCall_ne same _)
    · cases stepped
  case cancelResume =>
    unfold State.cancelResume at stepped
    split at stepped
    · rcases Option.map_eq_some_iff.mp stepped with ⟨queue, _, result⟩
      cases result
      exact .same _
    · cases stepped
  case cancelAbandon =>
    unfold State.cancelAbandon at stepped
    split at stepped
    · cases stepped
      exact .same _
    · cases stepped

/-! ## Streams -/

/-- The parts of a stream that its reader does not write. -/
structure SessionFrame (before after : Stream) : Prop where
  phase : after.phase = before.phase
  first : after.first = before.first
  agentId : after.session.agentId = before.session.agentId
  capabilities : after.session.capabilities = before.session.capabilities

theorem SessionFrame.trans {first second third : Stream} (left : SessionFrame first second)
    (right : SessionFrame second third) : SessionFrame first third :=
  ⟨right.phase.trans left.phase, right.first.trans left.first, right.agentId.trans left.agentId,
    right.capabilities.trans left.capabilities⟩

/-- The job on whose queue a reader is suspended. -/
def ReaderPhase.job? : ReaderPhase -> Option Nat
  | .putEvent call => some call
  | .putFailure call _ => some call
  | _ => none

/-- What a step can do to the record of one stream. -/
inductive StreamMove (config : GatewayConfig) (before : State) (stream : Nat) :
    Action -> Stream -> Prop
  | framed (action : Action) (record : Stream)
      (frame : StreamFrame (before.streams stream) record) :
      StreamMove config before stream action record
  | connected (idle : (before.streams stream).phase = .idle) :
      StreamMove config before stream (.connect stream)
        { before.streams stream with phase := .awaitingHello }
  | turnedAway (first : Option AgentFrame) (refusal : Refusal)
      (awaiting : (before.streams stream).phase = .awaitingHello) :
      StreamMove config before stream (.firstFrame stream first)
        { before.streams stream with phase := .refused refusal, first := first }
  | greeted (first : Option AgentFrame) (hello : AgentHello)
      (awaiting : (before.streams stream).phase = .awaitingHello)
      (accepted : handshake config first = .ok hello) :
      StreamMove config before stream (.firstFrame stream first)
        { before.streams stream with
          phase := .registering
          first := first
          session := .new hello.agentId hello.capabilities hello.protocol }
  | duplicate (registering : (before.streams stream).phase = .registering) :
      StreamMove config before stream (.register stream)
        { before.streams stream with phase := .refusing }
  | registered (registering : (before.streams stream).phase = .registering)
      (fresh : (before.streams stream).session.agentId ∉ before.sessions) :
      StreamMove config before stream (.register stream)
        { before.streams stream with phase := .serving, reader := .reading }
  | aborted (refusal : Refusal) (refusing : (before.streams stream).phase = .refusing) :
      StreamMove config before stream (.abortDone stream)
        { before.streams stream with phase := .refused refusal }
  | readerPut (frame : AgentFrame) (jobId : String) (call : Nat) (record : Stream)
      (reading : (before.streams stream).reader = .reading)
      (registered : before.jobs.lookup jobId = some call)
      (agent : (before.calls call).job.agentId = (before.streams stream).session.agentId)
      (kept : SessionFrame (before.streams stream) record)
      (suspended : record.reader.job? = some call) :
      StreamMove config before stream (.readFrame stream frame) record
  | readerMoved (action : Action) (record : Stream) (own : action.stream? = some stream)
      (running : (before.streams stream).reader ≠ .absent)
      (kept : SessionFrame (before.streams stream) record)
      (free : record.reader.job? = none) :
      StreamMove config before stream action record
  | stopped (action : Action) (record : Stream) (own : action.stream? = some stream)
      (phases : ((before.streams stream).phase = .serving ∧ record.phase = .closing) ∨
        ((before.streams stream).phase = .closing ∧ record.phase = .ended))
      (kept : SessionFrame (before.streams stream) { record with phase := (before.streams stream).phase })
      (free : record.reader.job? = none) :
      StreamMove config before stream action record
  | closed (phase : (before.streams stream).phase = .closing)
      (done : (before.streams stream).reader = .done) :
      StreamMove config before stream (.closed stream)
        { before.streams stream with phase := .disconnecting }
  | snapshot (phase : (before.streams stream).phase = .disconnecting) :
      StreamMove config before stream (.disconnect stream)
        { before.streams stream with phase := .failing before.jobItems }
  | failed (jobId : String) (call : Nat) (remaining : List (String × Nat))
      (phase : (before.streams stream).phase = .failing ((jobId, call) :: remaining)) :
      StreamMove config before stream (.failNext stream)
        { before.streams stream with phase := .failing remaining }
  | failWaits (jobId : String) (call : Nat) (remaining : List (String × Nat))
      (phase : (before.streams stream).phase = .failing ((jobId, call) :: remaining))
      (agent : (before.calls call).job.agentId = (before.streams stream).session.agentId) :
      StreamMove config before stream (.failNext stream)
        { before.streams stream with phase := .failWaiting call remaining }
  | failResumed (call : Nat) (remaining : List (String × Nat))
      (phase : (before.streams stream).phase = .failWaiting call remaining) :
      StreamMove config before stream (.failResume stream)
        { before.streams stream with phase := .failing remaining }
  | ended (action : Action) (own : action.stream? = some stream)
      (phase : (before.streams stream).phase = .disconnecting ∨
        (Exists fun remaining : List (String × Nat) =>
          (before.streams stream).phase = .failing remaining) ∨
        Exists fun waiting : Nat × List (String × Nat) =>
          (before.streams stream).phase = .failWaiting waiting.1 waiting.2) :
      StreamMove config before stream action { before.streams stream with phase := .ended }

namespace State

variable (state : State)

theorem streams_setConnect_self (stream : Nat) (phase : ConnectPhase) :
    (state.setConnect stream phase).streams stream =
      { state.streams stream with phase := phase } := by
  rw [setConnect, streams_modifyStream, if_pos rfl]

theorem streams_setReader_self (stream : Nat) (phase : ReaderPhase) :
    (state.setReader stream phase).streams stream =
      { state.streams stream with reader := phase } := by
  rw [setReader, streams_modifyStream, if_pos rfl]

theorem sessionFrame_setReader (stream : Nat) (phase : ReaderPhase) :
    SessionFrame (state.streams stream) ((state.setReader stream phase).streams stream) := by
  rw [streams_setReader_self]
  exact ⟨rfl, rfl, rfl, rfl⟩

theorem sessionFrame_outgoing (stream : Nat) (phase : ReaderPhase)
    (change : BoundedQueue Task (Option ControlFrame) -> BoundedQueue Task (Option ControlFrame)) :
    SessionFrame (state.streams stream)
      (((state.modifyOutgoing stream change).setReader stream phase).streams stream) := by
  simp only [setReader, modifyOutgoing, streams_modifyStream, if_true]
  exact ⟨rfl, rfl, rfl, rfl⟩

/-- Both puts on the outgoing queue leave the reader free of job queues. -/
theorem readerPutCancel_own (stream : Nat) (jobId : String) :
    SessionFrame (state.streams stream) ((state.readerPutCancel stream jobId).streams stream) ∧
      ((state.readerPutCancel stream jobId).streams stream).reader.job? = none := by
  refine ⟨state.sessionFrame_outgoing stream _ _, ?_⟩
  rw [readerPutCancel, streams_setReader_self]
  dsimp only
  split <;> rfl

theorem readerFinish_own (stream : Nat) :
    SessionFrame (state.streams stream) ((state.readerFinish stream).streams stream) ∧
      ((state.readerFinish stream).streams stream).reader.job? = none := by
  refine ⟨state.sessionFrame_outgoing stream _ _, ?_⟩
  rw [readerFinish, streams_setReader_self]
  dsimp only
  split <;> rfl

theorem cancelReader_own (stream : Nat) :
    SessionFrame (state.streams stream) ((state.cancelReader stream).streams stream) ∧
      ((state.cancelReader stream).streams stream).reader.job? = none := by
  unfold cancelReader
  split
  · rename_i reader
    exact ⟨⟨rfl, rfl, rfl, rfl⟩, by rw [reader]; rfl⟩
  · exact state.readerFinish_own stream
  · exact readerFinish_own _ stream
  · exact readerFinish_own _ stream
  · have finished := (state.modifyOutgoing stream (·.withdraw (.reader stream))).readerFinish_own
      stream
    have withdrawn := state.frame_modifyOutgoing stream stream (·.withdraw (.reader stream))
    exact ⟨.trans ⟨withdrawn.phase, withdrawn.first, withdrawn.agentId, withdrawn.capabilities⟩
      finished.1, finished.2⟩
  · refine ⟨state.sessionFrame_outgoing stream _ _, ?_⟩
    rw [streams_setReader_self]
    rfl
  · rename_i reader
    exact ⟨⟨rfl, rfl, rfl, rfl⟩, by rw [reader]; rfl⟩

end State

theorem State.acceptEvent_own {config : GatewayConfig} (state : State) {stream : Nat}
    {jobId : String} {sequence : Nat} {frame : AgentFrame}
    (reading : (state.streams stream).reader = .reading) :
    StreamMove config state stream (.readFrame stream frame)
      ((state.acceptEvent stream jobId sequence frame).streams stream) := by
  unfold State.acceptEvent
  cases registered : state.jobs.lookup jobId with
  | none => exact .framed _ _ (.refl _)
  | some call =>
      dsimp only
      split
      · exact .framed _ _ (.refl _)
      · rename_i agent
        have agent := not_not.mp agent
        split
        · split
          · exact .readerPut frame jobId call _ reading registered agent
              (State.sessionFrame_setReader _ stream _) (by rw [State.streams_setReader_self]; rfl)
          · have put := (state.putJob call (.reader stream) (.failure (state.calls call).job.kind jobId
              (state.calls call).job.nextSequence .streamOrder)).readerPutCancel_own stream jobId
            exact .readerMoved _ _ rfl (by rw [reading]; exact nofun) put.1 put.2
        · split
          · exact .readerPut frame jobId call _ reading registered agent
              (State.sessionFrame_setReader _ stream _) (by rw [State.streams_setReader_self]; rfl)
          · exact .framed _ _ (.refl _)

theorem own_stream_move {config : GatewayConfig} {before after : State} {action : Action}
    {stream : Nat} (own : action.stream? = some stream)
    (stepped : step config before action = some after) :
    StreamMove config before stream action (after.streams stream) := by
  cases action <;> cases own <;> simp only [step] at stepped
  case connect =>
    unfold State.connect at stepped
    split at stepped <;> cases stepped
    rename_i idle
    rw [State.streams_setConnect_self]
    exact .connected idle
  case firstFrame first =>
    unfold State.firstFrame at stepped
    split at stepped
    · rename_i awaiting
      split at stepped <;> cases stepped
      · rw [State.streams_modifyStream, if_pos rfl]
        exact .turnedAway first _ awaiting
      · rename_i hello accepted
        rw [State.streams_modifyStream, if_pos rfl]
        exact .greeted first hello awaiting accepted
    · cases stepped
  case register =>
    unfold State.register at stepped
    split at stepped
    · rename_i ready
      dsimp only at stepped
      split at stepped <;> cases stepped
      · change StreamMove _ _ _ _ ((before.setConnect stream .refusing).streams stream)
        rw [State.streams_setConnect_self]
        exact .duplicate ready.1
      · rename_i fresh
        rw [State.streams_modifyStream, if_pos rfl]
        exact .registered ready.1 fresh
    · cases stepped
  case abortDone =>
    unfold State.abortDone at stepped
    split at stepped <;> cases stepped
    rename_i refusing
    change StreamMove _ _ _ _ ((before.setConnect stream _).streams stream)
    rw [State.streams_setConnect_self]
    exact .aborted _ refusing
  case readFrame frame =>
    unfold State.readFrame at stepped
    split at stepped
    · rename_i reading
      split at stepped <;> cases stepped
      · exact .framed _ _ (.refl _)
      · exact before.acceptEvent_own reading
    · cases stepped
  case readerEnds =>
    unfold State.readerEnds at stepped
    split at stepped <;> cases stepped
    rename_i reading
    have finished := before.readerFinish_own stream
    exact .readerMoved _ _ rfl (by rw [reading]; exact nofun) finished.1 finished.2
  case readerResume =>
    unfold State.readerResume at stepped
    split at stepped
    · rename_i reader
      rcases Option.map_eq_some_iff.mp stepped with ⟨queue, _, result⟩
      cases result
      exact .readerMoved _ _ rfl (by rw [reader]; exact nofun)
        (State.sessionFrame_setReader _ stream _) (by rw [State.streams_setReader_self]; rfl)
    · rename_i call jobId reader
      rcases Option.map_eq_some_iff.mp stepped with ⟨queue, _, result⟩
      cases result
      have put := (before.modifyQueue call fun _ => queue).readerPutCancel_own stream jobId
      exact .readerMoved _ _ rfl (by rw [reader]; exact nofun) put.1 put.2
    · rename_i reader
      rcases Option.map_eq_some_iff.mp stepped with ⟨queue, _, result⟩
      cases result
      exact .readerMoved _ _ rfl (by rw [reader]; exact nofun)
        (before.sessionFrame_outgoing stream _ _) (by rw [State.streams_setReader_self]; rfl)
    · rename_i reader
      rcases Option.map_eq_some_iff.mp stepped with ⟨queue, _, result⟩
      cases result
      exact .readerMoved _ _ rfl (by rw [reader]; exact nofun)
        (before.sessionFrame_outgoing stream _ _) (by rw [State.streams_setReader_self]; rfl)
    · cases stepped
  case yieldControl =>
    unfold State.yieldControl at stepped
    split at stepped
    · rename_i serving
      split at stepped
      · cases stepped
      · cases stepped
        exact .framed _ _ (before.frame_modifyOutgoing stream stream _)
      · rename_i rest _
        cases stepped
        have popped := before.frame_modifyOutgoing stream stream fun _ => rest
        have stopped := (before.modifyOutgoing stream fun _ => rest).cancelReader_own stream
        rw [State.streams_setConnect_self]
        exact .stopped _ _ rfl (.inl ⟨serving, rfl⟩)
          ⟨rfl, stopped.1.first.trans popped.first, stopped.1.agentId.trans popped.agentId,
            stopped.1.capabilities.trans popped.capabilities⟩ stopped.2
    · cases stepped
  case cancelStream =>
    unfold State.cancelStream at stepped
    split at stepped <;> cases stepped
    rename_i serving
    have stopped := before.cancelReader_own stream
    rw [State.streams_setConnect_self]
    exact .stopped _ _ rfl (.inl ⟨serving, rfl⟩)
      ⟨rfl, stopped.1.first, stopped.1.agentId, stopped.1.capabilities⟩ stopped.2
  case closed =>
    unfold State.closed at stepped
    split at stepped <;> cases stepped
    rename_i ready
    rw [State.streams_setConnect_self]
    exact .closed ready.1 ready.2
  case disconnect =>
    unfold State.disconnect at stepped
    split at stepped <;> cases stepped
    rename_i ready
    rw [State.streams_setConnect_self]
    exact .snapshot ready.1
  case failNext =>
    unfold State.failNext at stepped
    split at stepped
    · rename_i phase
      cases stepped
      rw [State.streams_setConnect_self]
      exact .ended _ rfl (.inr (.inl ⟨[], phase⟩))
    · rename_i jobId call remaining phase
      dsimp only at stepped
      split at stepped <;> cases stepped
      · rename_i agent
        rw [State.streams_setConnect_self]
        by_cases waits : before.jobFull call = true
        · rw [if_pos waits]
          exact .failWaits jobId call remaining phase agent
        · rw [if_neg waits]
          exact .failed jobId call remaining phase
      · rw [State.streams_setConnect_self]
        exact .failed jobId call remaining phase
    · cases stepped
  case failResume =>
    unfold State.failResume at stepped
    split at stepped
    · rename_i call remaining phase
      rcases Option.map_eq_some_iff.mp stepped with ⟨queue, _, result⟩
      cases result
      rw [State.streams_setConnect_self]
      exact .failResumed call remaining phase
    · cases stepped
  case cancelCleanup =>
    unfold State.cancelCleanup at stepped
    split at stepped
    · rename_i closing
      cases stepped
      have stopped := before.cancelReader_own stream
      rw [State.streams_setConnect_self]
      exact .stopped _ _ rfl (.inr ⟨closing, rfl⟩)
        ⟨rfl, stopped.1.first, stopped.1.agentId, stopped.1.capabilities⟩ stopped.2
    · rename_i phase
      cases stepped
      rw [State.streams_setConnect_self]
      exact .ended _ rfl (.inl phase)
    · rename_i remaining phase
      cases stepped
      rw [State.streams_setConnect_self]
      exact .ended _ rfl (.inr (.inl ⟨remaining, phase⟩))
    · rename_i call remaining phase
      cases stepped
      rw [State.streams_setConnect_self]
      exact .ended _ rfl (.inr (.inr ⟨(call, remaining), phase⟩))
    · cases stepped

/-- Every step treats the record of a stream in one of the listed ways. -/
theorem step_stream_move {config : GatewayConfig} {before after : State} {action : Action}
    (stepped : step config before action = some after) (stream : Nat) :
    StreamMove config before stream action (after.streams stream) := by
  by_cases own : action.stream? = some stream
  · exact own_stream_move own stepped
  · refine .framed _ _ ?_
    by_cases foreign : action.stream? = none
    · exact frame_of_call_step foreign stepped stream
    · rcases Option.ne_none_iff_exists'.mp foreign with ⟨actor, actorEq⟩
      have different : stream ≠ actor := fun same => own (same ▸ actorEq)
      rw [streams_of_stream_step actorEq different stepped]
      exact .refl _

/-! ## Dictionaries -/

/-- What a step can do to `_sessions` and `_jobs`. -/
inductive DictMove (config : GatewayConfig) (before : State) :
    Action -> AList (fun _ : String => Nat) -> AList (fun _ : String => Nat) -> Prop
  | same (action : Action) : DictMove config before action before.sessions before.jobs
  | registered (stream : Nat) (registering : (before.streams stream).phase = .registering)
      (fresh : (before.streams stream).session.agentId ∉ before.sessions) :
      DictMove config before (.register stream)
        (before.sessions.insert (before.streams stream).session.agentId stream) before.jobs
  | unregistered (stream : Nat) (phase : (before.streams stream).phase = .disconnecting)
      (own : before.sessions.lookup (before.streams stream).session.agentId = some stream) :
      DictMove config before (.disconnect stream)
        (before.sessions.erase (before.streams stream).session.agentId) before.jobs
  | opened (action : Action) (call : Nat) (agentId jobId : String) (reuse : Bool) (stream : Nat)
      (idle : (before.calls call).phase = .idle)
      (accepted : before.openJob config agentId jobId reuse = .ok stream)
      (opens : action.opens? = some (call, agentId, jobId)) :
      DictMove config before action before.sessions (before.jobs.insert jobId call)
  | removed (action : Action) (call : Nat)
      (phase : (before.calls call).phase = .dropping ∨
        Exists fun exhausted : Bool => (before.calls call).phase = .closing exhausted)
      (actor : action = .dropUnsupported call ∨ action = .finalise call) :
      DictMove config before action before.sessions (before.jobs.erase (before.calls call).jobId)

theorem State.dict_cancelReader (state : State) (stream : Nat) :
    (state.cancelReader stream).sessions = state.sessions ∧
      (state.cancelReader stream).jobs = state.jobs := by
  unfold State.cancelReader
  split <;> exact ⟨rfl, rfl⟩

theorem State.dict_acceptEvent (state : State) (stream : Nat) (jobId : String) (sequence : Nat)
    (frame : AgentFrame) :
    (state.acceptEvent stream jobId sequence frame).sessions = state.sessions ∧
      (state.acceptEvent stream jobId sequence frame).jobs = state.jobs := by
  unfold State.acceptEvent
  cases state.jobs.lookup jobId with
  | none => exact ⟨rfl, rfl⟩
  | some call =>
      dsimp only
      split
      · exact ⟨rfl, rfl⟩
      · split <;> split <;> exact ⟨rfl, rfl⟩

theorem State.dict_rememberCompleted (state : State) (config : GatewayConfig) (jobId : String) :
    (state.rememberCompleted config jobId).sessions = state.sessions ∧
      (state.rememberCompleted config jobId).jobs = state.jobs := by
  unfold State.rememberCompleted
  split <;> exact ⟨rfl, rfl⟩

theorem DictMove.of_eq {config : GatewayConfig} {before : State} {action : Action}
    {sessions jobs : AList (fun _ : String => Nat)}
    (same : sessions = before.sessions ∧ jobs = before.jobs) :
    DictMove config before action sessions jobs := by
  rw [same.1, same.2]
  exact .same action

/-- Every step changes the two dictionaries in one of the listed ways. -/
theorem step_dict_move {config : GatewayConfig} {before after : State} {action : Action}
    (stepped : step config before action = some after) :
    DictMove config before action after.sessions after.jobs := by
  cases action <;> simp only [step] at stepped
  case connect =>
    unfold State.connect at stepped
    split at stepped <;> cases stepped
    exact .same _
  case firstFrame =>
    unfold State.firstFrame at stepped
    split at stepped
    · split at stepped <;> cases stepped <;> exact .same _
    · cases stepped
  case register stream =>
    unfold State.register at stepped
    split at stepped
    · rename_i ready
      dsimp only at stepped
      split at stepped <;> cases stepped
      · exact .same _
      · rename_i fresh
        exact .registered stream ready.1 fresh
    · cases stepped
  case abortDone =>
    unfold State.abortDone at stepped
    split at stepped <;> cases stepped
    exact .same _
  case readFrame stream frame =>
    unfold State.readFrame at stepped
    split at stepped
    · split at stepped <;> cases stepped
      · exact .same _
      · exact .of_eq (before.dict_acceptEvent stream _ _ frame)
    · cases stepped
  case readerEnds =>
    unfold State.readerEnds at stepped
    split at stepped <;> cases stepped
    exact .same _
  case readerResume =>
    unfold State.readerResume at stepped
    split at stepped
    · rcases Option.map_eq_some_iff.mp stepped with ⟨queue, _, result⟩
      cases result
      exact .same _
    · rcases Option.map_eq_some_iff.mp stepped with ⟨queue, _, result⟩
      cases result
      exact .same _
    · rcases Option.map_eq_some_iff.mp stepped with ⟨queue, _, result⟩
      cases result
      exact .same _
    · rcases Option.map_eq_some_iff.mp stepped with ⟨queue, _, result⟩
      cases result
      exact .same _
    · cases stepped
  case yieldControl stream =>
    unfold State.yieldControl at stepped
    split at stepped
    · split at stepped <;> cases stepped
      · exact .same _
      · exact .of_eq (State.dict_cancelReader _ stream)
    · cases stepped
  case cancelStream stream =>
    unfold State.cancelStream at stepped
    split at stepped <;> cases stepped
    exact .of_eq (before.dict_cancelReader stream)
  case closed =>
    unfold State.closed at stepped
    split at stepped <;> cases stepped
    exact .same _
  case disconnect stream =>
    unfold State.disconnect at stepped
    split at stepped <;> cases stepped
    rename_i ready
    by_cases own : before.sessions.lookup (before.streams stream).session.agentId = some stream
    · simp only [if_pos own]
      exact .unregistered stream ready.1 own
    · simp only [if_neg own]
      exact .same _
  case failNext =>
    unfold State.failNext at stepped
    split at stepped
    · cases stepped
      exact .same _
    · dsimp only at stepped
      split at stepped <;> cases stepped <;> exact .same _
    · cases stepped
  case failResume =>
    unfold State.failResume at stepped
    split at stepped
    · rcases Option.map_eq_some_iff.mp stepped with ⟨queue, _, result⟩
      cases result
      exact .same _
    · cases stepped
  case cancelCleanup stream =>
    unfold State.cancelCleanup at stepped
    split at stepped <;> cases stepped
    · exact .of_eq (before.dict_cancelReader stream)
    · exact .same _
    · exact .same _
    · exact .same _
  case openDiagnostics call agentId jobId releaseRoot =>
    unfold State.openDiagnostics at stepped
    split at stepped
    · rename_i ready
      split at stepped
      · cases stepped
        exact .same _
      · split at stepped <;> cases stepped
        · exact .same _
        · rename_i stream accepted
          exact .opened _ call agentId jobId false stream ready.1 accepted rfl
    · cases stepped
  case openKubernetes call agentId request =>
    unfold State.openKubernetes at stepped
    split at stepped
    · rename_i ready
      split at stepped
      · cases stepped
        exact .same _
      · rename_i stream accepted
        dsimp only at stepped
        split at stepped <;> cases stepped <;>
          exact .opened _ call agentId request.jobId true stream ready.1 accepted rfl
    · cases stepped
  case dropUnsupported call =>
    unfold State.dropUnsupported at stepped
    split at stepped <;> cases stepped
    rename_i ready
    exact .removed _ call (.inl ready.1) (.inl rfl)
  case requestResume =>
    unfold State.requestResume at stepped
    split at stepped
    · rcases Option.map_eq_some_iff.mp stepped with ⟨queue, _, result⟩
      cases result
      exact .same _
    · cases stepped
  case deliver =>
    unfold State.deliver at stepped
    split at stepped
    · rcases Option.map_eq_some_iff.mp stepped with ⟨taken, _, result⟩
      cases result
      exact .same _
    · cases stepped
  case advance =>
    unfold State.advance at stepped
    split at stepped <;> cases stepped
    exact .same _
  case abandon =>
    unfold State.abandon at stepped
    split at stepped <;> cases stepped <;> exact .same _
  case finalise call =>
    unfold State.finalise at stepped
    split at stepped
    · rename_i exhausted phase
      split at stepped <;> cases stepped
      have kept := State.dict_rememberCompleted
        { before with jobs := before.jobs.erase (before.calls call).jobId } config
        (before.calls call).jobId
      change DictMove config before _ (State.rememberCompleted _ _ _).sessions
        (State.rememberCompleted _ _ _).jobs
      rw [kept.1, kept.2]
      exact .removed _ call (.inr ⟨exhausted, phase⟩) (.inr rfl)
    · cases stepped
  case cancel =>
    unfold State.cancel at stepped
    split at stepped
    · split at stepped
      · cases stepped
        exact .same _
      · dsimp only at stepped
        split at stepped
        · cases stepped
          exact .same _
        · split at stepped <;> cases stepped <;> exact .same _
    · cases stepped
  case cancelResume =>
    unfold State.cancelResume at stepped
    split at stepped
    · rcases Option.map_eq_some_iff.mp stepped with ⟨queue, _, result⟩
      cases result
      exact .same _
    · cases stepped
  case cancelAbandon =>
    unfold State.cancelAbandon at stepped
    split at stepped <;> cases stepped
    exact .same _

/-! ### What is stored after a step -/

section Lookups

variable {config : GatewayConfig} {before after : State} {action : Action}

/-- A job that is registered after a step was before, or the step opens it on a
stored session. -/
theorem lookup_job_step (stepped : step config before action = some after) {jobId : String}
    {call : Nat} (found : after.jobs.lookup jobId = some call) :
    before.jobs.lookup jobId = some call ∨
      after.sessions = before.sessions ∧ (before.calls call).phase = .idle ∧
        Exists fun agentId : String => Exists fun reuse : Bool => Exists fun stream : Nat =>
          before.openJob config agentId jobId reuse = .ok stream ∧
            action.opens? = some (call, agentId, jobId) := by
  have move := step_dict_move stepped
  generalize after.jobs = jobs at found move
  generalize after.sessions = sessions at move ⊢
  cases move with
  | same => exact .inl found
  | registered => exact .inl found
  | unregistered => exact .inl found
  | opened _ opener agentId opened reuse stream idle accepted opens =>
      by_cases named : jobId = opened
      · subst named
        rw [AList.lookup_insert] at found
        cases found
        exact .inr ⟨rfl, idle, agentId, reuse, stream, accepted, opens⟩
      · rw [AList.lookup_insert_ne named] at found
        exact .inl found
  | removed _ remover =>
      by_cases named : jobId = (before.calls remover).jobId
      · rw [named, AList.lookup_erase] at found
        cases found
      · rw [AList.lookup_erase_ne named] at found
        exact .inl found

/-- A session that is stored after a step was before, or the step stores it. -/
theorem lookup_session_step (stepped : step config before action = some after) {agentId : String}
    {stream : Nat} (found : after.sessions.lookup agentId = some stream) :
    before.sessions.lookup agentId = some stream ∨
      action = .register stream ∧ (before.streams stream).phase = .registering ∧
        (before.streams stream).session.agentId = agentId ∧ agentId ∉ before.sessions := by
  have move := step_dict_move stepped
  generalize after.sessions = sessions at found move
  generalize after.jobs = jobs at move
  cases move with
  | same => exact .inl found
  | registered own registering fresh =>
      by_cases named : agentId = (before.streams own).session.agentId
      · subst named
        rw [AList.lookup_insert] at found
        cases found
        exact .inr ⟨rfl, registering, rfl, fresh⟩
      · rw [AList.lookup_insert_ne named] at found
        exact .inl found
  | unregistered own =>
      by_cases named : agentId = (before.streams own).session.agentId
      · rw [named, AList.lookup_erase] at found
        cases found
      · rw [AList.lookup_erase_ne named] at found
        exact .inl found
  | opened => exact .inl found
  | removed => exact .inl found

/-- A stored session stays until its own stream disconnects. -/
theorem lookup_session_kept (stepped : step config before action = some after) {agentId : String}
    {stream : Nat} (stored : before.sessions.lookup agentId = some stream)
    (still : action ≠ .disconnect stream) : after.sessions.lookup agentId = some stream := by
  have move := step_dict_move stepped
  generalize after.sessions = sessions at move ⊢
  generalize after.jobs = jobs at move
  cases move with
  | same => exact stored
  | registered other _ fresh =>
      have different : agentId ≠ (before.streams other).session.agentId := by
        intro same
        rw [← same, ← AList.lookup_eq_none, stored] at fresh
        cases fresh
      rw [AList.lookup_insert_ne different]
      exact stored
  | unregistered other _ own =>
      have different : agentId ≠ (before.streams other).session.agentId := by
        intro same
        rw [← same, stored] at own
        cases own
        exact still rfl
      rw [AList.lookup_erase_ne different]
      exact stored
  | opened => exact stored
  | removed => exact stored

end Lookups

end Gateway
end DjangoOps
