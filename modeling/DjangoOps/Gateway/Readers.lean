import DjangoOps.Gateway.Outgoing

namespace DjangoOps
namespace Gateway

open Protocol

/-!
# Who reads the frames of an agent

A session reader is at work only while its `Connect` call serves, and then the
session is the one that is stored under the agent id.  So the frames of an
agent are read from one stream at a time.
-/

/-- The reader has not begun its `finally` clause. -/
def ReaderPhase.running : ReaderPhase -> Bool
  | .reading => true
  | .putEvent _ => true
  | .putFailure _ _ => true
  | .putCancel => true
  | _ => false

/-- A reader at work belongs to a `Connect` call that serves. -/
def State.ReadersServe (state : State) : Prop :=
  forall stream, (state.streams stream).reader.running = true ->
    (state.streams stream).phase = .serving

namespace State

variable (state : State)

theorem reader_readerFinish (stream : Nat) :
    ((state.readerFinish stream).streams stream).reader.running = false := by
  rw [readerFinish, streams_setReader_self]
  dsimp only
  split <;> rfl

theorem reader_cancelReader (stream : Nat) :
    ((state.cancelReader stream).streams stream).reader.running = false := by
  unfold cancelReader
  split
  · rename_i absent
    rw [absent]
    rfl
  · exact state.reader_readerFinish stream
  · exact reader_readerFinish _ stream
  · exact reader_readerFinish _ stream
  · exact reader_readerFinish _ stream
  · rw [streams_setReader_self]
    rfl
  · rename_i done
    rw [done]
    rfl

end State

section Steps

variable {config : GatewayConfig} {before after : State} {action : Action} {stream : Nat}

/-- The own steps of a stream. -/
theorem State.ReadersServe.own_step (serve : before.ReadersServe)
    (own : action.stream? = some stream) (stepped : step config before action = some after)
    (running : (after.streams stream).reader.running = true) :
    (after.streams stream).phase = .serving := by
  have kept := serve stream
  have early : forall {phase : ConnectPhase} {goal : Prop},
      (before.streams stream).phase = phase -> phase ≠ .serving ->
      (before.streams stream).reader.running = true -> goal := by
    intro phase goal here other busy
    exact absurd (here.symm.trans (kept busy)) other
  cases action <;> cases own <;> simp only [step] at stepped
  case connect =>
    unfold State.connect at stepped
    split at stepped <;> cases stepped
    rename_i idle
    rw [State.streams_setConnect_self] at running
    exact early idle (by simp) running
  case firstFrame =>
    unfold State.firstFrame at stepped
    split at stepped
    · rename_i awaiting
      split at stepped <;> cases stepped <;>
        rw [State.streams_modifyStream, if_pos rfl] at running <;>
        exact early awaiting (by simp) running
    · cases stepped
  case register =>
    unfold State.register at stepped
    split at stepped
    · rename_i ready
      dsimp only at stepped
      split at stepped <;> cases stepped
      · change ((before.setConnect stream .refusing).streams stream).reader.running = true at running
        rw [State.streams_setConnect_self] at running
        exact early ready.1 (by simp) running
      · rw [State.streams_modifyStream, if_pos rfl]
    · cases stepped
  case abortDone =>
    unfold State.abortDone at stepped
    split at stepped <;> cases stepped
    rename_i refusing
    change ((before.setConnect stream _).streams stream).reader.running = true at running
    rw [State.streams_setConnect_self] at running
    exact early refusing (by simp) running
  case readFrame =>
    unfold State.readFrame at stepped
    split at stepped
    · rename_i reading
      have serving := kept (by rw [reading]; rfl)
      split at stepped <;> cases stepped
      · exact serving
      · rw [State.phase_acceptEvent]
        exact serving
    · cases stepped
  case readerEnds =>
    unfold State.readerEnds at stepped
    split at stepped <;> cases stepped
    rw [State.reader_readerFinish] at running
    cases running
  case readerResume =>
    unfold State.readerResume at stepped
    split at stepped
    · rename_i reader
      have serving := kept (by rw [reader]; rfl)
      rcases Option.map_eq_some_iff.mp stepped with ⟨queue, _, result⟩
      cases result
      exact (State.sessionFrame_setReader _ stream _).phase.trans serving
    · rename_i call jobId reader
      have serving := kept (by rw [reader]; rfl)
      rcases Option.map_eq_some_iff.mp stepped with ⟨queue, _, result⟩
      cases result
      exact ((before.modifyQueue call fun _ => queue).readerPutCancel_own stream
        jobId).1.phase.trans serving
    · rename_i reader
      have serving := kept (by rw [reader]; rfl)
      rcases Option.map_eq_some_iff.mp stepped with ⟨queue, _, result⟩
      cases result
      exact (before.sessionFrame_outgoing stream _ _).phase.trans serving
    · rcases Option.map_eq_some_iff.mp stepped with ⟨queue, _, result⟩
      cases result
      rw [State.streams_setReader_self] at running
      cases running
    · cases stepped
  case yieldControl =>
    unfold State.yieldControl at stepped
    split at stepped
    · rename_i serving
      split at stepped
      · cases stepped
      · cases stepped
        exact (before.frame_modifyOutgoing stream stream _).phase.trans serving
      · cases stepped
        rw [State.streams_setConnect_self] at running
        cases (State.reader_cancelReader _ stream).symm.trans running
    · cases stepped
  case cancelStream =>
    unfold State.cancelStream at stepped
    split at stepped <;> cases stepped
    rw [State.streams_setConnect_self] at running
    cases (State.reader_cancelReader _ stream).symm.trans running
  case closed =>
    unfold State.closed at stepped
    split at stepped <;> cases stepped
    rename_i ready
    rw [State.streams_setConnect_self] at running
    exact early ready.1 (by simp) running
  case disconnect =>
    unfold State.disconnect at stepped
    split at stepped <;> cases stepped
    rename_i ready
    rw [State.streams_setConnect_self] at running
    exact early ready.1 (by simp) running
  case failNext =>
    unfold State.failNext at stepped
    split at stepped
    · rename_i failing
      cases stepped
      rw [State.streams_setConnect_self] at running
      exact early failing (by simp) running
    · rename_i failing
      dsimp only at stepped
      split at stepped <;> cases stepped <;> rw [State.streams_setConnect_self] at running <;>
        exact early failing (by simp) running
    · cases stepped
  case failResume =>
    unfold State.failResume at stepped
    split at stepped
    · rename_i waiting
      rcases Option.map_eq_some_iff.mp stepped with ⟨queue, _, result⟩
      cases result
      rw [State.streams_setConnect_self] at running
      exact early waiting (by simp) running
    · cases stepped
  case cancelCleanup =>
    unfold State.cancelCleanup at stepped
    split at stepped
    · cases stepped
      rw [State.streams_setConnect_self] at running
      cases (State.reader_cancelReader _ stream).symm.trans running
    · rename_i phase
      cases stepped
      rw [State.streams_setConnect_self] at running
      exact early phase (by simp) running
    · rename_i phase
      cases stepped
      rw [State.streams_setConnect_self] at running
      exact early phase (by simp) running
    · rename_i phase
      cases stepped
      rw [State.streams_setConnect_self] at running
      exact early phase (by simp) running
    · cases stepped

theorem State.ReadersServe.step (serve : before.ReadersServe)
    (stepped : step config before action = some after) : after.ReadersServe := by
  intro stream running
  by_cases own : action.stream? = some stream
  · exact serve.own_step own stepped running
  · cases actor : action.stream? with
    | none =>
        have frame := frame_of_call_step actor stepped stream
        rw [frame.reader] at running
        rw [frame.phase]
        exact serve stream running
    | some other =>
        have different : stream ≠ other := by
          rintro rfl
          exact own actor
        rw [streams_of_stream_step actor different stepped] at running ⊢
        exact serve stream running

theorem readersServe_of_reachable {state : State} (reached : (machine config).Reachable state) :
    state.ReadersServe := by
  refine reached.invariant ?_ ?_
  · rintro start ⟨⟩ stream running
    cases running
  · intro before action after _ serve _ stepped
    exact State.ReadersServe.step serve stepped

/-- Two readers at work for one agent are one. -/
theorem State.ReadersServe.unique {state : State} (serve : state.ReadersServe)
    (invariant : Invariant config state) {left right : Nat}
    (leftRunning : (state.streams left).reader.running = true)
    (rightServing : (state.streams right).phase = .serving)
    (same : (state.streams left).session.agentId = (state.streams right).session.agentId) :
    left = right := by
  have leftLive := invariant.live left (by rw [serve left leftRunning]; rfl)
  have rightLive := invariant.live right (by rw [rightServing]; rfl)
  rw [same, rightLive] at leftLive
  exact (Option.some.inj leftLive).symm

/-! ## The expected number of a job -/

/-- The expected number of an open job is moved by frames of a reader of its agent. -/
theorem nextSequence_of_step (stepped : step config before action = some after) {call : Nat}
    (busy : (before.calls call).phase ≠ .idle) :
    (after.calls call).job.nextSequence = (before.calls call).job.nextSequence ∨
      Exists fun read : Nat × AgentFrame => action = .readFrame read.1 read.2 ∧
        (before.streams read.1).reader = .reading ∧
        (before.calls call).job.agentId = (before.streams read.1).session.agentId := by
  have move := step_call_move stepped call
  generalize after.calls call = record at move ⊢
  cases move with
  | opened _ _ _ _ _ _ idle => exact absurd idle busy
  | accepted stream _ frame reading _ _ agent =>
      exact .inr ⟨(stream, frame), rfl, reading, agent⟩
  | _ => exact .inl rfl

/-! ## What waits on the outgoing queue -/

/-- An operation puts nothing more of a kind that it never puts. -/
theorem OutgoingMove.count {queue result : BoundedQueue Task (Option ControlFrame)}
    (move : OutgoingMove before action stream queue result)
    {test : Option ControlFrame -> Bool}
    (never : forall task frame, OutgoingPut before action stream task frame ->
      test frame = false) :
    result.pending.countP test ≤ queue.pending.countP test := by
  cases move with
  | put task frame source =>
      rw [BoundedQueue.countP_pending_put, never task frame source]
      exact Nat.le_refl _
  | resumed _ _ resume => exact BoundedQueue.countP_pending_resume resume test
  | withdrawn => exact queue.countP_pending_withdraw test
  | taken _ frame get =>
      rw [BoundedQueue.pending_get get, List.countP_cons]
      exact Nat.le_add_right _ _
  | renewed => exact Nat.zero_le _

theorem count_of_step (stepped : step config before action = some after)
    {test : Option ControlFrame -> Bool}
    (never : forall task frame, OutgoingPut before action stream task frame ->
      test frame = false) :
    (after.outgoing stream).pending.countP test ≤ (before.outgoing stream).pending.countP test := by
  have moves := step_outgoing_moves stepped stream
  generalize after.outgoing stream = result at moves ⊢
  induction moves with
  | refl => exact Nat.le_refl _
  | tail _ last inductionHypothesis => exact Nat.le_trans (last.count never) inductionHypothesis

/-- The decision of `_open_job` for an action that opens a job.  The path of a
diagnostics request is checked before. -/
def State.opensOn? (config : GatewayConfig) (state : State) : Action -> Option (String × Nat)
  | .openDiagnostics _ agentId jobId releaseRoot =>
      match State.validateReleaseRoot releaseRoot, state.openJob config agentId jobId false with
      | none, .ok stream => some (jobId, stream)
      | _, _ => none
  | .openKubernetes _ agentId request =>
      match state.openJob config agentId request.jobId true with
      | .ok stream => some (request.jobId, stream)
      | .error _ => none
  | _ => none

/-- What an operation that opens a job does to the job and to the outgoing queue
of the session of its agent. -/
structure Opening (before after : State) (call target : Nat) (agentId jobId : String) : Prop where
  connected : before.sessions.lookup agentId = some target
  jobs : after.jobs = before.jobs.insert jobId call
  first : (after.calls call).job.nextSequence = 1
  agent : (after.calls call).job.agentId = agentId
  others : forall other, other ≠ target -> after.outgoing other = before.outgoing other
  put : after.outgoing target = before.outgoing target ∨
    Exists fun frame : ControlFrame => frame.request?.map Request.jobId = some jobId ∧
      after.outgoing target =
        (before.outgoing target).put maxOutgoingFrames (.call call) (some frame)

theorem opening_of_put {call target : Nat} {agentId jobId : String} {kind : JobKind}
    {frame : ControlFrame} (connected : before.sessions.lookup agentId = some target)
    (asks : frame.request?.map Request.jobId = some jobId) :
    Opening before ((before.addJob call agentId jobId kind).putRequest call target frame)
      call target agentId jobId where
  connected := connected
  jobs := rfl
  first := by
    rw [State.putRequest, State.calls_setCall_self]
    change ((before.addJob call agentId jobId kind).calls call).job.nextSequence = 1
    rw [State.addJob, State.calls_modifyCall, if_pos rfl]
    rfl
  agent := by
    rw [State.putRequest, State.calls_setCall_self]
    change ((before.addJob call agentId jobId kind).calls call).job.agentId = agentId
    rw [State.addJob, State.calls_modifyCall, if_pos rfl]
    rfl
  others := fun _ different => State.outgoing_modifyOutgoing_ne _ different _
  put := .inr ⟨frame, asks, State.outgoing_modifyOutgoing _ _ _⟩

theorem opening_of_drop {call target : Nat} {agentId jobId : String} {kind : JobKind}
    (connected : before.sessions.lookup agentId = some target) :
    Opening before ((before.addJob call agentId jobId kind).setCall call .dropping)
      call target agentId jobId where
  connected := connected
  jobs := rfl
  first := by
    rw [State.calls_setCall_self, State.addJob, State.calls_modifyCall, if_pos rfl]
    rfl
  agent := by
    rw [State.calls_setCall_self, State.addJob, State.calls_modifyCall, if_pos rfl]
    rfl
  others := fun _ _ => rfl
  put := .inl rfl

/-- An operation is refused, or opens its job. -/
theorem opening_of_opens (stepped : step config before action = some after) {call : Nat}
    {agentId jobId : String} (opens : action.opens? = some (call, agentId, jobId)) :
    (after.jobs = before.jobs ∧ forall other, after.outgoing other = before.outgoing other) ∨
      Exists fun target : Nat => before.opensOn? config action = some (jobId, target) ∧
        Opening before after call target agentId jobId := by
  cases action <;> cases opens <;> simp only [step] at stepped
  case openDiagnostics releaseRoot =>
    unfold State.openDiagnostics at stepped
    split at stepped
    · split at stepped
      · cases stepped
        exact .inl ⟨rfl, fun _ => rfl⟩
      · rename_i valid
        split at stepped
        · cases stepped
          exact .inl ⟨rfl, fun _ => rfl⟩
        · rename_i target accepted
          cases stepped
          refine .inr ⟨target, ?_, opening_of_put (before.lookup_of_openJob accepted) rfl⟩
          simp only [State.opensOn?, valid, accepted]
    · cases stepped
  case openKubernetes request =>
    unfold State.openKubernetes at stepped
    split at stepped
    · split at stepped
      · cases stepped
        exact .inl ⟨rfl, fun _ => rfl⟩
      · rename_i target accepted
        have decided : before.opensOn? config (.openKubernetes call agentId request) =
            some (request.jobId, target) := by
          simp only [State.opensOn?, accepted]
        have connected := before.lookup_of_openJob accepted
        dsimp only at stepped
        split at stepped <;> cases stepped
        · exact .inr ⟨target, decided, opening_of_put connected rfl⟩
        · exact .inr ⟨target, decided, opening_of_drop connected⟩
    · cases stepped

/-- Nobody but an operation registers a job. -/
theorem lookup_of_silent (stepped : step config before action = some after)
    (silent : action.opens? = none) {jobId : String} {call : Nat}
    (found : after.jobs.lookup jobId = some call) : before.jobs.lookup jobId = some call := by
  rcases lookup_job_step stepped found with stored | ⟨_, _, _, _, _, _, opens⟩
  · exact stored
  · rw [silent] at opens
    cases opens

/-! ## A stream that nobody ends -/

/-- The actions that move neither end of a stream.  A reader that ends and a
`Connect` that is cancelled would end it. -/
def Action.besides (stream : Nat) : Action -> Bool
  | .readFrame other _ => decide (other ≠ stream)
  | .readerEnds other => decide (other ≠ stream)
  | .yieldControl other => decide (other ≠ stream)
  | .cancelStream other => decide (other ≠ stream)
  | _ => true

/-- The stream is not served yet, or it is served and its reader has found
nothing out of order. -/
def State.Calm (state : State) (stream : Nat) : Prop :=
  ((state.streams stream).phase.served = false ∧ (state.streams stream).reader = .absent) ∨
    ((state.streams stream).phase = .serving ∧
      ((state.streams stream).reader = .reading ∨
        Exists fun call : Nat => (state.streams stream).reader = .putEvent call))

theorem State.Calm.own_step (calm : before.Calm stream) (own : action.stream? = some stream)
    (stays : action.besides stream = true) (stepped : step config before action = some after) :
    after.Calm stream ∧ forall frame, some frame ∈ (after.outgoing stream).pending ->
      some frame ∈ (before.outgoing stream).pending := by
  have early : forall {phase : ConnectPhase} {goal : Prop},
      (before.streams stream).phase = phase -> phase ≠ .serving -> phase.served = true -> goal := by
    intro phase goal here other served
    rcases calm with ⟨unserved, _⟩ | ⟨serving, _⟩
    · rw [here, served] at unserved
      cases unserved
    · exact absurd (here.symm.trans serving) other
  have unread : forall {phase : ConnectPhase}, (before.streams stream).phase = phase ->
      phase ≠ .serving -> (before.streams stream).reader = .absent := by
    intro phase here other
    rcases calm with ⟨_, absent⟩ | ⟨serving, _⟩
    · exact absent
    · exact absurd (here.symm.trans serving) other
  cases action <;> cases own <;> simp only [step] at stepped
  case connect =>
    unfold State.connect at stepped
    split at stepped <;> cases stepped
    rename_i idle
    refine ⟨.inl ?_, fun _ listed => ?_⟩
    · rw [State.streams_setConnect_self]
      exact ⟨rfl, unread idle (by simp)⟩
    · rw [State.outgoing_setConnect] at listed
      exact listed
  case firstFrame =>
    unfold State.firstFrame at stepped
    split at stepped
    · rename_i awaiting
      have absent := unread awaiting (by simp)
      split at stepped <;> cases stepped
      · refine ⟨.inl ?_, fun _ listed => ?_⟩
        · rw [State.streams_modifyStream, if_pos rfl]
          exact ⟨rfl, absent⟩
        · rw [State.outgoing_modifyStream] at listed
          exact listed
      · refine ⟨.inl ?_, fun _ listed => ?_⟩
        · rw [State.streams_modifyStream, if_pos rfl]
          exact ⟨rfl, absent⟩
        · rw [State.outgoing_modifyStream] at listed
          cases listed
    · cases stepped
  case register =>
    unfold State.register at stepped
    split at stepped
    · rename_i ready
      dsimp only at stepped
      split at stepped <;> cases stepped
      · refine ⟨.inl ?_, fun _ listed => ?_⟩
        · change ((before.setConnect stream .refusing).streams stream).phase.served = false ∧
            ((before.setConnect stream .refusing).streams stream).reader = .absent
          rw [State.streams_setConnect_self]
          exact ⟨rfl, unread ready.1 (by simp)⟩
        · change some _ ∈ ((before.setConnect stream .refusing).outgoing stream).pending at listed
          rw [State.outgoing_setConnect] at listed
          exact listed
      · refine ⟨.inr ?_, fun _ listed => ?_⟩
        · rw [State.streams_modifyStream, if_pos rfl]
          exact ⟨rfl, .inl rfl⟩
        · rw [State.outgoing_modifyStream] at listed
          exact listed
    · cases stepped
  case abortDone =>
    unfold State.abortDone at stepped
    split at stepped <;> cases stepped
    rename_i refusing
    refine ⟨.inl ?_, fun _ listed => ?_⟩
    · change ((before.setConnect stream _).streams stream).phase.served = false ∧
        ((before.setConnect stream _).streams stream).reader = .absent
      rw [State.streams_setConnect_self]
      exact ⟨rfl, unread refusing (by simp)⟩
    · change some _ ∈ ((before.setConnect stream _).outgoing stream).pending at listed
      rw [State.outgoing_setConnect] at listed
      exact listed
  case readFrame => simp [Action.besides] at stays
  case readerEnds => simp [Action.besides] at stays
  case yieldControl => simp [Action.besides] at stays
  case cancelStream => simp [Action.besides] at stays
  case readerResume =>
    unfold State.readerResume at stepped
    split at stepped
    · rename_i call reader
      rcases Option.map_eq_some_iff.mp stepped with ⟨queue, _, result⟩
      cases result
      rcases calm with ⟨_, absent⟩ | ⟨serving, _⟩
      · cases absent.symm.trans reader
      · refine ⟨.inr ⟨?_, .inl ?_⟩, fun _ listed => ?_⟩
        · exact (State.sessionFrame_setReader _ stream _).phase.trans serving
        · rw [State.streams_setReader_self]
        · rw [State.outgoing_setReader] at listed
          exact listed
    all_goals
      rename_i reader
      rcases calm with ⟨_, absent⟩ | ⟨_, reading | ⟨call, waiting⟩⟩
      · first | cases absent.symm.trans reader | cases stepped
      · first | cases reading.symm.trans reader | cases stepped
      · first | cases waiting.symm.trans reader | cases stepped
  case closed =>
    unfold State.closed at stepped
    split at stepped
    · rename_i ready
      exact early ready.1 (by simp) rfl
    · cases stepped
  case disconnect =>
    unfold State.disconnect at stepped
    split at stepped
    · rename_i ready
      exact early ready.1 (by simp) rfl
    · cases stepped
  case failNext =>
    unfold State.failNext at stepped
    split at stepped
    · rename_i failing
      exact early failing (by simp) rfl
    · rename_i failing
      exact early failing (by simp) rfl
    · cases stepped
  case failResume =>
    unfold State.failResume at stepped
    split at stepped
    · rename_i waiting
      exact early waiting (by simp) rfl
    · cases stepped
  case cancelCleanup =>
    unfold State.cancelCleanup at stepped
    split at stepped
    all_goals
      first
        | cases stepped; done
        | rename_i phase
          exact early phase (by simp) rfl

/-- The other steps leave what makes a stream calm. -/
theorem State.Calm.foreign_step (calm : before.Calm stream)
    (foreign : action.stream? ≠ some stream) (stepped : step config before action = some after) :
    after.Calm stream := by
  have frame : (after.streams stream).phase = (before.streams stream).phase ∧
      (after.streams stream).reader = (before.streams stream).reader := by
    cases actor : action.stream? with
    | none =>
        have frame := frame_of_call_step actor stepped stream
        exact ⟨frame.phase, frame.reader⟩
    | some other =>
        rw [streams_of_stream_step actor (by rintro rfl; exact foreign actor) stepped]
        exact ⟨rfl, rfl⟩
  unfold State.Calm
  rw [frame.1, frame.2]
  exact calm

/-- A cancellation that waits to be sent waited before, or was asked for, or is
put by the reader of the stream. -/
theorem cancel_of_foreign_step (foreign : action.stream? ≠ some stream)
    (stepped : step config before action = some after) {jobId : String}
    (listed : some (.cancel jobId) ∈ (after.outgoing stream).pending) :
    some (.cancel jobId) ∈ (before.outgoing stream).pending ∨
      Exists fun request : Nat => action = .cancel request jobId := by
  have moves := step_outgoing_moves stepped stream
  generalize after.outgoing stream = result at moves listed
  induction moves with
  | refl => exact .inl listed
  | tail _ last inductionHypothesis =>
      cases last with
      | put task frame source =>
          rcases (BoundedQueue.mem_pending_put _ _ _ _ _).mp listed with earlier | same
          · exact inductionHypothesis earlier
          · cases source with
            | request _ _ _ _ _ asks =>
                cases same
                cases asks
            | cancel request _ _ cancels =>
                cases same
                exact .inr ⟨request, cancels⟩
            | reader _ own => exact absurd own foreign
      | resumed _ _ resume =>
          exact inductionHypothesis (BoundedQueue.mem_pending_resume resume listed)
      | withdrawn => exact inductionHypothesis (BoundedQueue.mem_pending_withdraw listed)
      | taken _ _ get =>
          refine inductionHypothesis ?_
          rw [BoundedQueue.pending_get get]
          exact .tail _ listed
      | renewed => cases listed

/-! ## Frames that come in order -/

/-- The frame has the number that the job it names expects from this stream. -/
def State.Orderly (state : State) (stream : Nat) (frame : AgentFrame) : Prop :=
  forall jobId number call, frame.event? = some (jobId, number) ->
    state.jobs.lookup jobId = some call ->
    (state.calls call).job.agentId = (state.streams stream).session.agentId ->
    number = (state.calls call).job.nextSequence

/-- A frame for no job of the agent is ignored, and one in order is passed on. -/
theorem acceptEvent_cases (state : State) {jobId : String} {number : Nat} {frame : AgentFrame}
    (orderly : state.Orderly stream frame) (event : frame.event? = some (jobId, number)) :
    ((forall call, state.jobs.lookup jobId = some call ->
        (state.calls call).job.agentId ≠ (state.streams stream).session.agentId) ∧
      state.acceptEvent stream jobId number frame = state) ∨
    Exists fun call : Nat => state.jobs.lookup jobId = some call ∧
      (state.calls call).job.agentId = (state.streams stream).session.agentId ∧
      Exists fun accepted : State =>
        accepted = (state.modifyJob call fun job =>
          { job with nextSequence := job.nextSequence + 1 }).putJob call (.reader stream)
            (.forwarded stream frame) ∧
        state.acceptEvent stream jobId number frame =
          if state.jobFull call then accepted.setReader stream (.putEvent call) else accepted := by
  unfold State.acceptEvent
  cases registered : state.jobs.lookup jobId with
  | none =>
      refine .inl ⟨?_, rfl⟩
      intro call impossible
      cases impossible
  | some call =>
      by_cases agent : (state.calls call).job.agentId = (state.streams stream).session.agentId
      · have inOrder := orderly jobId number call event registered agent
        refine .inr ⟨call, rfl, agent, _, rfl, ?_⟩
        dsimp only
        rw [if_neg (not_not.mpr agent), if_neg (not_not.mpr inOrder)]
      · refine .inl ⟨?_, ?_⟩
        · rintro other ⟨⟩
          exact agent
        · dsimp only
          rw [if_pos agent]

/-- The frame that `Connect` yields leaves the front of the outgoing queue. -/
theorem yield_of_sends {frame : ControlFrame}
    (sends : before.sends? (.yieldControl stream) = some frame)
    (stepped : step config before (.yieldControl stream) = some after) :
    Exists fun rest : BoundedQueue Task (Option ControlFrame) =>
      (before.outgoing stream).get = some (some frame, rest) ∧
        after = before.modifyOutgoing stream fun _ => rest := by
  simp only [State.sends?] at sends
  simp only [step, State.yieldControl] at stepped
  split at sends
  · rename_i serving
    rw [if_pos serving] at stepped
    have head := Option.join_eq_some_iff.mp sends
    split at stepped
    · cases stepped
    · rename_i given rest taken
      have items := BoundedQueue.items_get taken
      rw [items] at head
      cases head
      cases stepped
      exact ⟨rest, taken, rfl⟩
    · rename_i rest taken
      have items := BoundedQueue.items_get taken
      rw [items] at head
      cases head
  · cases sends

theorem phase_of_read {frame : AgentFrame}
    (stepped : step config before (.readFrame stream frame) = some after) :
    (after.streams stream).phase = (before.streams stream).phase := by
  simp only [step, State.readFrame] at stepped
  split at stepped
  · split at stepped <;> cases stepped
    · rfl
    · exact before.phase_acceptEvent _ _ _
  · cases stepped

/-- What the reader does with a frame that is in order. -/
structure ReadInOrder (before after : State) (stream : Nat) (frame : AgentFrame) : Prop where
  jobs : after.jobs = before.jobs
  outgoing : forall other, after.outgoing other = before.outgoing other
  reader : (after.streams stream).reader = .reading ∨
    Exists fun call : Nat => (after.streams stream).reader = .putEvent call
  expected : forall jobId number call, frame.event? = some (jobId, number) ->
    before.jobs.lookup jobId = some call ->
    (before.calls call).job.agentId = (before.streams stream).session.agentId ->
    (after.calls call).job.nextSequence = number + 1
  others : forall call, (forall number jobId, frame.event? = some (jobId, number) ->
      before.jobs.lookup jobId ≠ some call) ->
    (after.calls call).job.nextSequence = (before.calls call).job.nextSequence

theorem read_in_order {frame : AgentFrame} (orderly : before.Orderly stream frame)
    (stepped : step config before (.readFrame stream frame) = some after) :
    ReadInOrder before after stream frame := by
  simp only [step, State.readFrame] at stepped
  split at stepped
  · rename_i reading
    split at stepped
    · rename_i plain
      cases stepped
      refine ⟨rfl, fun _ => rfl, .inl reading, ?_, fun _ _ => rfl⟩
      intro jobId number call event
      cases plain.symm.trans event
    · rename_i jobId number event
      cases stepped
      rcases acceptEvent_cases before orderly event with
        ⟨foreign, same⟩ | ⟨call, registered, agent, accepted, made, same⟩
      · rw [same]
        refine ⟨rfl, fun _ => rfl, .inl reading, ?_, fun _ _ => rfl⟩
        intro named given call carried found owned
        cases event.symm.trans carried
        exact absurd owned (foreign call found)
      · have inOrder := orderly jobId number call event registered agent
        have counted : (accepted.calls call).job.nextSequence =
            (before.calls call).job.nextSequence + 1 := by
          rw [made, State.putJob, State.calls_modifyQueue_self, State.modifyJob,
            State.calls_modifyCall, if_pos rfl]
        have kept : forall other, other ≠ call -> accepted.calls other = before.calls other := by
          intro other different
          rw [made, State.putJob, State.calls_modifyQueue_ne _ different, State.modifyJob,
            State.calls_modifyCall_ne _ different]
        have result : forall state : State,
            state = accepted ∨ state = accepted.setReader stream (.putEvent call) ->
            ReadInOrder before state stream frame := by
          have streams : accepted.streams = before.streams := by rw [made]; rfl
          have jobs : accepted.jobs = before.jobs := by rw [made]; rfl
          have outgoing : forall other, accepted.outgoing other = before.outgoing other := by
            intro other
            rw [State.outgoing, streams]
            rfl
          have calls : forall state : State,
              state = accepted ∨ state = accepted.setReader stream (.putEvent call) ->
              state.calls = accepted.calls := by
            rintro state (rfl | rfl) <;> rfl
          intro state one
          refine ⟨?_, ?_, ?_, ?_, ?_⟩
          · rcases one with rfl | rfl <;> exact jobs
          · intro other
            rcases one with rfl | rfl
            · exact outgoing other
            · rw [State.outgoing_setReader]
              exact outgoing other
          · rcases one with rfl | rfl
            · rw [streams]
              exact .inl reading
            · rw [State.streams_setReader_self]
              exact .inr ⟨call, rfl⟩
          · intro named given other carried found _
            cases event.symm.trans carried
            cases registered.symm.trans found
            rw [calls state one, counted, inOrder]
          · intro other silent
            have different : other ≠ call := by
              rintro rfl
              exact silent number jobId event registered
            rw [calls state one, kept other different]
        rw [same]
        split
        · exact result _ (.inr rfl)
        · exact result _ (.inl rfl)
  · cases stepped

/-- A frame in order makes the gateway report nothing of its own. -/
theorem no_report_of_orderly {frame : AgentFrame} (orderly : before.Orderly stream frame)
    (stepped : step config before (.readFrame stream frame) = some after) {call : Nat}
    {delivery : Delivery} (queued : delivery ∈ (after.queue call).pending)
    (made : delivery.origin = .gateway) : delivery ∈ (before.queue call).pending := by
  have move := step_call_move stepped call
  change delivery ∈ (after.calls call).job.queue.pending at queued
  generalize after.calls call = record at move queued
  cases move with
  | same => exact queued
  | accepted =>
      rcases (BoundedQueue.mem_pending_put _ _ _ _ _).mp queued with earlier | same
      · exact earlier
      · rw [same] at made
        cases made
  | disordered _ jobId _ sequence _ event mismatch registered agent =>
      exact absurd (orderly jobId sequence call event registered agent) mismatch
  | admitted _ _ _ resume => exact BoundedQueue.mem_pending_resume resume queued
  | withdrawn => exact BoundedQueue.mem_pending_withdraw queued
  | refused => exact queued
  | opened _ _ _ _ _ opens => cases opens

end Steps

end Gateway
end DjangoOps
