import DjangoOps.Gateway.Frame

namespace DjangoOps
namespace Gateway

open Protocol

/-!
# Authentication and isolation of agent streams

The handlers share all dictionaries and interleave at every suspension.  What
keeps streams apart is a small invariant: a task that is suspended on a job
queue belongs to the agent of that job, and a session in `_sessions` belongs
to a stream that passed the handshake under the agent id it is stored under.
-/

/-- The stream was opened by a hello that meets every requirement of the
handshake, under this agent id. -/
def Authenticated (config : GatewayConfig) (record : Stream) (agentId : String) : Prop :=
  Exists fun hello : AgentHello =>
    record.first = some (.hello hello) ∧ hello.agentId = agentId ∧
      safeJobID hello.agentId = true ∧ hello.protocol.major = protocolMajor ∧
      diagnosticCapability ∈ hello.capabilities ∧
      config.agentTokens hello.agentId = some hello.authToken

theorem compareDigest_eq_true {expected given : String}
    (equal : compareDigest expected given = some true) : expected = given := by
  unfold compareDigest at equal
  split at equal
  · exact of_decide_eq_true (Option.some.inj equal)
  · cases equal

theorem handshake_ok {config : GatewayConfig} {first : Option AgentFrame} {hello : AgentHello}
    (accepted : handshake config first = .ok hello) :
    first = some (.hello hello) ∧ safeJobID hello.agentId = true ∧
      hello.protocol.major = protocolMajor ∧ diagnosticCapability ∈ hello.capabilities ∧
      config.agentTokens hello.agentId = some hello.authToken := by
  unfold handshake at accepted
  split at accepted
  · cases accepted
  · rename_i given
    split at accepted
    · cases accepted
    · rename_i identity
      split at accepted
      · cases accepted
      · rename_i major
        split at accepted
        · cases accepted
        · rename_i capability
          split at accepted
          · cases accepted
          · rename_i expected configured
            split at accepted
            · cases accepted
            · cases accepted
            · rename_i compared
              cases accepted
              rw [compareDigest_eq_true compared] at configured
              exact ⟨rfl, by simpa only [Bool.not_eq_false] using identity, not_not.mp major,
                not_not.mp capability, configured⟩
  · cases accepted

/-! ## Phases of a `Connect` call -/

/-- The handshake has been passed. -/
def ConnectPhase.greeted : ConnectPhase -> Bool
  | .idle => false
  | .awaitingHello => false
  | .refused _ => false
  | _ => true

/-- The session has been registered at some time, and its reader started. -/
def ConnectPhase.served : ConnectPhase -> Bool
  | .serving => true
  | .closing => true
  | .disconnecting => true
  | .failing _ => true
  | .failWaiting _ _ => true
  | .ended => true
  | _ => false

/-- The session is registered and its `_disconnect` has not removed it yet. -/
def ConnectPhase.live : ConnectPhase -> Bool
  | .serving => true
  | .closing => true
  | .disconnecting => true
  | _ => false

theorem ConnectPhase.greeted_of_served {phase : ConnectPhase} (served : phase.served = true) :
    phase.greeted = true := by
  cases phase <;> first | rfl | cases served

/-- The jobs that `_disconnect` still has to visit. -/
def ConnectPhase.remaining : ConnectPhase -> List (String × Nat)
  | .failing remaining => remaining
  | .failWaiting _ remaining => remaining
  | _ => []

/-- An opened job keeps its identity for ever. -/
theorem CallMove.opened_kept {before : State} {call : Nat} {action : Action} {record : Call}
    (move : CallMove before call action record) (opened : (before.calls call).phase ≠ .idle) :
    record.phase ≠ .idle ∧ record.jobId = (before.calls call).jobId ∧
      record.job.agentId = (before.calls call).job.agentId ∧
      record.job.kind = (before.calls call).job.kind := by
  cases move with
  | same => exact ⟨opened, rfl, rfl, rfl⟩
  | refused => exact ⟨nofun, rfl, rfl, rfl⟩
  | opened _ _ _ _ _ _ idle => exact absurd idle opened
  | accepted => exact ⟨opened, rfl, rfl, rfl⟩
  | disordered => exact ⟨opened, rfl, rfl, rfl⟩
  | failed => exact ⟨opened, rfl, rfl, rfl⟩
  | admitted => exact ⟨opened, rfl, rfl, rfl⟩
  | withdrawn => exact ⟨opened, rfl, rfl, rfl⟩
  | requested => exact ⟨nofun, rfl, rfl, rfl⟩
  | delivered => exact ⟨nofun, rfl, rfl, rfl⟩
  | advanced delivery =>
      refine ⟨?_, rfl, rfl, rfl⟩
      dsimp only
      split <;> exact nofun
  | abandoned _ _ left =>
      refine ⟨?_, rfl, rfl, rfl⟩
      rcases left with same | same <;> rw [same] <;> exact nofun
  | finished => exact ⟨nofun, rfl, rfl, rfl⟩
  | cancelled => exact ⟨opened, rfl, rfl, rfl⟩

/-- A registered session stays the session of its stream. -/
theorem StreamMove.served_kept {config : GatewayConfig} {before : State} {stream : Nat}
    {action : Action} {record : Stream} (move : StreamMove config before stream action record)
    (served : (before.streams stream).phase.served = true) :
    record.phase.served = true ∧
      record.session.agentId = (before.streams stream).session.agentId := by
  cases move with
  | framed _ _ frame => exact ⟨by rw [frame.phase]; exact served, frame.agentId⟩
  | connected idle => rw [idle] at served; cases served
  | turnedAway _ _ awaiting => rw [awaiting] at served; cases served
  | greeted _ _ awaiting => rw [awaiting] at served; cases served
  | duplicate registering => rw [registering] at served; cases served
  | registered registering => exact ⟨rfl, rfl⟩
  | aborted _ refusing => rw [refusing] at served; cases served
  | readerPut _ _ _ _ _ _ _ kept => exact ⟨by rw [kept.phase]; exact served, kept.agentId⟩
  | readerMoved _ _ _ _ kept => exact ⟨by rw [kept.phase]; exact served, kept.agentId⟩
  | stopped _ _ _ phases kept =>
      refine ⟨?_, kept.agentId⟩
      rcases phases with closing | ended
      · rw [closing.2]; rfl
      · rw [ended.2]; rfl
  | closed => exact ⟨rfl, rfl⟩
  | snapshot => exact ⟨rfl, rfl⟩
  | failed => exact ⟨rfl, rfl⟩
  | failWaits => exact ⟨rfl, rfl⟩
  | failResumed => exact ⟨rfl, rfl⟩
  | ended => exact ⟨rfl, rfl⟩

/-! ## The invariant -/

/-- What holds of the sessions in every state of the gateway: a session is stored under
the agent id that its stream was authenticated under, a live stream is the one that is
stored, and a reader writes to jobs of its own agent only. -/
structure Invariant (config : GatewayConfig) (state : State) : Prop where
  unread : forall stream, (state.streams stream).phase.served = false ->
    (state.streams stream).reader = .absent
  greeted : forall stream, (state.streams stream).phase.greeted = true ->
    Authenticated config (state.streams stream) (state.streams stream).session.agentId
  registered : forall agentId stream, state.sessions.lookup agentId = some stream ->
    (state.streams stream).phase.served = true ∧
      (state.streams stream).session.agentId = agentId
  live : forall stream, (state.streams stream).phase.live = true ->
    state.sessions.lookup (state.streams stream).session.agentId = some stream
  opened : forall jobId call, state.jobs.lookup jobId = some call ->
    (state.calls call).phase ≠ .idle ∧ (state.calls call).jobId = jobId
  reader : forall stream call, (state.streams stream).reader.job? = some call ->
    (state.calls call).phase ≠ .idle ∧
      (state.calls call).job.agentId = (state.streams stream).session.agentId
  waiting : forall stream call remaining,
    (state.streams stream).phase = .failWaiting call remaining ->
    (state.calls call).phase ≠ .idle ∧
      (state.calls call).job.agentId = (state.streams stream).session.agentId
  remaining : forall stream item, item ∈ (state.streams stream).phase.remaining ->
    (state.calls item.2).phase ≠ .idle

theorem Invariant.initial (config : GatewayConfig) : Invariant config .initial where
  unread := fun _ _ => rfl
  greeted := fun _ impossible => nomatch impossible
  registered := fun _ _ impossible => nomatch impossible
  live := fun _ impossible => nomatch impossible
  opened := fun _ _ impossible => nomatch impossible
  reader := fun _ _ impossible => nomatch impossible
  waiting := fun _ _ _ impossible => nomatch impossible
  remaining := fun _ _ impossible => nomatch impossible

/-- An entry of the snapshot is registered. -/
theorem lookup_of_mem_jobItems {state : State} {item : String × Nat}
    (listed : item ∈ state.jobItems) : state.jobs.lookup item.1 = some item.2 := by
  rcases List.mem_map.mp (List.mem_reverse.mp listed) with ⟨entry, member, same⟩
  subst same
  exact AList.mem_lookup_iff.mpr member

/-- A stream whose session is live after a step was live before, or was
registered by the step. -/
theorem StreamMove.live_kept {config : GatewayConfig} {before : State} {stream : Nat}
    {action : Action} {record : Stream} (move : StreamMove config before stream action record)
    (live : record.phase.live = true) :
    record.session.agentId = (before.streams stream).session.agentId ∧
      ((before.streams stream).phase.live = true ∨
        action = .register stream ∧ (before.streams stream).phase = .registering ∧
          (before.streams stream).session.agentId ∉ before.sessions) := by
  cases move with
  | framed _ _ frame => exact ⟨frame.agentId, .inl (frame.phase ▸ live)⟩
  | registered registering fresh => exact ⟨rfl, .inr ⟨rfl, registering, fresh⟩⟩
  | readerPut _ _ _ _ _ _ _ frame => exact ⟨frame.agentId, .inl (frame.phase ▸ live)⟩
  | readerMoved _ _ _ _ frame => exact ⟨frame.agentId, .inl (frame.phase ▸ live)⟩
  | stopped _ _ _ phases frame =>
      refine ⟨frame.agentId, .inl ?_⟩
      rcases phases with ⟨phase, _⟩ | ⟨phase, _⟩ <;> rw [phase] <;> rfl
  | closed phase => exact ⟨rfl, .inl (by rw [phase]; rfl)⟩
  | _ => cases live

/-- `_open_job` refuses a registered job id. -/
theorem State.fresh_of_openJob {config : GatewayConfig} (state : State) {agentId jobId : String}
    {reuse : Bool} {stream : Nat}
    (accepted : state.openJob config agentId jobId reuse = .ok stream) : jobId ∉ state.jobs := by
  intro member
  unfold State.openJob at accepted
  split at accepted <;> cases accepted

/-- `_open_job` accepts a job on a registered session only. -/
theorem State.lookup_of_openJob {config : GatewayConfig} (state : State) {agentId jobId : String}
    {reuse : Bool} {stream : Nat}
    (accepted : state.openJob config agentId jobId reuse = .ok stream) :
    state.sessions.lookup agentId = some stream := by
  unfold State.openJob at accepted
  split at accepted
  · cases accepted
  · split at accepted
    · cases accepted
    · split at accepted
      · cases accepted
      · split at accepted
        · cases accepted
        · rename_i found
          split at accepted
          · cases accepted
          · cases accepted
            exact found

section Preservation

variable {config : GatewayConfig} {before after : State} {action : Action}

/-- The critical section of `Connect` stores the stream and starts to serve it. -/
theorem served_of_register {stream : Nat}
    (registering : (before.streams stream).phase = .registering)
    (fresh : (before.streams stream).session.agentId ∉ before.sessions)
    (stepped : step config before (.register stream) = some after) :
    after.sessions = before.sessions.insert (before.streams stream).session.agentId stream ∧
      (after.streams stream).phase.served = true ∧
      (after.streams stream).session.agentId = (before.streams stream).session.agentId := by
  simp only [step, State.register, registering, true_and] at stepped
  split at stepped
  · cases stepped
    rw [State.streams_modifyStream, if_pos rfl]
    exact ⟨rfl, rfl, rfl⟩
  · cases stepped

/-- The critical section of `_disconnect` ends the session. -/
theorem not_live_of_disconnect {stream : Nat}
    (stepped : step config before (.disconnect stream) = some after) :
    (after.streams stream).phase.live = false := by
  simp only [step, State.disconnect] at stepped
  split at stepped
  · cases stepped
    rw [State.streams_setConnect_self]
    rfl
  · cases stepped

/-- A stream that was not registered before the step has no running reader. -/
theorem Invariant.unread_step (invariant : Invariant config before)
    (stepped : step config before action = some after) (stream : Nat)
    (early : (after.streams stream).phase.served = false) :
    (after.streams stream).reader = .absent := by
  have kept := invariant.unread stream
  have move := step_stream_move stepped stream
  generalize after.streams stream = record at early move ⊢
  cases move with
  | framed _ _ frame =>
      rw [frame.reader]
      rw [frame.phase] at early
      exact kept early
  | connected idle => exact kept (by rw [idle]; rfl)
  | turnedAway _ _ awaiting => exact kept (by rw [awaiting]; rfl)
  | greeted _ _ awaiting => exact kept (by rw [awaiting]; rfl)
  | duplicate registering => exact kept (by rw [registering]; rfl)
  | registered => cases early
  | aborted _ refusing => exact kept (by rw [refusing]; rfl)
  | readerPut _ _ _ _ reading _ _ frame =>
      rw [frame.phase] at early
      have absent := kept early
      rw [reading] at absent
      cases absent
  | readerMoved _ _ _ running frame =>
      rw [frame.phase] at early
      exact absurd (kept early) running
  | stopped _ _ _ phases =>
      rcases phases with ⟨_, closing⟩ | ⟨_, ended⟩
      · rw [closing] at early
        cases early
      · rw [ended] at early
        cases early
  | closed => cases early
  | snapshot => cases early
  | failed => cases early
  | failWaits => cases early
  | failResumed => cases early
  | ended => cases early

/-- The handshake is made once, and what it checked is not written again. -/
theorem Invariant.greeted_step (invariant : Invariant config before)
    (stepped : step config before action = some after) (stream : Nat)
    (greeted : (after.streams stream).phase.greeted = true) :
    Authenticated config (after.streams stream) (after.streams stream).session.agentId := by
  have kept := invariant.greeted stream
  have transfer : forall record : Stream, record.first = (before.streams stream).first ->
      record.session.agentId = (before.streams stream).session.agentId ->
      (before.streams stream).phase.greeted = true ->
      Authenticated config record record.session.agentId := by
    intro record first agentId earlier
    rcases kept earlier with ⟨hello, firstEq, rest⟩
    rw [agentId]
    exact ⟨hello, first.trans firstEq, rest⟩
  have move := step_stream_move stepped stream
  generalize after.streams stream = record at greeted move ⊢
  cases move with
  | framed _ _ frame => exact transfer _ frame.first frame.agentId (frame.phase ▸ greeted)
  | connected => cases greeted
  | turnedAway => cases greeted
  | greeted first hello _ accepted =>
      rcases handshake_ok accepted with ⟨firstEq, identity, major, capability, token⟩
      exact ⟨hello, firstEq, rfl, identity, major, capability, token⟩
  | duplicate registering => exact transfer _ rfl rfl (by rw [registering]; rfl)
  | registered registering => exact transfer _ rfl rfl (by rw [registering]; rfl)
  | aborted => cases greeted
  | readerPut _ _ _ _ _ _ _ frame =>
      exact transfer _ frame.first frame.agentId (frame.phase ▸ greeted)
  | readerMoved _ _ _ _ frame =>
      exact transfer _ frame.first frame.agentId (frame.phase ▸ greeted)
  | stopped _ _ _ phases frame =>
      refine transfer _ frame.first frame.agentId ?_
      rcases phases with ⟨serving, _⟩ | ⟨closing, _⟩
      · rw [serving]
        rfl
      · rw [closing]
        rfl
  | closed phase => exact transfer _ rfl rfl (by rw [phase]; rfl)
  | snapshot phase => exact transfer _ rfl rfl (by rw [phase]; rfl)
  | failed _ _ _ phase => exact transfer _ rfl rfl (by rw [phase]; rfl)
  | failWaits _ _ _ phase => exact transfer _ rfl rfl (by rw [phase]; rfl)
  | failResumed _ _ phase => exact transfer _ rfl rfl (by rw [phase]; rfl)
  | ended _ _ phase =>
      refine transfer _ rfl rfl ?_
      rcases phase with phase | ⟨_, phase⟩ | ⟨_, phase⟩ <;> rw [phase] <;> rfl

theorem Invariant.registered_step (invariant : Invariant config before)
    (stepped : step config before action = some after) (agentId : String) (stream : Nat)
    (found : after.sessions.lookup agentId = some stream) :
    (after.streams stream).phase.served = true ∧
      (after.streams stream).session.agentId = agentId := by
  rcases lookup_session_step stepped found with earlier | ⟨rfl, registering, rfl, fresh⟩
  · rcases invariant.registered agentId stream earlier with ⟨served, named⟩
    rcases (step_stream_move stepped stream).served_kept served with ⟨still, same⟩
    exact ⟨still, same.trans named⟩
  · exact (served_of_register registering fresh stepped).2

/-- A live session is the one stored under its agent id: nobody else may
register under this id, and no other stream removes the entry. -/
theorem Invariant.live_step (invariant : Invariant config before)
    (stepped : step config before action = some after) (stream : Nat)
    (live : (after.streams stream).phase.live = true) :
    after.sessions.lookup (after.streams stream).session.agentId = some stream := by
  rcases (step_stream_move stepped stream).live_kept live with ⟨named, earlier⟩
  rw [named]
  rcases earlier with earlier | ⟨isRegister, registering, fresh⟩
  · have stored := invariant.live stream earlier
    apply lookup_session_kept stepped stored
    rintro rfl
    rw [not_live_of_disconnect stepped] at live
    cases live
  · subst isRegister
    rw [(served_of_register registering fresh stepped).1]
    exact AList.lookup_insert _

/-- The two generators write the fresh record before they are suspended. -/
theorem opened_of_opens {call stream : Nat} {agentId jobId : String} {reuse : Bool}
    (accepted : before.openJob config agentId jobId reuse = .ok stream)
    (opens : action.opens? = some (call, agentId, jobId))
    (stepped : step config before action = some after)
    (registered : jobId ∈ after.jobs) :
    (after.calls call).phase ≠ .idle ∧ (after.calls call).jobId = jobId := by
  have fresh : jobId ∉ before.jobs := before.fresh_of_openJob accepted
  have opened : forall (kind : JobKind) (phase : CallPhase), phase ≠ .idle ->
      ((((before.addJob call agentId jobId kind).setCall call phase).calls call).phase ≠ .idle ∧
        (((before.addJob call agentId jobId kind).setCall call phase).calls call).jobId =
          jobId) := by
    intro kind phase busy
    simp only [State.setCall, State.addJob, State.calls_modifyCall, if_true]
    exact ⟨busy, trivial⟩
  have requested : forall (kind : JobKind) (target : Nat) (frame : ControlFrame),
      ((((before.addJob call agentId jobId kind).putRequest call target frame).calls call).phase ≠
          .idle ∧
        (((before.addJob call agentId jobId kind).putRequest call target frame).calls call).jobId =
          jobId) := by
    intro kind target frame
    unfold State.putRequest
    split
    · exact opened kind _ (by simp)
    · exact opened kind _ (by simp)
  cases action <;> cases opens <;> simp only [step] at stepped
  case openDiagnostics =>
    unfold State.openDiagnostics at stepped
    split at stepped
    · split at stepped
      · cases stepped
        exact absurd registered fresh
      · split at stepped <;> cases stepped
        · exact absurd registered fresh
        · exact requested _ _ _
    · cases stepped
  case openKubernetes =>
    unfold State.openKubernetes at stepped
    split at stepped
    · split at stepped
      · cases stepped
        exact absurd registered fresh
      · dsimp only at stepped
        split at stepped <;> cases stepped
        · exact requested _ _ _
        · exact opened _ _ (by simp)
    · cases stepped

/-- A registered job belongs to the call that opened it. -/
theorem Invariant.opened_step (invariant : Invariant config before)
    (stepped : step config before action = some after) (jobId : String) (call : Nat)
    (found : after.jobs.lookup jobId = some call) :
    (after.calls call).phase ≠ .idle ∧ (after.calls call).jobId = jobId := by
  rcases lookup_job_step stepped found with earlier | ⟨_, _, agentId, reuse, stream, accepted, opens⟩
  · rcases invariant.opened jobId call earlier with ⟨busy, named⟩
    rcases (step_call_move stepped call).opened_kept busy with ⟨still, same, _⟩
    exact ⟨still, same.trans named⟩
  · exact opened_of_opens accepted opens stepped (AList.lookup_isSome.mp (by rw [found]; rfl))

/-- A job of the agent of a stream stays one. -/
theorem agent_kept {stream call : Nat}
    (stepped : step config before action = some after)
    (same : (after.streams stream).session.agentId = (before.streams stream).session.agentId)
    (job : (before.calls call).phase ≠ .idle ∧
      (before.calls call).job.agentId = (before.streams stream).session.agentId) :
    (after.calls call).phase ≠ .idle ∧
      (after.calls call).job.agentId = (after.streams stream).session.agentId := by
  rcases (step_call_move stepped call).opened_kept job.1 with ⟨busy, _, agent, _⟩
  exact ⟨busy, (agent.trans job.2).trans same.symm⟩

/-- A reader is suspended on queues of its own agent only. -/
theorem Invariant.reader_step (invariant : Invariant config before)
    (stepped : step config before action = some after) (stream call : Nat)
    (waiting : (after.streams stream).reader.job? = some call) :
    (after.calls call).phase ≠ .idle ∧
      (after.calls call).job.agentId = (after.streams stream).session.agentId := by
  have carry : (after.streams stream).session.agentId =
        (before.streams stream).session.agentId ->
      (before.streams stream).reader.job? = some call ->
      (after.calls call).phase ≠ .idle ∧
        (after.calls call).job.agentId = (after.streams stream).session.agentId :=
    fun same earlier => agent_kept stepped same (invariant.reader stream call earlier)
  have move := step_stream_move stepped stream
  have keep := @agent_kept config before after action stream call stepped
  have absent := invariant.unread stream
  generalize after.streams stream = record at waiting move carry keep ⊢
  cases move with
  | framed _ _ frame => exact carry frame.agentId (frame.reader ▸ waiting)
  | connected => exact carry rfl waiting
  | turnedAway => exact carry rfl waiting
  | greeted _ _ awaiting =>
      rw [absent (by rw [awaiting]; rfl)] at waiting
      cases waiting
  | duplicate => exact carry rfl waiting
  | registered => cases waiting
  | aborted => exact carry rfl waiting
  | readerPut _ jobId target _ _ registered agent frame suspended =>
      rw [suspended] at waiting
      cases waiting
      exact keep frame.agentId ⟨(invariant.opened jobId call registered).1, agent⟩
  | readerMoved _ _ _ _ _ free =>
      rw [free] at waiting
      cases waiting
  | stopped _ _ _ _ _ free =>
      rw [free] at waiting
      cases waiting
  | closed => exact carry rfl waiting
  | snapshot => exact carry rfl waiting
  | failed => exact carry rfl waiting
  | failWaits => exact carry rfl waiting
  | failResumed => exact carry rfl waiting
  | ended => exact carry rfl waiting

/-- `_disconnect` is suspended on queues of its own agent only. -/
theorem Invariant.waiting_step (invariant : Invariant config before)
    (stepped : step config before action = some after) (stream call : Nat)
    (remaining : List (String × Nat))
    (waiting : (after.streams stream).phase = .failWaiting call remaining) :
    (after.calls call).phase ≠ .idle ∧
      (after.calls call).job.agentId = (after.streams stream).session.agentId := by
  have keep := @agent_kept config before after action stream call stepped
  have carry : (after.streams stream).session.agentId =
        (before.streams stream).session.agentId ->
      (before.streams stream).phase = .failWaiting call remaining ->
      (after.calls call).phase ≠ .idle ∧
        (after.calls call).job.agentId = (after.streams stream).session.agentId :=
    fun same earlier => keep same (invariant.waiting stream call remaining earlier)
  have move := step_stream_move stepped stream
  generalize after.streams stream = record at waiting move carry keep ⊢
  cases move with
  | framed _ _ frame => exact carry frame.agentId (frame.phase ▸ waiting)
  | readerPut _ _ _ _ _ _ _ frame => exact carry frame.agentId (frame.phase ▸ waiting)
  | readerMoved _ _ _ _ frame => exact carry frame.agentId (frame.phase ▸ waiting)
  | stopped _ _ _ phases =>
      rcases phases with ⟨_, phase⟩ | ⟨_, phase⟩ <;> rw [phase] at waiting <;> cases waiting
  | failWaits jobId target rest phase agent =>
      cases waiting
      refine keep rfl ⟨?_, agent⟩
      exact invariant.remaining stream (jobId, call) (by rw [phase]; exact .head _)
  | _ => cases waiting

/-- The snapshot of `_jobs` lists opened jobs, and so does every rest of it. -/
theorem Invariant.remaining_step (invariant : Invariant config before)
    (stepped : step config before action = some after) (stream : Nat) (item : String × Nat)
    (listed : item ∈ (after.streams stream).phase.remaining) :
    (after.calls item.2).phase ≠ .idle := by
  have still : (before.calls item.2).phase ≠ .idle -> (after.calls item.2).phase ≠ .idle :=
    fun busy => ((step_call_move stepped item.2).opened_kept busy).1
  have earlier := invariant.remaining stream item
  have move := step_stream_move stepped stream
  generalize after.streams stream = record at listed move
  refine still ?_
  cases move with
  | framed _ _ frame => exact earlier (frame.phase ▸ listed)
  | readerPut _ _ _ _ _ _ _ frame => exact earlier (frame.phase ▸ listed)
  | readerMoved _ _ _ _ frame => exact earlier (frame.phase ▸ listed)
  | stopped _ _ _ phases =>
      rcases phases with ⟨_, phase⟩ | ⟨_, phase⟩ <;> rw [phase] at listed <;> cases listed
  | snapshot => exact (invariant.opened item.1 item.2 (lookup_of_mem_jobItems listed)).1
  | failed _ _ _ phase => exact earlier (by rw [phase]; exact .tail _ listed)
  | failWaits _ _ _ phase => exact earlier (by rw [phase]; exact .tail _ listed)
  | failResumed _ _ phase => exact earlier (by rw [phase]; exact listed)
  | _ => cases listed

theorem Invariant.step (invariant : Invariant config before)
    (stepped : Gateway.step config before action = some after) : Invariant config after where
  unread := invariant.unread_step stepped
  greeted := invariant.greeted_step stepped
  registered := invariant.registered_step stepped
  live := invariant.live_step stepped
  opened := invariant.opened_step stepped
  reader := invariant.reader_step stepped
  waiting := invariant.waiting_step stepped
  remaining := invariant.remaining_step stepped

end Preservation

theorem Invariant.reachable {config : GatewayConfig} {state : State}
    (reached : (machine config).Reachable state) : Invariant config state :=
  reached.invariant
    (fun _ initial => initial ▸ .initial config)
    (fun _ _ _ _ invariant _ stepped => invariant.step stepped)

/-! ## Isolation -/

section Isolation

variable {config : GatewayConfig} {before after : State} {action : Action} {stream : Nat}

theorem Task.stream_of_waits {state : State} {task : Task} {call : Nat}
    (waiting : state.Waits task call) (own : task.stream? = some stream) :
    (state.streams stream).reader.job? = some call ∨
      Exists fun remaining : List (String × Nat) =>
        (state.streams stream).phase = .failWaiting call remaining := by
  cases task with
  | reader other =>
      cases own
      refine .inl ?_
      rcases waiting with reader | ⟨jobId, reader⟩ <;> rw [reader] <;> rfl
  | connect other =>
      cases own
      exact .inr waiting
  | call => cases own
  | canceller => cases own

/-- The tasks of a stream do not write the records of other agents' jobs. -/
theorem Invariant.foreign_call (invariant : Invariant config before)
    (stepped : Gateway.step config before action = some after)
    (own : action.stream? = some stream) (call : Nat)
    (foreign : (before.calls call).job.agentId ≠ (before.streams stream).session.agentId) :
    after.calls call = before.calls call := by
  have ownQueue : forall task : Task, before.Waits task call -> action.stream? = task.stream? ->
      False := by
    intro task waiting same
    rcases Task.stream_of_waits waiting (same.symm.trans own) with reader | ⟨remaining, phase⟩
    · exact foreign (invariant.reader stream call reader).2
    · exact foreign (invariant.waiting stream call remaining phase).2
  have move := step_call_move stepped call
  generalize after.calls call = record at move ⊢
  cases move with
  | same => rfl
  | refused _ _ notStream =>
      rw [own] at notStream
      cases notStream
  | opened _ _ _ _ _ opens => cases action <;> cases own <;> cases opens
  | accepted _ _ _ _ _ _ agent =>
      cases own
      exact absurd agent foreign
  | disordered _ _ _ _ _ _ _ _ agent =>
      cases own
      exact absurd agent foreign
  | failed _ _ _ _ agent =>
      cases own
      exact absurd agent foreign
  | admitted _ task _ _ waiting same => exact absurd (ownQueue task waiting same) not_false
  | withdrawn _ task waiting same => exact absurd (ownQueue task waiting same) not_false
  | _ => cases own

/-- The tasks of a stream remove no session but their own. -/
theorem lookup_kept_of_stream (stepped : Gateway.step config before action = some after)
    (own : action.stream? = some stream) {agentId : String} {other : Nat}
    (different : other ≠ stream) (stored : before.sessions.lookup agentId = some other) :
    after.sessions.lookup agentId = some other := by
  apply lookup_session_kept stepped stored
  rintro rfl
  cases own
  exact different rfl

end Isolation

/-- Every stored session was authenticated under the agent id it is stored
under, no agent id has two live sessions, and a step of one stream neither
writes a job of another agent, nor touches another stream, nor removes the
session of another stream.  An agent id in a frame is never trusted: what a reader
may write is settled by the session alone. -/
theorem gateway_isolation (config : GatewayConfig) (state : State)
    (reached : (machine config).Reachable state) :
    (forall agentId stream, state.sessions.lookup agentId = some stream ->
      Authenticated config (state.streams stream) agentId) ∧
    (forall left right, (state.streams left).phase.live = true ->
      (state.streams right).phase.live = true ->
      (state.streams left).session.agentId = (state.streams right).session.agentId ->
      left = right) ∧
    (forall action stream after, action.stream? = some stream ->
      step config state action = some after ->
      (forall call, (state.calls call).job.agentId ≠ (state.streams stream).session.agentId ->
        after.calls call = state.calls call) ∧
      (forall other, other ≠ stream -> after.streams other = state.streams other) ∧
      (forall agentId other, other ≠ stream -> state.sessions.lookup agentId = some other ->
        after.sessions.lookup agentId = some other)) := by
  have invariant := Invariant.reachable reached
  refine ⟨?_, ?_, ?_⟩
  · intro agentId stream stored
    rcases invariant.registered agentId stream stored with ⟨served, named⟩
    rw [← named]
    exact invariant.greeted stream (ConnectPhase.greeted_of_served served)
  · intro left right leftLive rightLive same
    have leftStored := invariant.live left leftLive
    rw [same, invariant.live right rightLive] at leftStored
    exact (Option.some.inj leftStored).symm
  · intro action stream after own stepped
    exact ⟨fun call foreign => invariant.foreign_call stepped own call foreign,
      fun _ different => streams_of_stream_step own different stepped,
      fun _ _ different stored => lookup_kept_of_stream stepped own different stored⟩

/-- A configuration with two agents. -/
def GatewayConfig.pair : GatewayConfig where
  agentTokens := fun agentId =>
    if agentId = "alpha" then some "alpha-token" else if agentId = "beta" then some "beta-token"
    else none
  maxCompletedJobs := 10000
  maxInflightPerAgent := 4
  completed_pos := by decide
  inflight_pos := by decide

/-- The first frame of an agent with both capabilities. -/
def helloOf (agentId authToken : String) : AgentFrame :=
  .hello { agentId := agentId, protocol := ⟨1, 0⟩, authToken := authToken
           capabilities := [diagnosticCapability, kubernetesCapability] }

/-- Two connected agents; a frame that `beta` sends for a job of `alpha` is ignored. -/
theorem gateway_isolation_pair :
    Exists fun state : State => Exists fun after : State =>
      Authenticated .pair (state.streams 0) "alpha" ∧
        step .pair state (.readFrame 1 (.progress ⟨"job-1", 1, "start", "begun"⟩)) = some after ∧
        after.calls 0 = state.calls 0 := by
  rcases (machine .pair).exists_reachableUnder_of_replay (fun _ _ => True)
    [.connect 0, .firstFrame 0 (some (helloOf "alpha" "alpha-token")), .register 0,
      .connect 1, .firstFrame 1 (some (helloOf "beta" "beta-token")), .register 1,
      .openDiagnostics 0 "alpha" "job-1" "releases/web"]
    .initial rfl
    (fun state => state.sessions.lookup "alpha" = some 0 ∧
      (state.calls 0).job.agentId = "alpha" ∧ (state.streams 1).session.agentId = "beta" ∧
      (state.streams 1).reader = .reading)
    (by decide +kernel) with ⟨state, reached, tested⟩
  rcases of_decide_eq_true tested with ⟨stored, owner, sender, reading⟩
  have isolation := gateway_isolation .pair state reached
  refine ⟨state, _, isolation.1 "alpha" 0 stored, if_pos reading, ?_⟩
  exact (isolation.2.2 (.readFrame 1 (.progress ⟨"job-1", 1, "start", "begun"⟩)) 1 _ rfl
    (if_pos reading)).1 0 (by rw [owner, sender]; decide)

end Gateway
end DjangoOps
