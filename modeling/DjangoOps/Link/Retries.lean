import DjangoOps.Agent.Numbering
import DjangoOps.Link.Requests

namespace DjangoOps
namespace Link

open Protocol

/-!
# Retries under one job id

Every job that the gateway opens expects the number one, and every execution of
the agent begins with it.  An operation that is opened again while an earlier
attempt still has frames to come meets two numberings at once.
-/

/-- The frame asks for a job under this id. -/
def asks (jobId : String) (frame : ControlFrame) : Bool :=
  decide (frame.request?.map Request.jobId = some jobId)

namespace State

variable (setting : Setting) (state : State) (jobId : String)

/-- The requests for this id that wait in the outgoing queue. -/
def queued : Nat :=
  (state.gateway.outgoing setting.stream).pending.countP fun item => item.any (asks jobId)

/-- The requests for this id that the agent has not taken. -/
def travelling : Nat := state.toAgent.countP (asks jobId)

/-- The attempts under this id that may still have frames to come. -/
def outstanding : Nat :=
  state.queued setting jobId + state.travelling jobId + state.agent.sources jobId

/-- The numbers of the frames of this id that the gateway has not read. -/
def unread : List Nat := state.toGateway.filterMap (Agent.numberFor jobId)

/-- Nothing of an earlier attempt under this id is left. -/
def quiet : Bool :=
  decide (state.outstanding setting jobId = 0 ∧ state.unread jobId = [])

/-- At most one attempt is under way, and its frames are numbered from `next` on. -/
structure Ordered (next : Nat) : Prop where
  single : state.outstanding setting jobId ≤ 1
  numbered : state.unread jobId = List.range' next (state.unread jobId).length
  source : state.outstanding setting jobId ≠ 0 ->
    state.agent.next jobId = next + (state.unread jobId).length

/-- A job is opened on the stream only when nothing of its id is left. -/
def opensFresh : Action -> Bool
  | .gateway action =>
      match state.gateway.opensOn? setting.gateway action with
      | some (jobId, target) => decide (target = setting.stream -> state.quiet setting jobId = true)
      | none => true
  | _ => true

end State

/-- A job is opened on the stream only when nothing of an earlier attempt under its id is
left: no request on its way, no goroutine that still sends, and no frame of it that
the gateway has not read. -/
def OpensFresh (setting : Setting) (state : State) (action : Action) : Prop :=
  state.opensFresh setting action = true

instance (setting : Setting) (state : State) (action : Action) :
    Decidable (OpensFresh setting state action) :=
  inferInstanceAs (Decidable (_ = _))

namespace State

variable {setting : Setting} {before after : State} {jobId : String} {next : Nat}

/-! ## The frames of one attempt -/

theorem Ordered.mono (ordered : before.Ordered setting jobId next)
    (agent : after.agent = before.agent) (unread : after.unread jobId = before.unread jobId)
    (fewer : after.outstanding setting jobId ≤ before.outstanding setting jobId) :
    after.Ordered setting jobId next := by
  refine ⟨Nat.le_trans fewer ordered.single, ?_, fun some => ?_⟩
  · rw [unread]
    exact ordered.numbered
  · rw [agent, unread]
    exact ordered.source (by omega)

/-- Nothing is left, so that any numbering may begin. -/
theorem Ordered.of_quiet (quiet : before.quiet setting jobId = true) :
    before.Ordered setting jobId next := by
  rcases of_decide_eq_true quiet with ⟨none, unread⟩
  refine ⟨?_, ?_, fun some => absurd none some⟩
  · rw [none]
    exact Nat.zero_le 1
  · rw [unread]
    rfl

theorem unread_append (state : State) (frames : List AgentFrame) :
    ({ state with toGateway := state.toGateway ++ frames } : State).unread jobId =
      state.unread jobId ++ frames.filterMap (Agent.numberFor jobId) := List.filterMap_append

/-- The agent goes on.  A request of the job that is still on its way says that the
agent has no source of frames for it yet. -/
theorem Ordered.agent_step (ordered : before.Ordered setting jobId next)
    {events : List Agent.Event} (agent : Agent.Supply before.agent after.agent jobId
      (Agent.numbersFor jobId events))
    (queued : after.queued setting jobId = before.queued setting jobId)
    (travelling : after.travelling jobId = before.travelling jobId)
    (unread : after.unread jobId = before.unread jobId ++ Agent.numbersFor jobId events) :
    after.Ordered setting jobId next := by
  have single := ordered.single
  have source := ordered.source
  generalize Agent.numbersFor jobId events = sent at agent unread
  have total : forall state : State, state.outstanding setting jobId =
      state.queued setting jobId + state.travelling jobId + state.agent.sources jobId :=
    fun _ => rfl
  rw [total] at single source
  cases agent with
  | silent fewer again =>
      rw [List.append_nil] at unread
      refine ⟨?_, ?_, fun some => ?_⟩
      · rw [total, queued, travelling]
        omega
      · rw [unread]
        exact ordered.numbered
      · rw [total, queued, travelling] at some
        rw [unread, ← source (by omega)]
        by_cases working : after.agent.sources jobId = 0
        · have idle : before.agent.sources jobId = 0 := by omega
          rw [Agent.next_of_no_source working, Agent.next_of_no_source idle]
        · exact again working
  | sent some fewer again =>
      have number := source (by omega)
      refine ⟨?_, ?_, fun others => ?_⟩
      · rw [total, queued, travelling]
        omega
      · rw [unread, List.length_append, List.length_singleton, List.range'_1_concat,
          ← ordered.numbered, number]
      · rw [total, queued, travelling] at others
        rw [unread, List.length_append, List.length_singleton, again (by omega), number]
        omega

/-- The receive loop takes a frame. -/
theorem Ordered.receive_step (ordered : before.Ordered setting jobId next)
    {frame : ControlFrame} {events : List Agent.Event}
    (takes : Agent.Takes before.agent after.agent frame events jobId)
    (head : before.toAgent = frame :: after.toAgent)
    (queued : after.queued setting jobId = before.queued setting jobId)
    (unread : after.unread jobId = before.unread jobId ++ Agent.numbersFor jobId events) :
    after.Ordered setting jobId next := by
  have travelling : before.travelling jobId =
      after.travelling jobId + if asks jobId frame then 1 else 0 := by
    unfold State.travelling
    rw [head, List.countP_cons]
  have fewer : after.outstanding setting jobId ≤ before.outstanding setting jobId := by
    unfold State.outstanding Agent.State.sources
    rw [queued, travelling, takes.idle, takes.working]
    by_cases busy : after.agent.loop.handles jobId = true
    · have asked : asks jobId frame = true := decide_eq_true (takes.named busy)
      rw [if_pos busy, asked]
      simp only [if_true, Bool.false_eq_true, if_false]
      omega
    · rw [if_neg busy]
      simp only [Bool.false_eq_true, if_false]
      omega
  rw [takes.silent, List.append_nil] at unread
  refine ⟨Nat.le_trans fewer ordered.single, ?_, fun some => ?_⟩
  · rw [unread]
    exact ordered.numbered
  · have same : after.agent.next jobId = before.agent.next jobId := by
      unfold Agent.State.next
      rw [takes.working]
    rw [same, unread]
    exact ordered.source (by omega)

/-- The reader takes a frame of this id. -/
theorem Ordered.read_step (ordered : before.Ordered setting jobId next) {number : Nat}
    (head : before.unread jobId = number :: after.unread jobId)
    (agent : after.agent = before.agent)
    (fewer : after.outstanding setting jobId ≤ before.outstanding setting jobId) :
    number = next ∧ after.Ordered setting jobId (next + 1) := by
  have numbered := ordered.numbered
  have source := ordered.source
  rw [head, List.length_cons] at numbered source
  rw [List.range'_succ] at numbered
  rcases List.cons.inj numbered with ⟨first, rest⟩
  refine ⟨first, Nat.le_trans fewer ordered.single, ?_, fun some => ?_⟩
  · exact rest
  · rw [agent, source (by omega)]
    omega

end State

/-! ## The invariant -/

/-- The session of the agent. -/
def State.agentId (setting : Setting) (state : State) : String :=
  (state.gateway.streams setting.stream).session.agentId

/-- The invariant of the runs in which retries do no harm: the numbers of the frames on
their way are those that the gateway expects, and every cancellation was asked for. -/
structure Undisturbed (setting : Setting) (state : State) : Prop where
  online : state.agent.loop ≠ .offline
  calm : state.gateway.Calm setting.stream
  untouched : (state.gateway.streams setting.stream).phase.served = false ->
    forall jobId next, state.Ordered setting jobId next
  ordered : (state.gateway.streams setting.stream).phase = .serving ->
    forall jobId call, state.gateway.jobs.lookup jobId = some call ->
      (state.gateway.calls call).job.agentId = state.agentId setting ->
      state.Ordered setting jobId (state.gateway.calls call).job.nextSequence
  cancels : forall jobId, (some (.cancel jobId) ∈
      (state.gateway.outgoing setting.stream).pending ∨ .cancel jobId ∈ state.yielded) ->
    jobId ∈ state.cancelled

section Steps

variable {setting : Setting} {before after : State}

/-- A step that leaves the gateway alone and keeps every order. -/
theorem Undisturbed.of_agent (undisturbed : Undisturbed setting before)
    (gateway : after.gateway = before.gateway) (yielded : after.yielded = before.yielded)
    (cancelled : after.cancelled = before.cancelled) (online : after.agent.loop ≠ .offline)
    (keeps : forall jobId next, before.Ordered setting jobId next ->
      after.Ordered setting jobId next) : Undisturbed setting after := by
  refine ⟨online, ?_, ?_, ?_, ?_⟩
  · rw [gateway]
    exact undisturbed.calm
  · rw [gateway]
    exact fun unserved jobId next => keeps jobId next (undisturbed.untouched unserved jobId next)
  · unfold State.agentId
    rw [gateway]
    exact fun serving jobId call found owned =>
      keeps jobId _ (undisturbed.ordered serving jobId call found owned)
  · rw [gateway, yielded, cancelled]
    exact undisturbed.cancels

/-- What stands in the way of two attempts: at most one source of frames. -/
theorem Undisturbed.agent_step (undisturbed : Undisturbed setting before)
    (ran : before.Ran setting) {action : Agent.Action} {agent : Agent.State}
    {events : List Agent.Event} (goes : before.agent.goesOn action = true)
    (stepped : Agent.step setting.agent before.agent action = some (agent, events))
    (outcomes : List Agent.Event) :
    Undisturbed setting { before with
      agent := agent
      toGateway := before.toGateway ++ events.filterMap Agent.Event.frame?
      outcomes := outcomes } := by
  refine undisturbed.of_agent rfl rfl rfl
    (Agent.online_of_goesOn undisturbed.online goes stepped) fun jobId next ordered => ?_
  have single : before.agent.sources jobId ≤ 1 :=
    Nat.le_trans (Nat.le_add_left _ _) ordered.single
  have supply := Agent.supply_of_step (Agent.slotted_of_reachable ran.agent)
    (Agent.Invariant.reachable ran.agent).placed (Agent.namesJobs_of_reachable ran.agent)
    undisturbed.online single goes stepped
  exact ordered.agent_step supply rfl rfl (before.unread_append _)

theorem Undisturbed.receive_step (undisturbed : Undisturbed setting before)
    {frame : ControlFrame} {rest : List ControlFrame} {agent : Agent.State}
    {events : List Agent.Event} (head : before.toAgent = frame :: rest)
    (stepped : Agent.step setting.agent before.agent (.receive frame) = some (agent, events))
    (outcomes : List Agent.Event) :
    Undisturbed setting { before with
      agent := agent
      toAgent := rest
      toGateway := before.toGateway ++ events.filterMap Agent.Event.frame?
      outcomes := outcomes } := by
  have takes : forall jobId, Agent.Takes before.agent agent frame events jobId :=
    fun _ => Agent.takes_of_receive stepped
  refine undisturbed.of_agent rfl rfl rfl (takes "").online fun jobId next ordered => ?_
  exact ordered.receive_step (takes jobId) head rfl (before.unread_append _)

/-- A control frame is put on the wire: its request moves from the queue of the
session to the requests that travel. -/
theorem Undisturbed.yield_step (undisturbed : Undisturbed setting before)
    {frame : ControlFrame} {gateway : Gateway.State}
    (sends : before.gateway.sends? (.yieldControl setting.stream) = some frame)
    (stepped : Gateway.step setting.gateway before.gateway (.yieldControl setting.stream) =
      some gateway) :
    Undisturbed setting { before with
      gateway := gateway
      toAgent := before.toAgent ++ [frame]
      yielded := before.yielded ++ [frame] } := by
  rcases Gateway.yield_of_sends sends stepped with ⟨rest, taken, same⟩
  have pending := BoundedQueue.pending_get taken
  subst same
  have outgoing := Gateway.State.outgoing_modifyOutgoing before.gateway setting.stream
    (fun _ => rest)
  have framed := before.gateway.frame_modifyOutgoing setting.stream setting.stream fun _ => rest
  have keeps : forall jobId next, before.Ordered setting jobId next ->
      ({ before with
        gateway := before.gateway.modifyOutgoing setting.stream fun _ => rest
        toAgent := before.toAgent ++ [frame]
        yielded := before.yielded ++ [frame] } : State).Ordered setting jobId next := by
    intro jobId next ordered
    refine ordered.mono rfl rfl (Nat.le_of_eq ?_)
    simp only [State.outstanding, State.queued, State.travelling, outgoing, pending,
      List.countP_cons, List.countP_append, List.countP_nil, Option.any_some]
    omega
  refine ⟨undisturbed.online, ?_, ?_, ?_, ?_⟩
  · unfold Gateway.State.Calm
    rw [framed.phase, framed.reader]
    exact undisturbed.calm
  · intro unserved jobId next
    exact keeps jobId next (undisturbed.untouched (framed.phase ▸ unserved) jobId next)
  · intro serving jobId call found owned
    exact keeps jobId _ (undisturbed.ordered (framed.phase ▸ serving) jobId call found
      (owned.trans framed.agentId))
  · intro jobId sent
    refine undisturbed.cancels jobId ?_
    rw [pending]
    rcases sent with queued | yielded
    · rw [outgoing] at queued
      exact .inl (.tail _ queued)
    · rcases List.mem_append.mp yielded with earlier | last
      · exact .inr earlier
      · rw [List.mem_singleton.mp last]
        exact .inl (.head _)

/-- The number of the first frame for its job. -/
theorem Undisturbed.orderly (undisturbed : Undisturbed setting before) {frame : AgentFrame}
    {rest : List AgentFrame} (head : before.toGateway = frame :: rest)
    (serving : (before.gateway.streams setting.stream).phase = .serving) :
    before.gateway.Orderly setting.stream frame := by
  intro jobId number call event registered owned
  have ordered := undisturbed.ordered serving jobId call registered owned
  have carried : Agent.numberFor jobId frame = some number := by
    rw [Agent.numberFor, event]
    exact if_pos rfl
  have unread : before.unread jobId = number :: rest.filterMap (Agent.numberFor jobId) := by
    rw [State.unread, head, List.filterMap_cons_some carried]
  have numbered := ordered.numbered
  rw [unread, List.length_cons, List.range'_succ] at numbered
  exact (List.cons.inj numbered).1

theorem serving_of_read (calm : before.gateway.Calm setting.stream) {frame : AgentFrame}
    {gateway : Gateway.State}
    (stepped : Gateway.step setting.gateway before.gateway (.readFrame setting.stream frame) =
      some gateway) :
    (before.gateway.streams setting.stream).phase = .serving := by
  rcases calm with ⟨_, absent⟩ | ⟨serving, _⟩
  · simp only [Gateway.step, Gateway.State.readFrame, absent] at stepped
    cases stepped
  · exact serving

theorem Undisturbed.read_step (undisturbed : Undisturbed setting before)
    (ran : before.Ran setting) {frame : AgentFrame} {rest : List AgentFrame}
    {gateway : Gateway.State} (head : before.toGateway = frame :: rest)
    (stepped : Gateway.step setting.gateway before.gateway (.readFrame setting.stream frame) =
      some gateway) :
    Undisturbed setting { before with gateway := gateway, toGateway := rest } := by
  have serving := serving_of_read undisturbed.calm stepped
  have orderly := undisturbed.orderly head serving
  have read := Gateway.read_in_order orderly stepped
  have invariant := Gateway.Invariant.reachable ran.gateway
  have served : (before.gateway.streams setting.stream).phase.served = true := by
    rw [serving]
    rfl
  have same := (Gateway.step_stream_move stepped setting.stream).served_kept served
  have phase := (Gateway.phase_of_read stepped).trans serving
  have outstanding : forall jobId,
      ({ before with gateway := gateway, toGateway := rest } : State).outstanding setting jobId =
        before.outstanding setting jobId := by
    intro jobId
    simp only [State.outstanding, State.queued, State.travelling, read.outgoing]
  refine ⟨undisturbed.online, .inr ⟨phase, read.reader⟩, ?_, ?_, ?_⟩
  · intro unserved
    change (gateway.streams setting.stream).phase.served = false at unserved
    rw [phase] at unserved
    cases unserved
  · intro _ jobId call registered owned
    change gateway.jobs.lookup jobId = some call at registered
    rw [read.jobs] at registered
    rcases invariant.opened jobId call registered with ⟨busy, named⟩
    have kept := ((Gateway.step_call_move stepped call).opened_kept busy).2.2.1
    have owner : (before.gateway.calls call).job.agentId = before.agentId setting :=
      (kept.symm.trans owned).trans same.2
    have ordered := undisturbed.ordered serving jobId call registered owner
    cases carried : Agent.numberFor jobId frame with
    | none =>
        have silent : (gateway.calls call).job.nextSequence =
            (before.gateway.calls call).job.nextSequence := by
          refine read.others call fun number other event found => ?_
          have alike : other = jobId := (invariant.opened other call found).2.symm.trans named
          rw [Agent.numberFor, event] at carried
          dsimp only at carried
          rw [if_pos alike] at carried
          cases carried
        change State.Ordered _ _ _ (gateway.calls call).job.nextSequence
        rw [silent]
        refine ordered.mono rfl ?_ (Nat.le_of_eq (outstanding jobId))
        simp only [State.unread, head, List.filterMap_cons_none carried]
    | some number =>
        have event : frame.event? = some (jobId, number) := by
          unfold Agent.numberFor at carried
          split at carried
          · rename_i other given event
            split at carried <;> cases carried
            rename_i alike
            rw [event, alike]
          · cases carried
        have front : before.unread jobId =
            number :: ({ before with gateway := gateway, toGateway := rest } : State).unread
              jobId := by
          simp only [State.unread, head, List.filterMap_cons_some carried]
        rcases ordered.read_step front rfl (Nat.le_of_eq (outstanding jobId)) with
          ⟨expected, later⟩
        have counted := read.expected jobId number call event registered owner
        change State.Ordered _ _ _ (gateway.calls call).job.nextSequence
        rw [counted, expected]
        exact later
  · intro jobId sent
    refine undisturbed.cancels jobId ?_
    rw [read.outgoing] at sent
    exact sent

/-! ### The other tasks of the gateway -/

/-- The state after a task of the gateway that touches neither end of the stream. -/
def State.besides (state : State) (gateway : Gateway.State) (cancelled : List String) : State :=
  { state with gateway := gateway, cancelled := cancelled }

section Besides

variable {action : Gateway.Action} {gateway : Gateway.State} {cancelled : List String}
  {jobId : String} {next : Nat}

theorem State.Ordered.besides (ordered : before.Ordered setting jobId next)
    (fewer : (before.besides gateway cancelled).queued setting jobId ≤
      before.queued setting jobId) :
    (before.besides gateway cancelled).Ordered setting jobId next :=
  ordered.mono rfl rfl (Nat.add_le_add_right (Nat.add_le_add_right fewer _) _)

/-- The requests for an id become more only when it is opened on the stream. -/
theorem queued_of_step
    (stepped : Gateway.step setting.gateway before.gateway action = some gateway)
    (elsewhere : forall call agentId, action.opens? = some (call, agentId, jobId) ->
      before.gateway.sessions.lookup agentId ≠ some setting.stream) :
    (before.besides gateway cancelled).queued setting jobId ≤ before.queued setting jobId := by
  refine Gateway.count_of_step stepped fun task frame put => ?_
  cases put with
  | request call agentId opened frame opens carried connected =>
      rw [Option.any_some]
      refine decide_eq_false fun asked => ?_
      cases carried.symm.trans asked
      exact elsewhere call agentId opens connected
  | cancel => rfl
  | reader frame _ silent =>
      cases frame with
      | none => rfl
      | some given =>
          rw [Option.any_some, asks, silent given rfl]
          rfl

/-- An opening puts at most one request, and only for its own id. -/
theorem queued_of_opening {call target : Nat} {agentId opened : String}
    (opening : Gateway.Opening before.gateway gateway call target agentId opened) :
    (before.besides gateway cancelled).queued setting jobId ≤
      before.queued setting jobId + if jobId = opened then 1 else 0 := by
  change (gateway.outgoing setting.stream).pending.countP _ ≤ _
  by_cases here : setting.stream = target
  · rcases opening.put with same | ⟨frame, carried, put⟩
    · rw [here, same, ← here]
      exact Nat.le_add_right _ _
    · rw [here, put, BoundedQueue.countP_pending_put, Option.any_some, ← here]
      refine Nat.add_le_add_left ?_ _
      by_cases own : jobId = opened
      · rw [if_pos own]
        split <;> omega
      · have other : asks jobId frame = false :=
          decide_eq_false fun asked => own (Option.some.inj (asked.symm.trans carried))
        rw [other]
        exact Nat.zero_le _
  · rw [opening.others setting.stream here]
    exact Nat.le_add_right _ _

/-- A job that is opened when nothing of its id is left. -/
theorem ordered_of_opening {call target : Nat} {agentId : String}
    (opening : Gateway.Opening before.gateway gateway call target agentId jobId)
    (quiet : before.quiet setting jobId = true) :
    (before.besides gateway cancelled).Ordered setting jobId 1 := by
  rcases of_decide_eq_true quiet with ⟨none, unread⟩
  have put : (before.besides gateway cancelled).queued setting jobId ≤
      before.queued setting jobId + if jobId = jobId then 1 else 0 := queued_of_opening opening
  rw [if_pos rfl] at put
  have idle : before.agent.sources jobId = 0 := by
    unfold State.outstanding at none
    omega
  refine ⟨?_, ?_, fun _ => ?_⟩
  · unfold State.outstanding at none ⊢
    change (before.besides gateway cancelled).queued setting jobId + before.travelling jobId +
      before.agent.sources jobId ≤ 1
    omega
  · change before.unread jobId = List.range' 1 (before.unread jobId).length
    rw [unread]
    rfl
  · change before.agent.next jobId = 1 + (before.unread jobId).length
    rw [unread, Agent.next_of_no_source idle]
    rfl

/-- A registered job of the agent expects the same number as before.  The step reads
no frame of the stream, and no other stream of this agent is read. -/
theorem expected_of_step (ran : before.Ran setting)
    (serving : (before.gateway.streams setting.stream).phase = .serving)
    (allowed : action.besides setting.stream = true)
    (stepped : Gateway.step setting.gateway before.gateway action = some gateway) {call : Nat}
    (busy : (before.gateway.calls call).phase ≠ .idle)
    (owned : (before.gateway.calls call).job.agentId = before.agentId setting) :
    (gateway.calls call).job.nextSequence = (before.gateway.calls call).job.nextSequence := by
  rcases Gateway.nextSequence_of_step stepped busy with same | ⟨⟨stream, frame⟩, read, reading, owner⟩
  · exact same
  · have alone : stream = setting.stream :=
      (Gateway.readersServe_of_reachable ran.gateway).unique
        (Gateway.Invariant.reachable ran.gateway) (by rw [reading]; rfl) serving
        (owner.symm.trans owned)
    rw [read] at allowed
    exact absurd alone (of_decide_eq_true allowed)

/-- The jobs of the agent after a task of the gateway, while the stream is served.
A registered job was there before, and no more requests for it are queued, or it
has just been opened, and then the session of the agent is the one of the stream. -/
theorem Undisturbed.ordered_step (undisturbed : Undisturbed setting before)
    (ran : before.Ran setting)
    (serving : (before.gateway.streams setting.stream).phase = .serving)
    (allowed : action.besides setting.stream = true)
    (fresh : OpensFresh setting before (.gateway action))
    (stepped : Gateway.step setting.gateway before.gateway action = some gateway) {call : Nat}
    (found : gateway.jobs.lookup jobId = some call)
    (owned : (gateway.calls call).job.agentId = before.agentId setting) :
    (before.besides gateway cancelled).Ordered setting jobId
      (gateway.calls call).job.nextSequence := by
  have invariant := Gateway.Invariant.reachable ran.gateway
  have earlier : before.gateway.jobs.lookup jobId = some call ->
      (before.besides gateway cancelled).queued setting jobId ≤ before.queued setting jobId ->
      (before.besides gateway cancelled).Ordered setting jobId
        (gateway.calls call).job.nextSequence := by
    intro registered fewer
    have busy := (invariant.opened jobId call registered).1
    have kept := ((Gateway.step_call_move stepped call).opened_kept busy).2.2.1
    have owner := kept.symm.trans owned
    rw [expected_of_step ran serving allowed stepped busy owner]
    exact (undisturbed.ordered serving jobId call registered owner).besides fewer
  cases opens : action.opens? with
  | none =>
      refine earlier (Gateway.lookup_of_silent stepped opens found) (queued_of_step stepped ?_)
      intro other agentId impossible
      cases opens.symm.trans impossible
  | some opened =>
      rcases opened with ⟨caller, agentId, named⟩
      rcases Gateway.opening_of_opens stepped opens with ⟨jobs, outgoing⟩ | ⟨target, decided, opening⟩
      · rw [jobs] at found
        refine earlier found (Nat.le_of_eq ?_)
        change (gateway.outgoing setting.stream).pending.countP _ = _
        rw [outgoing]
        rfl
      · rw [opening.jobs] at found
        by_cases own : jobId = named
        · subst own
          rw [AList.lookup_insert] at found
          cases found
          rw [opening.first]
          have live := invariant.live setting.stream (by rw [serving]; rfl)
          have here : target = setting.stream := by
            have connected := opening.connected
            rw [← opening.agent, owned] at connected
            exact Option.some.inj (connected.symm.trans live)
          refine ordered_of_opening opening ?_
          simp only [OpensFresh, State.opensFresh, decided, decide_eq_true_eq] at fresh
          exact fresh here
        · rw [AList.lookup_insert_ne own] at found
          refine earlier found ?_
          have more : (before.besides gateway cancelled).queued setting jobId ≤
            before.queued setting jobId + if jobId = named then 1 else 0 := queued_of_opening opening
          rw [if_neg own] at more
          exact more

/-- A task of the gateway goes on.  Before the stream is served nothing is opened on
it. -/
theorem Undisturbed.gateway_step (undisturbed : Undisturbed setting before)
    (ran : before.Ran setting) (allowed : action.besides setting.stream = true)
    (fresh : OpensFresh setting before (.gateway action))
    (stepped : Gateway.step setting.gateway before.gateway action = some gateway) :
    Undisturbed setting
      (before.besides gateway (before.cancelled ++ (cancelled? action).toList)) := by
  have invariant := Gateway.Invariant.reachable ran.gateway
  have served := (Gateway.step_stream_move stepped setting.stream).served_kept
  have untouched : (before.gateway.streams setting.stream).phase.served = false ->
      forall jobId next, (before.besides gateway
        (before.cancelled ++ (cancelled? action).toList)).Ordered setting jobId next := by
    intro unserved jobId next
    refine (undisturbed.untouched unserved jobId next).besides (queued_of_step stepped ?_)
    intro call agentId _ connected
    rw [(invariant.registered agentId setting.stream connected).1] at unserved
    cases unserved
  refine ⟨undisturbed.online, ?_, ?_, ?_, ?_⟩
  · by_cases own : action.stream? = some setting.stream
    · exact (undisturbed.calm.own_step own allowed stepped).1
    · exact undisturbed.calm.foreign_step own stepped
  · intro unserved
    refine untouched ?_
    by_contra earlier
    have still := (served (Bool.eq_true_of_not_eq_false earlier)).1
    cases unserved.symm.trans still
  · intro serving jobId call found owned
    rcases undisturbed.calm with ⟨unserved, _⟩ | ⟨earlier, _⟩
    · exact untouched unserved jobId _
    · have same := (served (by rw [earlier]; rfl)).2
      exact undisturbed.ordered_step ran earlier allowed fresh stepped found (owned.trans same)
  · rintro jobId (queued | yielded)
    · have put : some (.cancel jobId) ∈ (before.gateway.outgoing setting.stream).pending ∨
          Exists fun request : Nat => action = .cancel request jobId := by
        by_cases own : action.stream? = some setting.stream
        · exact .inl ((undisturbed.calm.own_step own allowed stepped).2 _ queued)
        · exact Gateway.cancel_of_foreign_step own stepped queued
      rcases put with earlier | ⟨request, asked⟩
      · exact List.mem_append.mpr (.inl (undisturbed.cancels jobId (.inl earlier)))
      · refine List.mem_append.mpr (.inr ?_)
        rw [asked]
        exact .head _
    · exact List.mem_append.mpr (.inl (undisturbed.cancels jobId (.inr yielded)))

end Besides

theorem Undisturbed.step (undisturbed : Undisturbed setting before) (ran : before.Ran setting)
    {action : Action} (fresh : OpensFresh setting before action)
    (move : Move setting before action after) : Undisturbed setting after := by
  cases move with
  | gateway _ _ allowed stepped => exact undisturbed.gateway_step ran allowed fresh stepped
  | yielded _ _ sends stepped => exact undisturbed.yield_step sends stepped
  | read _ _ _ head stepped => exact undisturbed.read_step ran head stepped
  | agent _ _ _ goes stepped => exact undisturbed.agent_step ran goes stepped _
  | received _ _ _ _ head stepped => exact undisturbed.receive_step head stepped _
  | heartbeat unixMillis =>
      refine undisturbed.of_agent rfl rfl rfl undisturbed.online fun jobId next ordered => ?_
      exact ordered.mono rfl ((before.unread_append _).trans (List.append_nil _)) (Nat.le_refl _)

theorem undisturbed_of_reachable {state : State}
    (reached : (machine setting).ReachableUnder (OpensFresh setting) state) :
    Undisturbed setting state := by
  refine reached.invariant ?_ ?_
  · rintro start ⟨earlier, agent, _, connected, rfl⟩
    unfold Agent.State.connect at connected
    split at connected <;> cases connected
    refine ⟨by simp [State.connected], .inl ⟨rfl, rfl⟩, ?_, ?_, ?_⟩
    · exact fun _ jobId next => .of_quiet rfl
    · intro serving
      cases serving
    · rintro jobId (impossible | impossible) <;> cases impossible
  · intro before action after reached undisturbed fresh stepped
    exact undisturbed.step (ran_of_reachable reached) fresh (step_move stepped)

end Steps

/-- In every run in which a job is opened on the stream only when nothing of an
earlier attempt under its id is left: the gateway cancels a job only when this
was asked for, and no frame of the agent makes it report anything of its own. -/
theorem retries_undisturbed (setting : Setting) (state : State)
    (reached : (machine setting).ReachableUnder (OpensFresh setting) state) :
    (forall jobId, .cancel jobId ∈ state.yielded -> jobId ∈ state.cancelled) ∧
      forall after, step setting state .readFrame = some after ->
        forall call delivery, delivery ∈ (after.gateway.queue call).pending ->
          delivery.origin = .gateway ->
          delivery ∈ (state.gateway.queue call).pending := by
  have undisturbed := undisturbed_of_reachable reached
  refine ⟨fun jobId yielded => undisturbed.cancels jobId (.inr yielded), ?_⟩
  intro after stepped call delivery queued made
  have move := step_move stepped
  cases move with
  | read frame rest gateway head moved =>
      have orderly := undisturbed.orderly head (serving_of_read undisturbed.calm moved)
      exact Gateway.no_report_of_orderly orderly moved queued made

/-! ## A retry after its result, and a retry beside its first attempt -/

/-- The operation is dispatched to the agent and begins to run there. -/
def attempt (call : Nat) : List Action :=
  [.gateway (.openKubernetes call "alpha" (Gateway.releaseOf "k8s-1")), .yieldControl, .receive,
    .agent (.admitJob call), .agent (.begin (.sample 0))]

/-- The first attempt runs and reports. -/
def running : List Action :=
  greeting ++ attempt 0 ++ [.agent .launch, .agent (.progress 0 "migration" "started" true),
    .readFrame]

/-- The result of the first attempt is recorded, sent and consumed. -/
def succeeded : List Action :=
  [.agent (.finish 0 (.kubernetes ⟨"succeeded", 2, 1, "", ""⟩)), .agent (.record 0 (.sample 0)),
    .agent (.send 0 true), .agent (.mark 0), .agent (.done 0), .readFrame, .gateway (.deliver 0),
    .gateway (.advance 0), .gateway (.deliver 0), .gateway (.advance 0), .gateway (.finalise 0)]

/-- A retry after the result gets the recorded result again, and cancels nothing. -/
theorem retries_undisturbed_recorded :
    Exists fun state : State => (state.gateway.calls 1).job.nextSequence = 2 ∧
      .cancel "k8s-1" ∉ state.yielded := by
  rcases (machine .sample).exists_reachableUnder_of_replay (OpensFresh .sample)
    (running ++ succeeded ++ attempt 1 ++ [.agent (.answer true), .readFrame]) .sample
    initial_sample
    (fun state => (state.gateway.calls 1).job.nextSequence = 2 ∧ state.cancelled = [])
    (by decide +kernel) with ⟨state, reached, tested⟩
  rcases of_decide_eq_true tested with ⟨answered, nobody⟩
  refine ⟨state, answered, fun cancelled => ?_⟩
  have asked := (retries_undisturbed .sample state reached).1 "k8s-1" cancelled
  rw [nobody] at asked
  cases asked

/-- The consumer of the first attempt gives up and the operation is retried.  The
next frame of the attempt, the second that it numbered, is reported as out of
order, and the gateway cancels the job that still runs; nobody asked for it. -/
theorem retry_disturbs :
    Exists fun state : State => (machine .sample).Reachable state ∧
      .cancel "k8s-1" ∈ state.yielded ∧ state.cancelled = [] ∧
      (state.gateway.queue 1).pending = [.failure .kubernetes "k8s-1" 1 .streamOrder] ∧
      (state.agent.workers 0).phase = .running 3 ∧
      (state.agent.workers 0).cancelled = true := by
  rcases (machine .sample).exists_reachableUnder_of_replay (fun _ _ => True)
    (running ++ [.gateway (.abandon 0), .gateway (.finalise 0),
      .gateway (.openKubernetes 1 "alpha" (Gateway.releaseOf "k8s-1")),
      .agent (.progress 0 "migration" "finished" true), .readFrame, .yieldControl, .yieldControl,
      .receive, .agent (.admitJob 1), .receive]) .sample initial_sample
    (fun state => .cancel "k8s-1" ∈ state.yielded ∧ state.cancelled = [] ∧
      (state.gateway.queue 1).pending = [.failure .kubernetes "k8s-1" 1 .streamOrder] ∧
      (state.agent.workers 0).phase = .running 3 ∧
      (state.agent.workers 0).cancelled = true) (by decide +kernel) with
    ⟨state, reached, tested⟩
  exact ⟨state, reached, of_decide_eq_true tested⟩

end Link
end DjangoOps
