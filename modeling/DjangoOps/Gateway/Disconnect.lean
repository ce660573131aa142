import DjangoOps.Gateway.JobStream
import DjangoOps.Gateway.Slots

namespace DjangoOps
namespace Gateway

open Protocol

/-!
# The end of a session

`_disconnect` removes its session from `_sessions` and takes its snapshot of
`_jobs` in one piece, and `_open_job` looks the session up and registers its
job in one piece.  So the snapshot lists every job of the session that is still
registered, and none of a later session.  The clean-up visits the snapshot one
by one and may be suspended at each job.
-/

/-! ## The clean-up of one stream -/

/-- The session was registered, and its `_disconnect` has removed it. -/
def ConnectPhase.removed : ConnectPhase -> Bool
  | .failing _ => true
  | .failWaiting _ _ => true
  | .ended => true
  | _ => false

/-- The clean-up of no `Connect` call is cancelled.  The `finally` of `Connect` runs
`_disconnect` in the task of the call, so that a second cancellation strikes it. -/
def KeepsCleanup (_ : State) : Action -> Prop
  | .cancelCleanup _ => False
  | _ => True

instance (state : State) (action : Action) : Decidable (KeepsCleanup state action) := by
  unfold KeepsCleanup
  split <;> infer_instance

/-- What a step does to the clean-up of a stream. -/
inductive CleanupMove (before after : State) (stream : Nat) : Action -> Prop
  | same (action : Action) (phase : (after.streams stream).phase = (before.streams stream).phase) :
      CleanupMove before after stream action
  | early (action : Action) (phase : (after.streams stream).phase.removed = false)
      (kept : (before.streams stream).phase.removed = false) :
      CleanupMove before after stream action
  | snapshot (phase : (before.streams stream).phase = .disconnecting)
      (listed : (after.streams stream).phase = .failing before.jobItems)
      (calls : after.calls = before.calls) :
      CleanupMove before after stream (.disconnect stream)
  | skipped (jobId : String) (call : Nat) (remaining : List (String × Nat))
      (phase : (before.streams stream).phase = .failing ((jobId, call) :: remaining))
      (foreign : (before.calls call).job.agentId ≠ (before.streams stream).session.agentId)
      (rest : (after.streams stream).phase = .failing remaining) :
      CleanupMove before after stream (.failNext stream)
  | failed (jobId : String) (call : Nat) (remaining : List (String × Nat)) (delivery : Delivery)
      (phase : (before.streams stream).phase = .failing ((jobId, call) :: remaining))
      (terminal : delivery.isTerminal = true)
      (outcome : ((after.streams stream).phase = .failing remaining ∧
          (after.queue call).items = (before.queue call).items ++ [delivery]) ∨
        (after.streams stream).phase = .failWaiting call remaining)
      (received : (after.calls call).received = (before.calls call).received) :
      CleanupMove before after stream (.failNext stream)
  | resumed (call : Nat) (remaining : List (String × Nat)) (delivery : Delivery)
      (phase : (before.streams stream).phase = .failWaiting call remaining)
      (waiting : (.connect stream, delivery) ∈ (before.queue call).putters)
      (rest : (after.streams stream).phase = .failing remaining)
      (items : (after.queue call).items = (before.queue call).items ++ [delivery])
      (received : (after.calls call).received = (before.calls call).received) :
      CleanupMove before after stream (.failResume stream)
  | ended (phase : (before.streams stream).phase = .failing [])
      (done : (after.streams stream).phase = .ended) :
      CleanupMove before after stream (.failNext stream)

section Cleanup

variable {config : GatewayConfig} {before after : State} {action : Action} {stream : Nat}

theorem State.phase_acceptEvent (state : State) (jobId : String) (sequence : Nat)
    (frame : AgentFrame) :
    ((state.acceptEvent stream jobId sequence frame).streams stream).phase =
      (state.streams stream).phase := by
  unfold State.acceptEvent
  split
  · rfl
  · dsimp only
    split
    · rfl
    · split <;> split
      · exact (State.sessionFrame_setReader _ stream _).phase
      · exact (State.readerPutCancel_own _ stream jobId).1.phase
      · exact (State.sessionFrame_setReader _ stream _).phase
      · rfl

/-- A put of the clean-up on the queue of a job. -/
theorem CleanupMove.fail {jobId : String} {call : Nat} {remaining : List (String × Nat)}
    (phase : (before.streams stream).phase = .failing ((jobId, call) :: remaining))
    {delivery : Delivery} (made : delivery.origin = .gateway)
    (result : after = (before.putJob call (.connect stream) delivery).setConnect stream
      (if before.jobFull call then .failWaiting call remaining else .failing remaining)) :
    CleanupMove before after stream (.failNext stream) := by
  have record : after.calls call =
      { before.calls call with
        job := { (before.calls call).job with
          queue := (before.queue call).put maxJobEvents (.connect stream) delivery } } := by
    rw [result]
    exact before.calls_modifyQueue_self call _
  have position : (after.streams stream).phase =
      if before.jobFull call then .failWaiting call remaining else .failing remaining := by
    rw [result, State.streams_setConnect_self]
  refine .failed jobId call remaining delivery phase (Delivery.isTerminal_of_gateway made) ?_
    (by rw [record])
  by_cases full : before.jobFull call = true
  · rw [if_pos full] at position
    exact .inr position
  · rw [if_neg full] at position
    refine .inl ⟨position, ?_⟩
    rw [State.queue, record]
    exact congrArg BoundedQueue.items (if_neg full)

/-- The steps of a stream whose clean-up is not cancelled. -/
theorem own_cleanup_move (kept : KeepsCleanup before action)
    (own : action.stream? = some stream) (stepped : step config before action = some after) :
    CleanupMove before after stream action := by
  cases action <;> cases own <;> simp only [step] at stepped
  case connect =>
    unfold State.connect at stepped
    split at stepped
    · rename_i idle
      cases stepped
      refine .early _ ?_ (by rw [idle]; rfl)
      rw [State.streams_setConnect_self]
      rfl
    · cases stepped
  case firstFrame =>
    unfold State.firstFrame at stepped
    split at stepped
    · rename_i awaiting
      split at stepped <;> cases stepped <;>
        · refine .early _ ?_ (by rw [awaiting]; rfl)
          rw [State.streams_modifyStream, if_pos rfl]
          rfl
    · cases stepped
  case register =>
    unfold State.register at stepped
    split at stepped
    · rename_i ready
      dsimp only at stepped
      split at stepped <;> cases stepped
      · refine .early _ ?_ (by rw [ready.1]; rfl)
        change (((before.setConnect stream _).streams stream).phase).removed = false
        rw [State.streams_setConnect_self]
        rfl
      · refine .early _ ?_ (by rw [ready.1]; rfl)
        rw [State.streams_modifyStream, if_pos rfl]
        rfl
    · cases stepped
  case abortDone =>
    unfold State.abortDone at stepped
    split at stepped
    · rename_i refusing
      cases stepped
      refine .early _ ?_ (by rw [refusing]; rfl)
      change (((before.setConnect stream _).streams stream).phase).removed = false
      rw [State.streams_setConnect_self]
      rfl
    · cases stepped
  case readFrame frame =>
    unfold State.readFrame at stepped
    split at stepped
    · split at stepped <;> cases stepped
      · exact .same _ rfl
      · exact .same _ (before.phase_acceptEvent _ _ _)
    · cases stepped
  case readerEnds =>
    unfold State.readerEnds at stepped
    split at stepped <;> cases stepped
    exact .same _ (before.readerFinish_own stream).1.phase
  case readerResume =>
    unfold State.readerResume at stepped
    split at stepped
    · rcases Option.map_eq_some_iff.mp stepped with ⟨queue, _, result⟩
      cases result
      exact .same _ (State.sessionFrame_setReader _ stream _).phase
    · rcases Option.map_eq_some_iff.mp stepped with ⟨queue, _, result⟩
      cases result
      exact .same _ (State.readerPutCancel_own _ stream _).1.phase
    · rcases Option.map_eq_some_iff.mp stepped with ⟨queue, _, result⟩
      cases result
      exact .same _ (before.sessionFrame_outgoing stream _ _).phase
    · rcases Option.map_eq_some_iff.mp stepped with ⟨queue, _, result⟩
      cases result
      exact .same _ (before.sessionFrame_outgoing stream _ _).phase
    · cases stepped
  case yieldControl =>
    unfold State.yieldControl at stepped
    split at stepped
    · rename_i serving
      split at stepped
      · cases stepped
      · cases stepped
        exact .same _ (before.frame_modifyOutgoing stream stream _).phase
      · cases stepped
        refine .early _ ?_ (by rw [serving]; rfl)
        rw [State.streams_setConnect_self]
        rfl
    · cases stepped
  case cancelStream =>
    unfold State.cancelStream at stepped
    split at stepped
    · rename_i serving
      cases stepped
      refine .early _ ?_ (by rw [serving]; rfl)
      rw [State.streams_setConnect_self]
      rfl
    · cases stepped
  case closed =>
    unfold State.closed at stepped
    split at stepped
    · rename_i ready
      cases stepped
      refine .early _ ?_ (by rw [ready.1]; rfl)
      rw [State.streams_setConnect_self]
      rfl
    · cases stepped
  case disconnect =>
    unfold State.disconnect at stepped
    split at stepped
    · rename_i ready
      cases stepped
      refine .snapshot ready.1 ?_ rfl
      rw [State.streams_setConnect_self]
    · cases stepped
  case failNext =>
    unfold State.failNext at stepped
    split at stepped
    · rename_i phase
      cases stepped
      refine .ended phase ?_
      rw [State.streams_setConnect_self]
    · rename_i jobId call remaining phase
      dsimp only at stepped
      split at stepped
      · exact .fail phase rfl (Option.some.inj stepped).symm
      · rename_i foreign
        cases stepped
        refine .skipped jobId call remaining phase foreign ?_
        rw [State.streams_setConnect_self]
    · cases stepped
  case failResume =>
    unfold State.failResume at stepped
    split at stepped
    · rename_i call remaining phase
      rcases Option.map_eq_some_iff.mp stepped with ⟨queue, resume, result⟩
      cases result
      rcases BoundedQueue.resume_eq_some resume with ⟨delivery, member, items, _⟩
      have record := before.calls_modifyQueue_self call fun _ => queue
      refine .resumed call remaining delivery phase member ?_ ?_ ?_
      · rw [State.streams_setConnect_self]
      · change ((before.modifyQueue call fun _ => queue).calls call).job.queue.items = _
        rw [record]
        exact items
      · change ((before.modifyQueue call fun _ => queue).calls call).received = _
        rw [record]
    · cases stepped
  case cancelCleanup => exact kept.elim

/-- Every step treats the clean-up of a stream in one of the listed ways. -/
theorem step_cleanup_move (kept : KeepsCleanup before action)
    (stepped : step config before action = some after) (stream : Nat) :
    CleanupMove before after stream action := by
  by_cases own : action.stream? = some stream
  · exact own_cleanup_move kept own stepped
  · refine .same _ ?_
    by_cases foreign : action.stream? = none
    · exact (frame_of_call_step foreign stepped stream).phase
    · rcases Option.ne_none_iff_exists'.mp foreign with ⟨actor, actorEq⟩
      have different : stream ≠ actor := fun same => own (same ▸ actorEq)
      rw [streams_of_stream_step actorEq different stepped]

end Cleanup

/-! ## Jobs and the sessions they were opened on -/

/-- The gateway with a memory of its run: the stream on whose session each job
was opened, and the order in which the sessions were registered. -/
structure Traced where
  gateway : State
  opened : Nat -> Option Nat
  registered : Nat -> Nat
  count : Nat

/-- The stream whose session a step registers. -/
def State.registers (after : State) : Action -> Option Nat
  | .register stream => if (after.streams stream).phase = .serving then some stream else none
  | _ => none

namespace Traced

def initial : Traced :=
  { gateway := .initial, opened := fun _ => none, registered := fun _ => 0, count := 0 }

def noteOpened (traced : Traced) (action : Action) (after : State) : Nat -> Option Nat :=
  match action.opens? with
  | some (call, agentId, _) =>
      if (traced.gateway.calls call).phase = .idle ∧ (after.calls call).phase.holding = true then
        Function.update traced.opened call (traced.gateway.sessions.lookup agentId)
      else traced.opened
  | none => traced.opened

/-- The step of the gateway, which the memory only follows. -/
def step (config : GatewayConfig) (traced : Traced) (action : Action) : Option Traced :=
  (Gateway.step config traced.gateway action).map fun after =>
    { gateway := after
      opened := traced.noteOpened action after
      registered :=
        match after.registers action with
        | some stream => Function.update traced.registered stream (traced.count + 1)
        | none => traced.registered
      count :=
        match after.registers action with
        | some _ => traced.count + 1
        | none => traced.count }

def machine (config : GatewayConfig) : Transition.Machine Traced Action where
  initial := fun traced => traced = .initial
  step := step config

/-- The clean-up of no `Connect` call is cancelled. -/
def KeepsCleanup (traced : Traced) (action : Action) : Prop :=
  Gateway.KeepsCleanup traced.gateway action

instance (traced : Traced) (action : Action) : Decidable (KeepsCleanup traced action) :=
  inferInstanceAs (Decidable (Gateway.KeepsCleanup _ _))

def GatewayReachable (config : GatewayConfig) (traced : Traced) : Prop :=
  (Gateway.machine config).Reachable traced.gateway

theorem gateway_reachable {config : GatewayConfig} {guard : Traced -> Action -> Prop}
    {traced : Traced} (reached : (machine config).ReachableUnder guard traced) :
    traced.GatewayReachable config := by
  refine reached.invariant ?_ ?_
  · rintro start ⟨⟩
    exact .start rfl
  · intro before action after _ inductionHypothesis _ stepped
    rcases Option.map_eq_some_iff.mp stepped with ⟨gateway, moved, rfl⟩
    exact inductionHypothesis.next action trivial moved

end Traced

section Sessions

variable {config : GatewayConfig} {before after : State} {action : Action}

theorem ConnectPhase.live_of_served {phase : ConnectPhase} (served : phase.served = true)
    (present : phase.removed = false) : phase.live = true := by
  cases phase <;> first | rfl | (cases served; done) | cases present

theorem ConnectPhase.served_of_live {phase : ConnectPhase} (live : phase.live = true) :
    phase.served = true ∧ phase.removed = false := by
  cases phase <;> first | exact ⟨rfl, rfl⟩ | cases live

theorem ConnectPhase.served_of_removed {phase : ConnectPhase} (removed : phase.removed = true) :
    phase.served = true := by
  cases phase <;> first | rfl | cases removed

theorem ConnectPhase.removed_of_remaining {phase : ConnectPhase} {item : String × Nat}
    (listed : item ∈ phase.remaining) : phase.removed = true := by
  cases phase <;> first | rfl | cases listed

/-- A step that registers a session finds none of its agent. -/
theorem registering_of_registers {stream : Nat}
    (stepped : step config before action = some after)
    (registers : after.registers action = some stream) :
    action = .register stream ∧ (before.streams stream).phase.served = false ∧
      (before.streams stream).session.agentId ∉ before.sessions ∧
      (after.streams stream).session.agentId = (before.streams stream).session.agentId := by
  cases action with
  | register own =>
      unfold State.registers at registers
      dsimp only at registers
      split at registers
      · rename_i serving
        cases registers
        simp only [step, State.register] at stepped
        split at stepped
        · rename_i ready
          split at stepped
          · cases stepped
            change ((before.setConnect stream .refusing).streams stream).phase = _ at serving
            rw [State.streams_setConnect_self] at serving
            cases serving
          · rename_i fresh
            cases stepped
            refine ⟨rfl, by rw [ready.1]; rfl, fresh, ?_⟩
            rw [State.streams_modifyStream, if_pos rfl]
        · cases stepped
      · cases registers
  | _ => cases registers

/-- A session that is registered after a step was so before, or the step
registers it. -/
theorem served_of_step (stepped : step config before action = some after) {stream : Nat}
    (served : (after.streams stream).phase.served = true) :
    (before.streams stream).phase.served = true ∨ after.registers action = some stream := by
  have move := step_stream_move stepped stream
  generalize recordOf : after.streams stream = record at served move
  cases move with
  | framed _ _ frame => exact .inl (frame.phase ▸ served)
  | registered =>
      right
      unfold State.registers
      dsimp only
      rw [recordOf, if_pos rfl]
  | readerPut _ _ _ _ _ _ _ frame => exact .inl (frame.phase ▸ served)
  | readerMoved _ _ _ _ frame => exact .inl (frame.phase ▸ served)
  | stopped _ _ _ phases =>
      left
      rcases phases with ⟨phase, _⟩ | ⟨phase, _⟩ <;> rw [phase] <;> rfl
  | closed phase => exact .inl (by rw [phase]; rfl)
  | snapshot phase => exact .inl (by rw [phase]; rfl)
  | failed _ _ _ phase => exact .inl (by rw [phase]; rfl)
  | failWaits _ _ _ phase => exact .inl (by rw [phase]; rfl)
  | failResumed _ _ phase => exact .inl (by rw [phase]; rfl)
  | ended _ _ phase =>
      left
      rcases phase with phase | ⟨_, phase⟩ | ⟨_, phase⟩ <;> rw [phase] <;> rfl
  | _ => cases served

/-- `_disconnect` leaves no entry of its own session. -/
theorem lookup_of_disconnect {stream : Nat} {agentId : String}
    (invariant : Invariant config before)
    (stepped : step config before (.disconnect stream) = some after) :
    after.sessions.lookup agentId ≠ some stream := by
  intro found
  simp only [step, State.disconnect] at stepped
  split at stepped
  · cases stepped
    change AList.lookup agentId (if _ then _ else _ : AList fun _ : String => Nat) = _ at found
    split at found
    · by_cases own : agentId = (before.streams stream).session.agentId
      · rw [own, AList.lookup_erase] at found
        cases found
      · rw [AList.lookup_erase_ne own] at found
        exact own (invariant.registered agentId stream found).2.symm
    · rename_i foreign
      refine foreign ?_
      rw [(invariant.registered agentId stream found).2]
      exact found
  · cases stepped

/-- What has entered the queue of an open job stays there or is received. -/
theorem CallMove.queued_kept {call : Nat} {record : Call}
    (move : CallMove before call action record) (busy : (before.calls call).phase ≠ .idle) :
    Exists fun more : List Delivery => record.queued = (before.calls call).queued ++ more := by
  have put : forall (task : Task) (item : Delivery),
      Exists fun more : List Delivery =>
        (before.calls call).received ++ ((before.queue call).put maxJobEvents task item).items =
          (before.calls call).queued ++ more := by
    intro task item
    rcases (before.queue call).put_cases maxJobEvents task item with suspended | queued
    · rw [suspended]
      exact ⟨[], (List.append_nil _).symm⟩
    · rw [queued]
      exact ⟨[item], (List.append_assoc _ _ _).symm⟩
  have unchanged : Exists fun more : List Delivery =>
      (before.calls call).queued = (before.calls call).queued ++ more :=
    ⟨[], (List.append_nil _).symm⟩
  cases move with
  | opened _ _ _ _ _ _ idle => exact absurd idle busy
  | accepted => exact put _ _
  | disordered => exact put _ _
  | failed => exact put _ _
  | admitted _ _ _ resume =>
      rcases BoundedQueue.resume_eq_some resume with ⟨item, _, items, _⟩
      refine ⟨[item], ?_⟩
      change (before.calls call).received ++ _ = _
      rw [items]
      exact (List.append_assoc _ _ _).symm
  | delivered delivery rest _ taken =>
      refine ⟨[], ?_⟩
      change ((before.calls call).received ++ [delivery]) ++ rest.items =
        ((before.calls call).received ++ (before.queue call).items) ++ []
      rw [BoundedQueue.items_get taken, List.append_assoc, List.append_nil]
      rfl
  | _ => exact unchanged

theorem settled_kept (stepped : step config before action = some after) {call : Nat}
    (busy : (before.calls call).phase ≠ .idle) (settled : before.settled call = true) :
    after.settled call = true := by
  rcases (step_call_move stepped call).queued_kept busy with ⟨more, queued⟩
  unfold State.settled at settled ⊢
  rw [queued, List.any_append, settled, Bool.true_or]

theorem settled_of_item {state : State} {call : Nat} {delivery : Delivery}
    (listed : delivery ∈ (state.queue call).items) (terminal : delivery.isTerminal = true) :
    state.settled call = true :=
  List.any_eq_true.mpr ⟨delivery, List.mem_append.mpr (.inr listed), terminal⟩

/-- The frames that `_disconnect` waits with are terminal. -/
def State.FailsTerminally (state : State) : Prop :=
  forall call stream delivery, (.connect stream, delivery) ∈ (state.queue call).putters ->
    delivery.isTerminal = true

theorem State.FailsTerminally.step (terminal : before.FailsTerminally)
    (stepped : Gateway.step config before action = some after) : after.FailsTerminally := by
  intro call stream delivery waiting
  have move := step_call_move stepped call
  unfold State.queue at waiting
  generalize after.calls call = record at waiting move
  have put : forall (task : Task) (item : Delivery),
      (Task.connect stream, delivery) ∈ ((before.queue call).put maxJobEvents task item).putters ->
        delivery.isTerminal = true ∨ (task = .connect stream ∧ item = delivery) := by
    intro task item member
    rcases (before.queue call).put_cases maxJobEvents task item with suspended | queued
    · rw [suspended] at member
      rcases List.mem_append.mp member with earlier | new
      · exact .inl (terminal call stream delivery earlier)
      · cases List.mem_singleton.mp new
        exact .inr ⟨rfl, rfl⟩
    · rw [queued] at member
      exact .inl (terminal call stream delivery member)
  cases move with
  | opened => cases waiting
  | accepted =>
      rcases put _ _ waiting with known | ⟨impossible, _⟩
      · exact known
      · cases impossible
  | disordered =>
      rcases put _ _ waiting with known | ⟨impossible, _⟩
      · exact known
      · cases impossible
  | failed =>
      rcases put _ _ waiting with known | ⟨_, rfl⟩
      · exact known
      · exact Delivery.isTerminal_of_gateway rfl
  | admitted _ _ _ resume =>
      rcases BoundedQueue.resume_eq_some resume with ⟨_, _, _, putters⟩
      change _ ∈ BoundedQueue.putters _ at waiting
      rw [putters] at waiting
      exact terminal call stream delivery (List.mem_of_mem_filter waiting)
  | withdrawn => exact terminal call stream delivery (List.mem_of_mem_filter waiting)
  | delivered _ _ _ taken =>
      change _ ∈ BoundedQueue.putters _ at waiting
      rw [BoundedQueue.putters_get taken] at waiting
      exact terminal call stream delivery waiting
  | _ => exact terminal call stream delivery waiting

end Sessions

/-- A registered job is in the snapshot. -/
theorem mem_jobItems_of_lookup {state : State} {jobId : String} {call : Nat}
    (registered : state.jobs.lookup jobId = some call) : (jobId, call) ∈ state.jobItems :=
  List.mem_reverse.mpr
    (List.mem_map.mpr ⟨⟨jobId, call⟩, AList.mem_lookup_iff.mp registered, rfl⟩)

/-! ## The invariant -/

/-- What ties the jobs to the sessions they were opened on. -/
structure Dated (traced : Traced) : Prop where
  live : forall agentId stream, traced.gateway.sessions.lookup agentId = some stream ->
    (traced.gateway.streams stream).phase.live = true
  bound : forall stream, traced.registered stream ≤ traced.count
  opened : forall call stream, traced.opened call = some stream ->
    (traced.gateway.calls call).phase ≠ .idle ∧
      (traced.gateway.streams stream).phase.served = true ∧
      (traced.gateway.calls call).job.agentId =
        (traced.gateway.streams stream).session.agentId
  known : forall call, (traced.gateway.calls call).phase.holding = true ->
    Exists fun stream : Nat => traced.opened call = some stream
  listed : forall stream item, item ∈ (traced.gateway.streams stream).phase.remaining ->
    Exists fun opener : Nat => traced.opened item.2 = some opener
  newest : forall stream other, (traced.gateway.streams stream).phase.live = true ->
    (traced.gateway.streams other).phase.served = true ->
    (traced.gateway.streams other).session.agentId =
      (traced.gateway.streams stream).session.agentId ->
    traced.registered other ≤ traced.registered stream
  order : forall stream item, item ∈ (traced.gateway.streams stream).phase.remaining ->
    (traced.gateway.calls item.2).job.agentId =
      (traced.gateway.streams stream).session.agentId ->
    forall opener, traced.opened item.2 = some opener ->
      traced.registered opener ≤ traced.registered stream
  terminal : traced.gateway.FailsTerminally
  reached : forall stream call, (traced.gateway.streams stream).phase.removed = true ->
    traced.opened call = some stream -> (traced.gateway.calls call).phase.holding = true ->
      traced.gateway.settled call = true ∨
        (Exists fun jobId : String =>
          (jobId, call) ∈ (traced.gateway.streams stream).phase.remaining) ∨
        Exists fun remaining : List (String × Nat) =>
          (traced.gateway.streams stream).phase = .failWaiting call remaining

theorem Dated.initial : Dated .initial where
  live := fun _ _ impossible => nomatch impossible
  bound := fun _ => Nat.le_refl _
  opened := fun _ _ impossible => nomatch impossible
  known := fun _ impossible => nomatch impossible
  listed := fun _ _ impossible => nomatch impossible
  newest := fun _ _ impossible => nomatch impossible
  order := fun _ _ impossible => nomatch impossible
  terminal := fun _ _ _ impossible => nomatch impossible
  reached := fun _ _ impossible => nomatch impossible

section Dates

variable {config : GatewayConfig} {traced : Traced} {after : State} {action : Action}

/-- The state of the memory after a step of the gateway. -/
def Traced.follow (traced : Traced) (action : Action) (after : State) : Traced :=
  { gateway := after
    opened := traced.noteOpened action after
    registered :=
      match after.registers action with
      | some stream => Function.update traced.registered stream (traced.count + 1)
      | none => traced.registered
    count :=
      match after.registers action with
      | some _ => traced.count + 1
      | none => traced.count }

/-- The order number of a session that was registered before the step. -/
theorem registered_follow (stepped : step config traced.gateway action = some after)
    {stream : Nat} (served : (traced.gateway.streams stream).phase.served = true) :
    (traced.follow action after).registered stream = traced.registered stream := by
  unfold Traced.follow
  cases registers : after.registers action with
  | none => rfl
  | some own =>
      have different : stream ≠ own := by
        rintro rfl
        rw [(registering_of_registers stepped registers).2.1] at served
        cases served
      exact Function.update_of_ne different _ _

theorem Dated.bound_step (dated : Dated traced) (stream : Nat) :
    (traced.follow action after).registered stream ≤ (traced.follow action after).count := by
  unfold Traced.follow
  have earlier := dated.bound stream
  cases registers : after.registers action with
  | none => exact earlier
  | some own =>
      by_cases same : stream = own
      · subst same
        exact Nat.le_of_eq (Function.update_self _ _ _)
      · refine Nat.le_trans (Nat.le_of_eq (Function.update_of_ne same _ _)) ?_
        exact Nat.le_trans earlier (Nat.le_succ _)

/-- A job that a step opens belongs to the agent that it was opened for. -/
theorem agent_of_opens {before : State} {call : Nat} {agentId jobId : String}
    (stepped : step config before action = some after)
    (opens : action.opens? = some (call, agentId, jobId))
    (idle : (before.calls call).phase = .idle)
    (holding : (after.calls call).phase.holding = true) :
    (after.calls call).job.agentId = agentId := by
  have move := step_call_move stepped call
  generalize after.calls call = record at holding move
  have unmoved : (before.calls call).phase.holding = true -> False := by
    rw [idle]
    exact nofun
  cases move with
  | opened _ _ _ _ _ recordOpens =>
      rw [opens] at recordOpens
      cases recordOpens
      rfl
  | refused => cases holding
  | requested _ phase =>
      rw [idle] at phase
      cases phase
  | delivered _ _ phase =>
      rw [idle] at phase
      cases phase
  | advanced _ phase =>
      rw [idle] at phase
      cases phase
  | abandoned _ busy => exact absurd idle busy
  | finished _ phase =>
      rw [idle] at phase
      cases phase
  | _ => exact (unmoved holding).elim

/-- A job keeps its session, or is opened by the step. -/
theorem opened_follow (stepped : step config traced.gateway action = some after)
    {call stream : Nat} (opened : (traced.follow action after).opened call = some stream) :
    traced.opened call = some stream ∨
      (action.stream? = none ∧ (traced.gateway.calls call).phase = .idle ∧
        (after.calls call).phase ≠ .idle ∧
        traced.gateway.sessions.lookup (after.calls call).job.agentId = some stream) := by
  change traced.noteOpened action after call = some stream at opened
  unfold Traced.noteOpened at opened
  cases opens : action.opens? with
  | none =>
      simp only [opens] at opened
      exact .inl opened
  | some record =>
      simp only [opens] at opened
      split at opened
      · rename_i fresh
        by_cases same : call = record.1
        · subst same
          rw [Function.update_self] at opened
          refine .inr ⟨stream_of_opens opens, fresh.1, ?_, ?_⟩
          · intro impossible
            rw [impossible] at fresh
            cases fresh.2
          · rw [agent_of_opens stepped opens fresh.1 fresh.2]
            exact opened
        · rw [Function.update_of_ne same] at opened
          exact .inl opened
      · exact .inl opened

theorem Dated.opened_step (dated : Dated traced) (invariant : Invariant config traced.gateway)
    (stepped : step config traced.gateway action = some after) (call stream : Nat)
    (opened : (traced.follow action after).opened call = some stream) :
    (after.calls call).phase ≠ .idle ∧ (after.streams stream).phase.served = true ∧
      (after.calls call).job.agentId = (after.streams stream).session.agentId := by
  rcases opened_follow stepped opened with earlier | ⟨foreign, _, busy, found⟩
  · rcases dated.opened call stream earlier with ⟨busy, served, agent⟩
    rcases (step_call_move stepped call).opened_kept busy with ⟨still, _, same, _⟩
    rcases (step_stream_move stepped stream).served_kept served with ⟨stays, name⟩
    exact ⟨still, stays, same.trans (agent.trans name.symm)⟩
  · rcases invariant.registered _ stream found with ⟨served, agent⟩
    rcases (step_stream_move stepped stream).served_kept served with ⟨stays, name⟩
    exact ⟨busy, stays, agent.symm.trans name.symm⟩

/-- A generator that holds its job after a step and was called before it held
the job before, too. -/
theorem holding_of_step {before : State} {call : Nat}
    (stepped : step config before action = some after)
    (busy : (before.calls call).phase ≠ .idle)
    (holding : (after.calls call).phase.holding = true) :
    (before.calls call).phase.holding = true := by
  cases step_slot_move stepped with
  | kept _ calls => exact (calls call).1.symm.trans holding
  | opened opener _ _ _ idle _ _ _ others =>
      have different : call ≠ opener := fun same => busy (same ▸ idle)
      exact others call different ▸ holding
  | removed remover _ _ ended _ others =>
      have different : call ≠ remover := by
        rintro rfl
        rw [holding] at ended
        cases ended
      exact others call different ▸ holding

/-- The generators that hold a job are as many as before, or the step opens one
on a registered session. -/
theorem lookup_of_opening {before : State} {call : Nat} (slotted : before.Slotted)
    (slottedAfter : after.Slotted) (stepped : step config before action = some after)
    (idle : (before.calls call).phase = .idle)
    (holding : (after.calls call).phase.holding = true) :
    Exists fun record : String × String × Nat =>
      action.opens? = some (call, record.1, record.2.1) ∧
        before.sessions.lookup record.1 = some record.2.2 := by
  have registered := (slottedAfter _ call).mpr ⟨holding, rfl⟩
  rcases lookup_job_step stepped registered with found | ⟨_, _, agentId, _, stream, accepted, opens⟩
  · have held := ((slotted _ call).mp found).1
    rw [idle] at held
    cases held
  · exact ⟨(agentId, _, stream), opens, before.lookup_of_openJob accepted⟩

/-- A job never changes its session. -/
theorem opened_kept_follow {call stream : Nat} (busy : (traced.gateway.calls call).phase ≠ .idle)
    (opened : traced.opened call = some stream) :
    (traced.follow action after).opened call = some stream := by
  change traced.noteOpened action after call = some stream
  unfold Traced.noteOpened
  cases action.opens? with
  | none => exact opened
  | some record =>
      dsimp only
      split
      · rename_i fresh
        have different : call ≠ record.1 := by
          rintro rfl
          exact busy fresh.1
        rw [Function.update_of_ne different]
        exact opened
      · exact opened

theorem Dated.known_step (dated : Dated traced) (slotted : traced.gateway.Slotted)
    (stepped : step config traced.gateway action = some after) (call : Nat)
    (holding : (after.calls call).phase.holding = true) :
    Exists fun stream : Nat => (traced.follow action after).opened call = some stream := by
  by_cases idle : (traced.gateway.calls call).phase = .idle
  · rcases lookup_of_opening slotted (slotted.step stepped) stepped idle holding with
      ⟨⟨agentId, jobId, stream⟩, opens, found⟩
    refine ⟨stream, ?_⟩
    change traced.noteOpened action after call = some stream
    unfold Traced.noteOpened
    simp only [opens]
    rw [if_pos ⟨idle, holding⟩, Function.update_self]
    exact found
  · rcases dated.known call (holding_of_step stepped idle holding) with ⟨stream, opened⟩
    exact ⟨stream, opened_kept_follow idle opened⟩

theorem Dated.live_step (dated : Dated traced) (invariant : Invariant config traced.gateway)
    (kept : KeepsCleanup traced.gateway action)
    (stepped : step config traced.gateway action = some after) (agentId : String) (stream : Nat)
    (found : after.sessions.lookup agentId = some stream) :
    (after.streams stream).phase.live = true := by
  have served := ((invariant.step stepped).registered agentId stream found).1
  have earlier : traced.gateway.sessions.lookup agentId = some stream ∨
      after.registers action = some stream := by
    rcases lookup_session_step stepped found with known | ⟨_, registering, _, _⟩
    · exact .inl known
    · refine (served_of_step stepped served).resolve_left ?_ |> .inr
      rw [registering]
      exact nofun
  rcases earlier with known | registers
  · have live := dated.live agentId stream known
    have present := (ConnectPhase.served_of_live live).2
    cases step_cleanup_move kept stepped stream with
    | same _ phase =>
        rw [phase]
        exact live
    | early _ phase => exact ConnectPhase.live_of_served served phase
    | snapshot => exact absurd found (lookup_of_disconnect invariant stepped)
    | skipped _ _ _ phase => rw [phase] at present; cases present
    | failed _ _ _ _ phase => rw [phase] at present; cases present
    | resumed _ _ _ phase => rw [phase] at present; cases present
    | ended phase => rw [phase] at present; cases present
  · rcases registering_of_registers stepped registers with ⟨rfl, _⟩
    have serving : (after.streams stream).phase = .serving := by
      unfold State.registers at registers
      dsimp only at registers
      split at registers
      · assumption
      · cases registers
    rw [serving]
    rfl

theorem Dated.newest_step (dated : Dated traced) (invariant : Invariant config traced.gateway)
    (stepped : step config traced.gateway action = some after) (stream other : Nat)
    (live : (after.streams stream).phase.live = true)
    (served : (after.streams other).phase.served = true)
    (same : (after.streams other).session.agentId = (after.streams stream).session.agentId) :
    (traced.follow action after).registered other ≤
      (traced.follow action after).registered stream := by
  rcases (step_stream_move stepped stream).live_kept live with ⟨name, earlier | now⟩
  · rcases served_of_step stepped served with known | registers
    · have otherName := ((step_stream_move stepped other).served_kept known).2
      rw [registered_follow stepped known,
        registered_follow stepped (ConnectPhase.served_of_live earlier).1]
      exact dated.newest stream other earlier known (otherName.symm.trans (same.trans name))
    · rcases registering_of_registers stepped registers with ⟨_, _, fresh, otherName⟩
      have found := invariant.live stream earlier
      rw [← otherName, same, name] at fresh
      exact absurd (AList.lookup_isSome.mp (by rw [found]; rfl)) fresh
  · rcases now with ⟨isRegister, registering, _⟩
    have registers := (served_of_step stepped (ConnectPhase.served_of_live live).1).resolve_left
      (by rw [registering]; exact nofun)
    have newest : (traced.follow action after).registered stream =
        (traced.follow action after).count := by
      unfold Traced.follow
      simp only [registers]
      exact Function.update_self _ _ _
    rw [newest]
    exact dated.bound_step other

/-- The jobs still to be visited were so before, or are those of the snapshot. -/
theorem CleanupMove.remaining {before : State} {stream : Nat} {item : String × Nat}
    (move : CleanupMove before after stream action)
    (listed : item ∈ (after.streams stream).phase.remaining) :
    item ∈ (before.streams stream).phase.remaining ∨
      (action = .disconnect stream ∧ (before.streams stream).phase = .disconnecting ∧
        item ∈ before.jobItems) := by
  cases move with
  | same _ phase => exact .inl (phase ▸ listed)
  | early _ phase =>
      rw [ConnectPhase.removed_of_remaining listed] at phase
      cases phase
  | snapshot phase all =>
      rw [all] at listed
      exact .inr ⟨rfl, phase, listed⟩
  | skipped _ _ _ phase _ rest =>
      rw [rest] at listed
      exact .inl (by rw [phase]; exact .tail _ listed)
  | failed _ _ _ _ phase _ outcome =>
      refine .inl ?_
      rw [phase]
      rcases outcome with ⟨rest, _⟩ | waits
      · rw [rest] at listed
        exact .tail _ listed
      · rw [waits] at listed
        exact .tail _ listed
  | resumed _ _ _ phase _ rest =>
      rw [rest] at listed
      exact .inl (by rw [phase]; exact listed)
  | ended _ done =>
      rw [done] at listed
      cases listed

/-- A job that the clean-up still has to visit was opened before it. -/
theorem Dated.listed_step (dated : Dated traced)
    (slotted : traced.gateway.Slotted) (kept : KeepsCleanup traced.gateway action)
    (stepped : step config traced.gateway action = some after) (stream : Nat)
    (item : String × Nat) (listed : item ∈ (after.streams stream).phase.remaining) :
    Exists fun opener : Nat => traced.opened item.2 = some opener ∧
      (traced.follow action after).opened item.2 = some opener := by
  have cleanup := step_cleanup_move kept stepped stream
  have opened : Exists fun opener : Nat => traced.opened item.2 = some opener := by
    rcases cleanup.remaining listed with earlier | snapshot
    · exact dated.listed stream item earlier
    · exact dated.known item.2 ((slotted item.1 item.2).mp (lookup_of_mem_jobItems snapshot.2.2)).1
  rcases opened with ⟨opener, opened⟩
  exact ⟨opener, opened, opened_kept_follow (dated.opened item.2 opener opened).1 opened⟩

/-- The clean-up meets no job of a later session. -/
theorem Dated.order_step (dated : Dated traced)
    (slotted : traced.gateway.Slotted) (kept : KeepsCleanup traced.gateway action)
    (stepped : step config traced.gateway action = some after) (stream : Nat)
    (item : String × Nat) (listed : item ∈ (after.streams stream).phase.remaining)
    (agent : (after.calls item.2).job.agentId = (after.streams stream).session.agentId)
    (opener : Nat) (opened : (traced.follow action after).opened item.2 = some opener) :
    (traced.follow action after).registered opener ≤
      (traced.follow action after).registered stream := by
  have cleanup := step_cleanup_move kept stepped stream
  have served : (traced.gateway.streams stream).phase.served = true := by
    rcases cleanup.remaining listed with earlier | ⟨_, phase, _⟩
    · exact ConnectPhase.served_of_removed (ConnectPhase.removed_of_remaining earlier)
    · rw [phase]
      rfl
  have known : traced.opened item.2 = some opener := by
    rcases dated.listed_step slotted kept stepped stream item listed with
      ⟨same, earlier, now⟩
    rw [opened] at now
    cases now
    exact earlier
  rcases dated.opened item.2 opener known with ⟨busy, openerServed, _⟩
  rw [registered_follow stepped openerServed, registered_follow stepped served]
  have name := ((step_stream_move stepped stream).served_kept served).2
  have owner := ((step_call_move stepped item.2).opened_kept busy).2.2.1
  have same : (traced.gateway.calls item.2).job.agentId =
      (traced.gateway.streams stream).session.agentId := owner.symm.trans (agent.trans name)
  rcases cleanup.remaining listed with earlier | ⟨_, phase, _⟩
  · exact dated.order stream item earlier same opener known
  · refine dated.newest stream opener (by rw [phase]; rfl) openerServed ?_
    rw [← same]
    exact (dated.opened item.2 opener known).2.2.symm

/-- The clean-up passes no job of its session by, since a job is opened on a
registered session only, and the clean-up starts by removing the session. -/
theorem Dated.reached_step (dated : Dated traced)
    (slotted : traced.gateway.Slotted) (kept : KeepsCleanup traced.gateway action)
    (stepped : step config traced.gateway action = some after) (stream call : Nat)
    (removed : (after.streams stream).phase.removed = true)
    (opened : (traced.follow action after).opened call = some stream)
    (holding : (after.calls call).phase.holding = true) :
    after.settled call = true ∨
      (Exists fun jobId : String => (jobId, call) ∈ (after.streams stream).phase.remaining) ∨
      Exists fun remaining : List (String × Nat) =>
        (after.streams stream).phase = .failWaiting call remaining := by
  have known : traced.opened call = some stream := by
    rcases opened_follow stepped opened with known | ⟨foreign, _, _, found⟩
    · exact known
    · rw [(frame_of_call_step foreign stepped stream).phase] at removed
      rw [(ConnectPhase.served_of_live (dated.live _ stream found)).2] at removed
      cases removed
  rcases dated.opened call stream known with ⟨busy, _, agent⟩
  have held := holding_of_step stepped busy holding
  have earlier : (traced.gateway.streams stream).phase.removed = true ->
      after.settled call = true ∨
        (Exists fun jobId : String =>
          (jobId, call) ∈ (traced.gateway.streams stream).phase.remaining) ∨
        Exists fun remaining : List (String × Nat) =>
          (traced.gateway.streams stream).phase = .failWaiting call remaining := by
    intro gone
    rcases dated.reached stream call gone known held with settled | waiting
    · exact .inl (settled_kept stepped busy settled)
    · exact .inr waiting
  cases step_cleanup_move kept stepped stream with
  | same _ phase =>
      rw [phase] at removed ⊢
      exact earlier removed
  | early _ phase =>
      rw [phase] at removed
      cases removed
  | snapshot _ listed =>
      have registered := (slotted _ call).mpr ⟨held, rfl⟩
      refine .inr (.inl ⟨(traced.gateway.calls call).jobId, ?_⟩)
      rw [listed]
      exact mem_jobItems_of_lookup registered
  | skipped jobId other remaining phase foreign rest =>
      rw [phase] at earlier
      rcases earlier rfl with settled | ⟨name, listed⟩ | ⟨_, impossible⟩
      · exact .inl settled
      · rcases List.mem_cons.mp listed with head | tail
        · cases head
          exact absurd agent foreign
        · exact .inr (.inl ⟨name, by rw [rest]; exact tail⟩)
      · cases impossible
  | failed jobId other remaining delivery phase terminal outcome =>
      rw [phase] at earlier
      rcases earlier rfl with settled | ⟨name, listed⟩ | ⟨_, impossible⟩
      · exact .inl settled
      · rcases List.mem_cons.mp listed with head | tail
        · cases head
          rcases outcome with ⟨_, items⟩ | waits
          · refine .inl (settled_of_item ?_ terminal)
            rw [items]
            exact List.mem_append.mpr (.inr (List.mem_singleton_self _))
          · exact .inr (.inr ⟨remaining, waits⟩)
        · refine .inr (.inl ⟨name, ?_⟩)
          rcases outcome with ⟨rest, _⟩ | waits
          · rw [rest]
            exact tail
          · rw [waits]
            exact tail
      · cases impossible
  | resumed other remaining delivery phase waiting rest items =>
      rw [phase] at earlier
      rcases earlier rfl with settled | ⟨name, listed⟩ | ⟨_, same⟩
      · exact .inl settled
      · exact .inr (.inl ⟨name, by rw [rest]; exact listed⟩)
      · cases same
        refine .inl (settled_of_item ?_ (dated.terminal call stream delivery waiting))
        rw [items]
        exact List.mem_append.mpr (.inr (List.mem_singleton_self _))
  | ended phase =>
      rw [phase] at earlier
      rcases earlier rfl with settled | ⟨_, impossible⟩ | ⟨_, impossible⟩
      · exact .inl settled
      · cases impossible
      · cases impossible

theorem Dated.step (dated : Dated traced) (invariant : Invariant config traced.gateway)
    (slotted : traced.gateway.Slotted) (kept : Gateway.KeepsCleanup traced.gateway action)
    (stepped : Gateway.step config traced.gateway action = some after) :
    Dated (traced.follow action after) where
  live := dated.live_step invariant kept stepped
  bound := dated.bound_step
  opened := dated.opened_step invariant stepped
  known := dated.known_step slotted stepped
  listed := fun stream item listed =>
    (dated.listed_step slotted kept stepped stream item listed).imp fun _ => And.right
  newest := dated.newest_step invariant stepped
  order := dated.order_step slotted kept stepped
  terminal := dated.terminal.step stepped
  reached := dated.reached_step slotted kept stepped

end Dates

theorem dated_of_reachable {config : GatewayConfig} {traced : Traced}
    (reached : (Traced.machine config).ReachableUnder Traced.KeepsCleanup traced) :
    Dated traced := by
  refine reached.invariant ?_ ?_
  · rintro start ⟨⟩
    exact .initial
  · intro before action after earlier dated kept stepped
    rcases Option.map_eq_some_iff.mp stepped with ⟨gateway, moved, rfl⟩
    have reachable := Traced.gateway_reachable earlier
    exact dated.step (.reachable reachable) (slotted_of_reachable reachable) kept moved

/-! ## Disconnect reaches every job -/

/-- In every run whose clean-ups are not cancelled: when the clean-up of a
session has finished, every job opened on it whose consumer has not finished
has received or queued a terminal frame; from the critical section of
`_disconnect` on, no job is opened on the session; and the clean-up fails no
job of a session that was registered after its own. -/
theorem disconnect_reaches_jobs (config : GatewayConfig) (traced : Traced)
    (reached : (Traced.machine config).ReachableUnder Traced.KeepsCleanup traced) :
    (forall call stream, traced.opened call = some stream ->
      (traced.gateway.streams stream).phase = .ended ->
      (traced.gateway.calls call).phase.unfinished = true ->
      traced.gateway.settled call = true) ∧
    (forall stream agentId jobId reuse, (traced.gateway.streams stream).phase.removed = true ->
      traced.gateway.openJob config agentId jobId reuse ≠ .ok stream) ∧
    (forall stream call after, step config traced.gateway (.failNext stream) = some after ->
      traced.gateway.offer? (.failNext stream) = some (call, false) ->
      Exists fun opener : Nat => traced.opened call = some opener ∧
        traced.registered opener ≤ traced.registered stream) := by
  have dated := dated_of_reachable reached
  refine ⟨?_, ?_, ?_⟩
  · intro call stream opened phase unfinished
    have holding := CallPhase.holding_of_unfinished unfinished
    rcases dated.reached stream call (by rw [phase]; rfl) opened holding with
      settled | ⟨_, listed⟩ | ⟨_, waits⟩
    · exact settled
    · rw [phase] at listed
      cases listed
    · rw [phase] at waits
      cases waits
  · intro stream agentId jobId reuse removed accepted
    have live := dated.live agentId stream (traced.gateway.lookup_of_openJob accepted)
    rw [(ConnectPhase.served_of_live live).2] at removed
    cases removed
  · intro stream call after _ offered
    unfold State.offer? at offered
    dsimp only at offered
    split at offered
    · rename_i jobId target remaining phase
      split at offered
      · rename_i agent
        cases offered
        have listed : (jobId, call) ∈ (traced.gateway.streams stream).phase.remaining := by
          rw [phase]
          exact .head _
        rcases dated.listed stream (jobId, call) listed with ⟨opener, opened⟩
        exact ⟨opener, opened, dated.order stream (jobId, call) listed agent opener opened⟩
      · cases offered
    · cases offered

/-- A quick reconnect: while the clean-up of the first session has its list of
one job, the agent registers a second session and a second job is opened.  The
clean-up ends the first job, and the second stays open. -/
def reconnecting : List Action :=
  [.connect 0, .firstFrame 0 (some (helloOf "alpha" "alpha-token")), .register 0,
    .openDiagnostics 0 "alpha" "job-1" "releases/web", .cancelStream 0, .closed 0, .disconnect 0,
    .connect 1, .firstFrame 1 (some (helloOf "alpha" "alpha-token")), .register 1,
    .openDiagnostics 1 "alpha" "job-2" "releases/web", .failNext 0, .failNext 0]

theorem disconnect_reaches_jobs_reconnect :
    Exists fun traced : Traced => traced.gateway.settled 0 = true ∧
      traced.gateway.settled 1 = false ∧
      traced.gateway.openJob .pair "alpha" "job-3" false ≠ .ok 0 := by
  rcases (Traced.machine .pair).exists_reachableUnder_of_replay Traced.KeepsCleanup
    reconnecting .initial rfl
    (fun traced => traced.opened 0 = some 0 ∧ (traced.gateway.streams 0).phase = .ended ∧
      (traced.gateway.calls 0).phase = .receiving ∧ traced.gateway.settled 1 = false)
    (by decide +kernel) with ⟨traced, reached, tested⟩
  rcases of_decide_eq_true tested with ⟨opened, ended, receiving, fresh⟩
  have reaches := disconnect_reaches_jobs .pair traced reached
  refine ⟨traced, reaches.1 0 0 opened ended (by rw [receiving]; rfl), fresh, ?_⟩
  exact reaches.2.1 0 "alpha" "job-3" false (by rw [ended]; rfl)

end Gateway
end DjangoOps
