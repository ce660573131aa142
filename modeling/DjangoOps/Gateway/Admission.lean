import DjangoOps.Foundation.Recency
import DjangoOps.Gateway.Outgoing
import DjangoOps.Gateway.Slots

namespace DjangoOps
namespace Gateway

open Protocol

/-!
# Admission

`_open_job` looks at the registered and the completed ids, at the session of
the agent and at its jobs in flight, and registers the job in the same critical
section.  A job is taken out again by its own generator only.  `cancel` marks
the job before it waits for room in the outgoing queue.
-/

/-! ## What `_open_job` has checked -/

/-- `_open_job` accepts a job below the limit of the agent only. -/
theorem State.inflight_of_openJob {config : GatewayConfig} (state : State)
    {agentId jobId : String} {reuse : Bool} {stream : Nat}
    (accepted : state.openJob config agentId jobId reuse = .ok stream) :
    state.inflight agentId < config.maxInflightPerAgent := by
  by_contra full
  unfold State.openJob at accepted
  simp only [if_pos (Nat.le_of_not_lt full)] at accepted
  split_ifs at accepted
  split at accepted <;> cases accepted

/-- `_open_job` accepts a completed id only when it may be used again. -/
theorem State.unused_of_openJob {config : GatewayConfig} (state : State)
    {agentId jobId : String} {stream : Nat}
    (accepted : state.openJob config agentId jobId false = .ok stream) :
    jobId ∉ state.completedJobs := by
  intro completed
  unfold State.openJob at accepted
  rw [if_pos (show jobId ∈ state.completedJobs ∧ false = false from ⟨completed, rfl⟩)] at accepted
  split_ifs at accepted

/-- A job enters the dictionary, or another generator takes the place of the one that
is listed under its id. -/
def Registers (before after : State) (jobId : String) (call : Nat) : Prop :=
  before.jobs.lookup jobId ≠ some call ∧ after.jobs.lookup jobId = some call

/-- The bounds that a registration keeps.  The session is there when the job
is registered, and a diagnostics id is neither active nor retained. -/
structure Admits (config : GatewayConfig) (before after : State) (jobId : String) (call : Nat) :
    Prop where
  inactive : jobId ∉ before.jobs
  connected : (after.calls call).job.agentId ∈ before.sessions ∧
    after.sessions = before.sessions
  capacity : before.inflight (after.calls call).job.agentId < config.maxInflightPerAgent
  unused : (after.calls call).job.kind = .diagnostic -> jobId ∉ before.completedJobs

section Openings

variable {config : GatewayConfig} {before after : State} {action : Action} {call : Nat}
  {agentId jobId : String}

theorem State.job_addJob (state : State) (call : Nat) (agentId jobId : String) (kind : JobKind) :
    ((state.addJob call agentId jobId kind).calls call).job = .new agentId kind := by
  unfold State.addJob
  rw [State.calls_modifyCall, if_pos rfl]

theorem State.job_setCall (state : State) (call : Nat) (phase : CallPhase) :
    ((state.setCall call phase).calls call).job = (state.calls call).job := by
  rw [State.calls_setCall_self]

theorem State.job_putRequest (state : State) (call stream : Nat) (frame : ControlFrame) :
    ((state.putRequest call stream frame).calls call).job = (state.calls call).job := by
  unfold State.putRequest
  rw [State.job_setCall]
  rfl

/-- Only diagnostics refuse a completed id. -/
theorem record_of_opens (opens : action.opens? = some (call, agentId, jobId))
    (stepped : step config before action = some after) (fresh : jobId ∉ before.jobs)
    (registered : jobId ∈ after.jobs) :
    (after.calls call).job.agentId = agentId ∧
      ((after.calls call).job.kind = .diagnostic ->
        Exists fun stream : Nat => before.openJob config agentId jobId false = .ok stream) := by
  cases action <;> cases opens <;> simp only [step] at stepped
  case openDiagnostics =>
    unfold State.openDiagnostics at stepped
    split at stepped
    · split at stepped
      · cases stepped
        exact absurd registered fresh
      · split at stepped <;> cases stepped
        · exact absurd registered fresh
        · rename_i stream accepted
          rw [State.job_putRequest, State.job_addJob]
          exact ⟨rfl, fun _ => ⟨stream, accepted⟩⟩
    · cases stepped
  case openKubernetes =>
    unfold State.openKubernetes at stepped
    split at stepped
    · split at stepped
      · cases stepped
        exact absurd registered fresh
      · dsimp only at stepped
        split at stepped <;> cases stepped
        · rw [State.job_putRequest, State.job_addJob]
          exact ⟨rfl, fun other => absurd other (by simp [JobState.new])⟩
        · rw [State.job_setCall, State.job_addJob]
          exact ⟨rfl, fun other => absurd other (by simp [JobState.new])⟩
    · cases stepped

/-- Every registration is an accepted one. -/
theorem admits_of_registers (stepped : step config before action = some after)
    (registers : Registers before after jobId call) : Admits config before after jobId call := by
  rcases registers with ⟨news, registered⟩
  have member : jobId ∈ after.jobs := AList.lookup_isSome.mp (by rw [registered]; rfl)
  rcases lookup_job_step stepped registered with known | ⟨sessions, _, agent, _, _, accepted, opens⟩
  · exact absurd known news
  · have fresh := before.fresh_of_openJob accepted
    have record := record_of_opens opens stepped fresh member
    refine ⟨fresh, ?_, ?_, fun diagnostic => ?_⟩
    · rw [record.1]
      exact ⟨AList.lookup_isSome.mp (by rw [before.lookup_of_openJob accepted]; rfl), sessions⟩
    · rw [record.1]
      exact before.inflight_of_openJob accepted
    · rcases record.2 diagnostic with ⟨_, unreused⟩
      exact before.unused_of_openJob unreused

end Openings

/-! ## Jobs in flight -/

/-- The generators of an agent that hold a job. -/
def State.holders (state : State) (agentId : String) : Set Nat :=
  { call : Nat | (state.calls call).phase.holding = true ∧
    (state.calls call).job.agentId = agentId }

/-- No agent has more jobs than it may. -/
def State.Bounded (config : GatewayConfig) (state : State) : Prop :=
  forall agentId, state.inflight agentId ≤ config.maxInflightPerAgent

theorem CallPhase.busy_of_holding {phase : CallPhase} (holding : phase.holding = true) :
    phase ≠ .idle := by
  intro idle
  rw [idle] at holding
  cases holding

section Bounds

variable {config : GatewayConfig} {before after : State} {action : Action}

theorem State.Slotted.holders_finite {state : State} (slotted : state.Slotted) (agentId : String) :
    (state.holders agentId).Finite := by
  refine (List.finite_toSet (state.jobItems.map Prod.snd)).subset ?_
  rintro call ⟨holding, own⟩
  have found := (slotted _ call).mpr ⟨holding, rfl⟩
  have listed : ((state.calls call).jobId, call) ∈ state.jobItems :=
    List.mem_reverse.mpr (List.mem_map.mpr ⟨_, AList.mem_lookup_iff.mp found, rfl⟩)
  exact List.mem_map.mpr ⟨_, listed, rfl⟩

/-- A holder was one before, unless its job has just been registered. -/
theorem holders_of_step (stepped : step config before action = some after) {agentId : String} :
    after.holders agentId ⊆ before.holders agentId ∨
      Exists fun call : Nat => Exists fun jobId : String =>
        Registers before after jobId call ∧ (after.calls call).job.agentId = agentId ∧
          after.holders agentId ⊆ insert call (before.holders agentId) := by
  cases step_slot_move stepped with
  | kept jobs calls =>
      refine .inl ?_
      rintro call ⟨holding, own⟩
      rw [(calls call).1] at holding
      have kept := (step_call_move stepped call).opened_kept (CallPhase.busy_of_holding holding)
      exact ⟨holding, kept.2.2.1.symm.trans own⟩
  | opened call agent jobId opens idle fresh jobs own others =>
      have registers : Registers before after jobId call := by
        constructor
        · intro earlier
          exact fresh (AList.lookup_isSome.mp (by rw [earlier]; rfl))
        · rw [jobs, AList.lookup_insert]
      by_cases same : (after.calls call).job.agentId = agentId
      · refine .inr ⟨call, jobId, registers, same, ?_⟩
        rintro holder ⟨holding, named⟩
        by_cases equal : holder = call
        · exact .inl equal
        · rw [others holder equal] at holding named
          exact .inr ⟨holding, named⟩
      · refine .inl ?_
        rintro holder ⟨holding, named⟩
        have different : holder ≠ call := by
          rintro rfl
          exact same named
        rw [others holder different] at holding named
        exact ⟨holding, named⟩
  | removed call actor holding ended jobs others =>
      refine .inl ?_
      rintro holder ⟨held, own⟩
      have different : holder ≠ call := by
        rintro rfl
        rw [ended] at held
        cases held
      rw [others holder different] at held own
      exact ⟨held, own⟩

/-- A step keeps the bound of every agent. -/
theorem State.Bounded.step (bounded : before.Bounded config) (slotted : before.Slotted)
    (stepped : step config before action = some after) : after.Bounded config := by
  intro agentId
  have count := (slotted.step stepped).inflight_eq agentId
  have counted := slotted.inflight_eq agentId
  have finite := slotted.holders_finite agentId
  rw [count]
  rcases holders_of_step stepped with fewer | ⟨call, jobId, registers, own, more⟩
  · calc (after.holders agentId).ncard
        ≤ (before.holders agentId).ncard := Set.ncard_le_ncard fewer finite
      _ = before.inflight agentId := counted.symm
      _ ≤ config.maxInflightPerAgent := bounded agentId
  · have room := (admits_of_registers stepped registers).capacity
    rw [own] at room
    calc (after.holders agentId).ncard
        ≤ (insert call (before.holders agentId)).ncard := Set.ncard_le_ncard more (finite.insert call)
      _ ≤ (before.holders agentId).ncard + 1 := Set.ncard_insert_le call _
      _ = before.inflight agentId + 1 := congrArg (· + 1) counted.symm
      _ ≤ config.maxInflightPerAgent := room

theorem bounded_of_reachable {state : State} (reached : (machine config).Reachable state) :
    state.Bounded config := by
  refine reached.invariant ?_ ?_
  · rintro start ⟨⟩ agentId
    exact Nat.zero_le _
  · intro before action after reachable inductionHypothesis _ stepped
    exact inductionHypothesis.step (slotted_of_reachable reachable) stepped

end Bounds

/-! ## Completed ids -/

section Completed

variable {config : GatewayConfig} {before after : State} {action : Action}

theorem State.completed_cancelReader (state : State) (stream : Nat) :
    (state.cancelReader stream).completedJobs = state.completedJobs := by
  unfold State.cancelReader
  split <;> rfl

theorem State.completed_acceptEvent (state : State) (stream : Nat) (jobId : String)
    (sequence : Nat) (frame : AgentFrame) :
    (state.acceptEvent stream jobId sequence frame).completedJobs = state.completedJobs := by
  unfold State.acceptEvent
  split
  · rfl
  · dsimp only
    split_ifs <;> rfl

/-- `_remember_completed` adds one id at most. -/
def State.completedMemory (state : State) : Recency.Memory String :=
  { members := state.completedJobs, order := state.completedOrder }

/-- `_remember_completed` inserts into a memory of the most recent ids. -/
theorem completedMemory_rememberCompleted (config : GatewayConfig) (state : State)
    (jobId : String) : (state.rememberCompleted config jobId).completedMemory =
      state.completedMemory.insert config.maxCompletedJobs jobId := by
  unfold State.rememberCompleted Recency.Memory.insert State.completedMemory
  dsimp only
  by_cases known : jobId ∈ state.completedJobs
  · rw [if_pos known, if_pos known]
  · rw [if_neg known, if_neg known]
    by_cases full : config.maxCompletedJobs ≤ state.completedOrder.length
    · simp only [if_pos full]
      cases state.completedOrder <;> rfl
    · simp only [if_neg full]

theorem State.completed_rememberCompleted (state : State) (config : GatewayConfig)
    (jobId : String) :
    (state.rememberCompleted config jobId).completedJobs ⊆ insert jobId state.completedJobs := by
  have memory := completedMemory_rememberCompleted config state jobId
  have members := congrArg Recency.Memory.members memory
  exact members.subset.trans (Recency.Memory.members_insert_subset _ _)

/-- An id is completed by the generator that held it only. -/
theorem completed_of_step (stepped : step config before action = some after) :
    after.completedJobs = before.completedJobs ∨
      Exists fun call : Nat => (before.calls call).phase.holding = true ∧
        (after.calls call).phase.holding = false ∧
        after.completedJobs ⊆ insert (before.calls call).jobId before.completedJobs := by
  cases action <;> simp only [step] at stepped
  case finalise call =>
    unfold State.finalise at stepped
    split at stepped
    · rename_i exhausted phase
      split at stepped <;> cases stepped
      refine .inr ⟨call, by rw [phase]; rfl, ?_, State.completed_rememberCompleted _ config _⟩
      rw [State.calls_setCall_self]
      rfl
    · cases stepped
  case readFrame stream frame =>
    unfold State.readFrame at stepped
    split at stepped
    · split at stepped <;> cases stepped
      · exact .inl rfl
      · exact .inl (before.completed_acceptEvent stream _ _ frame)
    · cases stepped
  case yieldControl stream =>
    unfold State.yieldControl at stepped
    split at stepped
    · split at stepped <;> cases stepped
      · exact .inl rfl
      · exact .inl (State.completed_cancelReader _ stream)
    · cases stepped
  case cancelStream stream =>
    unfold State.cancelStream at stepped
    split at stepped <;> cases stepped
    exact .inl (before.completed_cancelReader stream)
  case cancelCleanup stream =>
    unfold State.cancelCleanup at stepped
    split at stepped <;> cases stepped
    · exact .inl (before.completed_cancelReader stream)
    · exact .inl rfl
    · exact .inl rfl
    · exact .inl rfl
  case connect =>
    unfold State.connect at stepped
    split at stepped <;> cases stepped
    exact .inl rfl
  case abortDone =>
    unfold State.abortDone at stepped
    split at stepped <;> cases stepped
    exact .inl rfl
  case readerEnds =>
    unfold State.readerEnds at stepped
    split at stepped <;> cases stepped
    exact .inl rfl
  case closed =>
    unfold State.closed at stepped
    split at stepped <;> cases stepped
    exact .inl rfl
  case disconnect =>
    unfold State.disconnect at stepped
    split at stepped <;> cases stepped
    exact .inl rfl
  case dropUnsupported =>
    unfold State.dropUnsupported at stepped
    split at stepped <;> cases stepped
    exact .inl rfl
  case cancelAbandon =>
    unfold State.cancelAbandon at stepped
    split at stepped <;> cases stepped
    exact .inl rfl
  case advance =>
    unfold State.advance at stepped
    split at stepped <;> cases stepped
    exact .inl rfl
  case abandon =>
    unfold State.abandon at stepped
    split at stepped <;> cases stepped <;> exact .inl rfl
  case firstFrame =>
    unfold State.firstFrame at stepped
    split at stepped
    · split at stepped <;> cases stepped <;> exact .inl rfl
    · cases stepped
  case register =>
    unfold State.register at stepped
    split at stepped
    · dsimp only at stepped
      split at stepped <;> cases stepped <;> exact .inl rfl
    · cases stepped
  case failNext =>
    unfold State.failNext at stepped
    split at stepped
    · cases stepped
      exact .inl rfl
    · dsimp only at stepped
      split at stepped <;> cases stepped <;> exact .inl rfl
    · cases stepped
  case failResume =>
    unfold State.failResume at stepped
    split at stepped
    · rcases Option.map_eq_some_iff.mp stepped with ⟨_, _, rfl⟩
      exact .inl rfl
    · cases stepped
  case requestResume =>
    unfold State.requestResume at stepped
    split at stepped
    · rcases Option.map_eq_some_iff.mp stepped with ⟨_, _, rfl⟩
      exact .inl rfl
    · cases stepped
  case cancelResume =>
    unfold State.cancelResume at stepped
    split at stepped
    · rcases Option.map_eq_some_iff.mp stepped with ⟨_, _, rfl⟩
      exact .inl rfl
    · cases stepped
  case deliver =>
    unfold State.deliver at stepped
    split at stepped
    · rcases Option.map_eq_some_iff.mp stepped with ⟨_, _, rfl⟩
      exact .inl rfl
    · cases stepped
  case readerResume =>
    unfold State.readerResume at stepped
    split at stepped
    case h_5 => cases stepped
    all_goals
      rcases Option.map_eq_some_iff.mp stepped with ⟨_, _, rfl⟩
      exact .inl rfl
  case openDiagnostics =>
    unfold State.openDiagnostics at stepped
    split at stepped
    · split at stepped
      · cases stepped
        exact .inl rfl
      · split at stepped <;> cases stepped <;> exact .inl rfl
    · cases stepped
  case openKubernetes =>
    unfold State.openKubernetes at stepped
    split at stepped
    · split at stepped
      · cases stepped
        exact .inl rfl
      · dsimp only at stepped
        split at stepped <;> cases stepped <;> exact .inl rfl
    · cases stepped
  case cancel =>
    unfold State.cancel at stepped
    split at stepped
    · split at stepped
      · cases stepped
        exact .inl rfl
      · dsimp only at stepped
        split at stepped
        · cases stepped
          exact .inl rfl
        · split at stepped <;> cases stepped <;> exact .inl rfl
    · cases stepped

/-- No diagnostics job is registered under a retained id. -/
def State.Unused (state : State) : Prop :=
  forall jobId call, state.jobs.lookup jobId = some call ->
    (state.calls call).job.kind = .diagnostic -> jobId ∉ state.completedJobs

/-- The id of a diagnostics job that is registered after a step was not retained
before it, and a step that completes a job takes it from the registered ones. -/
theorem State.Unused.step (unused : before.Unused) (slotted : before.Slotted)
    (stepped : step config before action = some after) : after.Unused := by
  have later := slotted.step stepped
  intro jobId call registered diagnostic
  have earlier : jobId ∉ before.completedJobs := by
    by_cases held : before.jobs.lookup jobId = some call
    · have holding := ((slotted jobId call).mp held).1
      have kept := (step_call_move stepped call).opened_kept (CallPhase.busy_of_holding holding)
      exact unused jobId call held (kept.2.2.2.symm.trans diagnostic)
    · exact (admits_of_registers stepped ⟨held, registered⟩).unused diagnostic
  rcases completed_of_step stepped with same | ⟨ended, holding, released, completed⟩
  · rw [same]
    exact earlier
  · intro listed
    rcases Finset.mem_insert.mp (completed listed) with own | old
    · have holder := (slotted jobId ended).mpr ⟨holding, own.symm⟩
      have different : ended ≠ call := by
        rintro rfl
        rw [((later jobId ended).mp registered).1] at released
        cases released
      by_cases held : before.jobs.lookup jobId = some call
      · rw [holder] at held
        exact different (Option.some.inj held)
      · refine (admits_of_registers stepped ⟨held, registered⟩).inactive ?_
        exact AList.lookup_isSome.mp (by rw [holder]; rfl)
    · exact earlier old

theorem unused_of_reachable {state : State} (reached : (machine config).Reachable state) :
    state.Unused := by
  refine reached.invariant ?_ ?_
  · rintro start ⟨⟩ jobId call registered
    cases registered
  · intro before action after reachable inductionHypothesis _ stepped
    exact inductionHypothesis.step (slotted_of_reachable reachable) stepped

end Completed

/-! ## Cancellations -/

/-- A call of `cancel` puts a `CancelJob` for a registered job on the outgoing queue of
a session. -/
def Cancels (before : State) (action : Action) (after : State) (call : Nat) : Prop :=
  Exists fun request : Nat => Exists fun jobId : String => Exists fun stream : Nat =>
    action = .cancel request jobId ∧ before.jobs.lookup jobId = some call ∧
      after.outgoing stream =
        (before.outgoing stream).put maxOutgoingFrames (.canceller request) (some (.cancel jobId))

section Cancelling

variable {config : GatewayConfig} {before after : State} {action : Action} {call : Nat}

/-- A job is marked when its `CancelJob` is put, and was not marked before. -/
theorem Cancels.marks (cancels : Cancels before action after call)
    (stepped : step config before action = some after) :
    (before.calls call).job.cancelSent = false ∧ (after.calls call).job.cancelSent = true := by
  rcases cancels with ⟨request, jobId, stream, rfl, registered, put⟩
  simp only [step] at stepped
  unfold State.cancel at stepped
  split at stepped
  · rw [registered] at stepped
    dsimp only at stepped
    split at stepped
    · cases stepped
      exact absurd put (BoundedQueue.ne_put _ _ _ _)
    · rename_i unsent
      split at stepped
      · cases stepped
        exact absurd put (BoundedQueue.ne_put _ _ _ _)
      · cases stepped
        refine ⟨Bool.eq_false_iff.mpr unsent, ?_⟩
        have sent : ((before.modifyJob call fun job => { job with cancelSent := true }).calls
            call).job.cancelSent = true := by
          rw [State.modifyJob, State.calls_modifyCall, if_pos rfl]
        exact sent
  · cases stepped

/-- A marked job stays marked. -/
theorem cancelSent_kept (stepped : step config before action = some after)
    (opened : (before.calls call).phase ≠ .idle)
    (sent : (before.calls call).job.cancelSent = true) :
    (after.calls call).phase ≠ .idle ∧ (after.calls call).job.cancelSent = true := by
  have move := step_call_move stepped call
  refine ⟨(move.opened_kept opened).1, ?_⟩
  generalize after.calls call = record at move
  cases move with
  | opened _ _ _ _ _ _ idle => exact absurd idle opened
  | cancelled => rfl
  | _ => exact sent

/-- Once a `CancelJob` has been put for a registered job, none is put for it again. -/
theorem cancels_once {later latest : State} {further : Action}
    (reached : (machine config).Reachable before)
    (stepped : step config before action = some after)
    (cancels : Cancels before action after call)
    (path : Relation.ReflTransGen ((machine config).StepUnder fun _ _ => True) after later)
    (continued : step config later further = some latest) :
    ¬ Cancels later further latest call := by
  have opened : (before.calls call).phase ≠ .idle := by
    rcases cancels with ⟨_, jobId, _, _, registered, _⟩
    exact CallPhase.busy_of_holding ((slotted_of_reachable reached jobId call).mp registered).1
  have marked : (later.calls call).phase ≠ .idle ∧ (later.calls call).job.cancelSent = true := by
    clear continued
    induction path with
    | refl =>
        have busy := ((step_call_move stepped call).opened_kept opened).1
        exact ⟨busy, (cancels.marks stepped).2⟩
    | tail _ last inductionHypothesis =>
        rcases last with ⟨action, _, moved⟩
        exact cancelSent_kept moved inductionHypothesis.1 inductionHypothesis.2
  intro again
  have unmarked := (again.marks continued).1
  rw [marked.2] at unmarked
  cases unmarked

end Cancelling

/-! ## The bounds -/

/-- Admission bounds, over all runs: no agent has more registered jobs than it
may; a registered id belongs to one generator, which has opened it; no
diagnostics job is registered under a retained id; every registration keeps the
bounds of `_open_job`; and at most one `CancelJob` is put by `cancel` for each
registered job.

The session of the agent belongs to the bounds of a registration only.  When it
ends, `_disconnect` hands every job of the agent a failure frame, and the job
stays registered until its consumer has read the frame. -/
theorem admission_bounds (config : GatewayConfig) (state : State)
    (reached : (machine config).Reachable state) :
    (forall agentId, state.inflight agentId ≤ config.maxInflightPerAgent) ∧
      (forall jobId call, state.jobs.lookup jobId = some call <->
        (state.calls call).phase.holding = true ∧ (state.calls call).jobId = jobId) ∧
      (forall jobId call, state.jobs.lookup jobId = some call ->
        (state.calls call).job.kind = .diagnostic -> jobId ∉ state.completedJobs) ∧
      (forall action after jobId call, step config state action = some after ->
        Registers state after jobId call -> Admits config state after jobId call) ∧
      forall action after later further latest call, step config state action = some after ->
        Cancels state action after call ->
        Relation.ReflTransGen ((machine config).StepUnder fun _ _ => True) after later ->
        step config later further = some latest -> ¬ Cancels later further latest call := by
  refine ⟨bounded_of_reachable reached, slotted_of_reachable reached, unused_of_reachable reached,
    ?_, ?_⟩
  · intro action after jobId call stepped registers
    exact admits_of_registers stepped registers
  · intro action after later further latest call stepped cancels path continued
    exact cancels_once reached stepped cancels path continued

/-- One diagnostics job, cancelled once. -/
theorem admission_bounds_pair :
    Exists fun state : State => state.jobs.lookup "job-1" = some 0 ∧
      (state.calls 0).job.cancelSent = true ∧
      state.inflight "alpha" ≤ GatewayConfig.pair.maxInflightPerAgent ∧
      "job-1" ∉ state.completedJobs := by
  rcases (machine .pair).exists_reachableUnder_of_replay (fun _ _ => True)
    [.connect 0, .firstFrame 0 (some (helloOf "alpha" "alpha-token")), .register 0,
      .openDiagnostics 0 "alpha" "job-1" ".", .cancel 0 "job-1"] .initial rfl
    (fun state => state.jobs.lookup "job-1" = some 0 ∧ (state.calls 0).job.cancelSent = true ∧
      (state.calls 0).job.kind = .diagnostic)
    (by decide +kernel) with ⟨state, reached, tested⟩
  rcases of_decide_eq_true tested with ⟨registered, sent, diagnostic⟩
  have bounds := admission_bounds .pair state reached
  exact ⟨state, registered, sent, bounds.1 "alpha", bounds.2.2.1 "job-1" 0 registered diagnostic⟩

/-- The agent disconnects and `_disconnect` has finished, while the consumer of
the job has not read its failure frame: the job is still registered for an
agent that has no session. -/
theorem registered_without_session :
    Exists fun state : State => (machine .pair).Reachable state ∧
      state.jobs.lookup "job-1" = some 0 ∧ (state.calls 0).job.agentId = "alpha" ∧
      "alpha" ∉ state.sessions ∧ (state.streams 0).phase = .ended := by
  rcases (machine .pair).exists_reachableUnder_of_replay (fun _ _ => True)
    [.connect 0, .firstFrame 0 (some (helloOf "alpha" "alpha-token")), .register 0,
      .openDiagnostics 0 "alpha" "job-1" ".", .cancelStream 0, .closed 0, .disconnect 0,
      .failNext 0, .failNext 0] .initial rfl
    (fun state => state.jobs.lookup "job-1" = some 0 ∧ (state.calls 0).job.agentId = "alpha" ∧
      "alpha" ∉ state.sessions ∧ (state.streams 0).phase = .ended)
    (by decide +kernel) with ⟨state, reached, tested⟩
  exact ⟨state, reached, of_decide_eq_true tested⟩

end Gateway
end DjangoOps
