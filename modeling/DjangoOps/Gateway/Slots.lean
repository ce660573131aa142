import Mathlib.Data.Set.Card
import DjangoOps.Gateway.Isolation

namespace DjangoOps
namespace Gateway

open Protocol

/-!
# Job slots

A generator registers its job in `_open_job`, and the `finally` clause of
`_events` takes it out again.  Between the two lie suspensions that the clause
does not cover.  The dictionary `_jobs` holds exactly the jobs of the
generators that have opened one and not taken it out, so the slots that are
lost are those of generators that were cancelled at one of these points.
-/

/-- The job of the generator is registered. -/
def CallPhase.holding : CallPhase -> Bool
  | .idle => false
  | .refused _ => false
  | .finished _ => false
  | _ => true

/-- The generator has opened its job and has not come to its end. -/
def CallPhase.unfinished : CallPhase -> Bool
  | .leaked => false
  | phase => phase.holding

theorem CallPhase.holding_of_unfinished {phase : CallPhase} (unfinished : phase.unfinished = true) :
    phase.holding = true := by
  cases phase <;> first | rfl | cases unfinished

theorem CallPhase.unfinished_of_holding {phase : CallPhase} (holding : phase.holding = true)
    (kept : phase ≠ .leaked) : phase.unfinished = true := by
  cases phase with
  | leaked => exact absurd rfl kept
  | _ => exact holding

/-- What a step does to the registered jobs, and to the generators that hold
them. -/
inductive SlotMove (before after : State) : Action -> Prop
  | kept (action : Action) (jobs : after.jobs = before.jobs)
      (calls : forall call,
        (after.calls call).phase.holding = (before.calls call).phase.holding ∧
          ((before.calls call).phase.holding = true ->
            (after.calls call).jobId = (before.calls call).jobId)) :
      SlotMove before after action
  | opened (action : Action) (call : Nat) (agentId jobId : String)
      (opens : action.opens? = some (call, agentId, jobId))
      (idle : (before.calls call).phase = .idle) (fresh : jobId ∉ before.jobs)
      (jobs : after.jobs = before.jobs.insert jobId call)
      (own : (after.calls call).phase.unfinished = true ∧ (after.calls call).jobId = jobId)
      (others : forall other, other ≠ call -> after.calls other = before.calls other) :
      SlotMove before after action
  | removed (action : Action) (call : Nat)
      (actor : action = .dropUnsupported call ∨ action = .finalise call)
      (holding : (before.calls call).phase.holding = true)
      (ended : (after.calls call).phase.holding = false)
      (jobs : after.jobs = before.jobs.erase (before.calls call).jobId)
      (others : forall other, other ≠ call -> after.calls other = before.calls other) :
      SlotMove before after action

section Moves

variable {config : GatewayConfig} {before after : State} {action : Action}

theorem stream_of_opens {opened : Nat × String × String}
    (opens : action.opens? = some opened) : action.stream? = none := by
  cases action <;> first | rfl | cases opens

/-- The tasks of a stream leave the position of every generator alone. -/
theorem CallMove.phase_of_stream {call stream : Nat} {record : Call}
    (move : CallMove before call action record) (own : action.stream? = some stream) :
    record.phase = (before.calls call).phase ∧ record.jobId = (before.calls call).jobId := by
  cases move with
  | same => exact ⟨rfl, rfl⟩
  | refused _ _ foreign =>
      rw [foreign] at own
      cases own
  | opened _ _ _ _ _ opens =>
      rw [stream_of_opens opens] at own
      cases own
  | accepted => exact ⟨rfl, rfl⟩
  | disordered => exact ⟨rfl, rfl⟩
  | failed => exact ⟨rfl, rfl⟩
  | admitted => exact ⟨rfl, rfl⟩
  | withdrawn => exact ⟨rfl, rfl⟩
  | _ => cases own

/-- The tasks of a stream open and remove no job. -/
theorem jobs_of_stream_step {stream : Nat} (own : action.stream? = some stream)
    (stepped : step config before action = some after) : after.jobs = before.jobs := by
  have move := step_dict_move stepped
  generalize after.jobs = jobs at move
  generalize after.sessions = sessions at move
  cases move with
  | same => rfl
  | registered => rfl
  | unregistered => rfl
  | opened _ _ _ _ _ _ _ _ opens =>
      rw [stream_of_opens opens] at own
      cases own
  | removed _ _ _ actor => rcases actor with rfl | rfl <;> cases own

/-- A change of a job does not move its generator. -/
theorem State.position_modifyJob (state : State) (call : Nat) (change : JobState -> JobState)
    (other : Nat) :
    ((state.modifyJob call change).calls other).phase = (state.calls other).phase ∧
      ((state.modifyJob call change).calls other).jobId = (state.calls other).jobId := by
  rw [State.modifyJob, State.calls_modifyCall]
  split
  · rename_i same
    rw [same]
    exact ⟨rfl, rfl⟩
  · exact ⟨rfl, rfl⟩

/-- A generator that only moves on keeps its job. -/
theorem SlotMove.moved {state : State} (call : Nat) (phase : CallPhase)
    (jobs : state.jobs = before.jobs)
    (calls : forall other, (state.calls other).phase = (before.calls other).phase ∧
      (state.calls other).jobId = (before.calls other).jobId)
    (holding : (before.calls call).phase.holding = true) (still : phase.holding = true) :
    SlotMove before (state.setCall call phase) action := by
  refine .kept _ jobs fun other => ?_
  by_cases same : other = call
  · subst same
    rw [State.calls_setCall_self]
    exact ⟨still.trans holding.symm, fun _ => (calls other).2⟩
  · rw [State.calls_setCall_ne _ same]
    exact ⟨by rw [(calls other).1], fun _ => (calls other).2⟩

theorem SlotMove.unmoved {state : State} (jobs : state.jobs = before.jobs)
    (calls : forall other, (state.calls other).phase = (before.calls other).phase ∧
      (state.calls other).jobId = (before.calls other).jobId) :
    SlotMove before state action :=
  .kept _ jobs fun other => ⟨by rw [(calls other).1], fun _ => (calls other).2⟩

/-- A refused generator has never held a job. -/
theorem SlotMove.refuse {call : Nat} (error : PyException)
    (idle : (before.calls call).phase = .idle) :
    SlotMove before (before.setCall call (.refused error)) action := by
  refine .kept _ rfl fun other => ?_
  by_cases same : other = call
  · subst same
    rw [State.calls_setCall_self, idle]
    exact ⟨rfl, fun impossible => nomatch impossible⟩
  · rw [State.calls_setCall_ne _ same]
    exact ⟨rfl, fun _ => rfl⟩

/-- `_open_job` registers the job, whatever becomes of its request. -/
theorem SlotMove.open {call stream : Nat} {agentId jobId : String} {reuse : Bool}
    (opens : action.opens? = some (call, agentId, jobId))
    (idle : (before.calls call).phase = .idle)
    (accepted : before.openJob config agentId jobId reuse = .ok stream) (kind : JobKind)
    {state : State} {phase : CallPhase} (jobs : state.jobs = before.jobs.insert jobId call)
    (calls : state.calls = (before.addJob call agentId jobId kind).calls)
    (active : phase.unfinished = true) :
    SlotMove before (state.setCall call phase) action := by
  refine .opened _ call agentId jobId opens idle (before.fresh_of_openJob accepted) jobs ?_ ?_
  · rw [State.calls_setCall_self, calls, State.addJob, State.calls_modifyCall, if_pos rfl]
    exact ⟨active, rfl⟩
  · intro other different
    rw [State.calls_setCall_ne _ different, calls, State.addJob, State.calls_modifyCall,
      if_neg different]

/-- The steps of the generators and of the cancellations. -/
theorem slot_move_of_call_step (foreign : action.stream? = none)
    (stepped : step config before action = some after) : SlotMove before after action := by
  cases action <;> cases foreign <;> simp only [step] at stepped
  case openDiagnostics call agentId jobId releaseRoot =>
    unfold State.openDiagnostics at stepped
    split at stepped
    · rename_i ready
      split at stepped
      · cases stepped
        exact .refuse _ ready.1
      · split at stepped
        · cases stepped
          exact .refuse _ ready.1
        · rename_i accepted
          cases stepped
          refine SlotMove.open rfl ready.1 accepted .diagnostic rfl rfl ?_
          split <;> rfl
    · cases stepped
  case openKubernetes call agentId request =>
    unfold State.openKubernetes at stepped
    split at stepped
    · rename_i ready
      split at stepped
      · cases stepped
        exact .refuse _ ready.1
      · rename_i accepted
        dsimp only at stepped
        split at stepped <;> cases stepped
        · refine SlotMove.open rfl ready.1 accepted .kubernetes rfl rfl ?_
          split <;> rfl
        · exact SlotMove.open rfl ready.1 accepted .kubernetes rfl rfl rfl
    · cases stepped
  case dropUnsupported call =>
    unfold State.dropUnsupported at stepped
    split at stepped
    · rename_i ready
      cases stepped
      refine .removed _ call (.inl rfl) (by rw [ready.1]; rfl) ?_ rfl ?_
      · rw [State.calls_setCall_self]
        rfl
      · exact fun other different => State.calls_setCall_ne _ different _
    · cases stepped
  case requestResume call =>
    unfold State.requestResume at stepped
    split at stepped
    · rename_i stream phase
      rcases Option.map_eq_some_iff.mp stepped with ⟨queue, _, result⟩
      cases result
      exact .moved call _ rfl (fun _ => ⟨rfl, rfl⟩) (by rw [phase]; rfl) rfl
    · cases stepped
  case deliver call =>
    unfold State.deliver at stepped
    split at stepped
    · rename_i phase
      rcases Option.map_eq_some_iff.mp stepped with ⟨taken, _, result⟩
      cases result
      refine .kept _ rfl fun other => ?_
      by_cases same : other = call
      · subst same
        simp only [State.modifyQueue, State.modifyJob, State.calls_modifyCall, if_true, phase]
        exact ⟨rfl, fun _ => trivial⟩
      · simp only [State.modifyQueue, State.modifyJob, State.calls_modifyCall, if_neg same]
        exact ⟨trivial, fun _ => trivial⟩
    · cases stepped
  case advance call =>
    unfold State.advance at stepped
    split at stepped
    · rename_i delivery phase
      cases stepped
      refine .moved call _ rfl (fun _ => ⟨rfl, rfl⟩) (by rw [phase]; rfl) ?_
      split <;> rfl
    · cases stepped
  case abandon call =>
    unfold State.abandon at stepped
    split at stepped <;> cases stepped <;> rename_i phase <;>
      exact .moved call _ rfl (fun _ => ⟨rfl, rfl⟩) (by rw [phase]; rfl) rfl
  case finalise call =>
    unfold State.finalise at stepped
    split at stepped
    · rename_i exhausted phase
      split at stepped
      · cases stepped
        refine .removed _ call (.inr rfl) (by rw [phase]; rfl) ?_ ?_ ?_
        · rw [State.calls_setCall_self]
          rfl
        · exact (State.dict_rememberCompleted _ _ _).2
        · intro other different
          rw [State.calls_setCall_ne _ different, State.calls_rememberCompleted]
      · cases stepped
    · cases stepped
  case cancel request jobId =>
    unfold State.cancel at stepped
    split at stepped
    · split at stepped
      · cases stepped
        exact .unmoved rfl fun _ => ⟨rfl, rfl⟩
      · rename_i target registered
        dsimp only at stepped
        split at stepped
        · cases stepped
          exact .unmoved rfl fun _ => ⟨rfl, rfl⟩
        · split at stepped <;> cases stepped
          · exact .unmoved rfl fun _ => ⟨rfl, rfl⟩
          · exact .unmoved rfl (before.position_modifyJob target
              fun job => { job with cancelSent := true })
    · cases stepped
  case cancelResume request =>
    unfold State.cancelResume at stepped
    split at stepped
    · rcases Option.map_eq_some_iff.mp stepped with ⟨queue, _, result⟩
      cases result
      exact .unmoved rfl fun _ => ⟨rfl, rfl⟩
    · cases stepped
  case cancelAbandon request =>
    unfold State.cancelAbandon at stepped
    split at stepped
    · cases stepped
      exact .unmoved rfl fun _ => ⟨rfl, rfl⟩
    · cases stepped

/-- Every step treats the registered jobs in one of the listed ways. -/
theorem step_slot_move (stepped : step config before action = some after) :
    SlotMove before after action := by
  cases own : action.stream? with
  | some stream =>
      exact .unmoved (jobs_of_stream_step own stepped)
        fun call => (step_call_move stepped call).phase_of_stream own
  | none => exact slot_move_of_call_step own stepped

end Moves

/-! ## Who holds the slots -/

/-- A job is registered exactly as long as a generator holds it. -/
def State.Slotted (state : State) : Prop :=
  forall jobId call, state.jobs.lookup jobId = some call <->
    (state.calls call).phase.holding = true ∧ (state.calls call).jobId = jobId

section Holding

variable {config : GatewayConfig} {before after : State} {action : Action}

theorem State.Slotted.opened (slotted : before.Slotted) {call : Nat} {jobId : String}
    (idle : (before.calls call).phase = .idle) (fresh : jobId ∉ before.jobs)
    (jobs : after.jobs = before.jobs.insert jobId call)
    (own : (after.calls call).phase.holding = true ∧ (after.calls call).jobId = jobId)
    (others : forall other, other ≠ call -> after.calls other = before.calls other) :
    after.Slotted := by
  intro other holder
  rw [jobs]
  by_cases named : other = jobId
  · subst named
    rw [AList.lookup_insert]
    constructor
    · rintro ⟨⟩
      exact own
    · rintro ⟨holding, same⟩
      by_contra different
      have distinct : holder ≠ call := fun equal => different (congrArg some equal.symm)
      rw [others holder distinct] at holding same
      have earlier := (slotted other holder).mpr ⟨holding, same⟩
      exact fresh (AList.lookup_isSome.mp (by rw [earlier]; rfl))
  · rw [AList.lookup_insert_ne named]
    by_cases same : holder = call
    · subst same
      constructor
      · intro earlier
        have holding := ((slotted other holder).mp earlier).1
        rw [idle] at holding
        cases holding
      · rintro ⟨_, equal⟩
        exact absurd (equal.symm.trans own.2) named
    · rw [others holder same]
      exact slotted other holder

theorem State.Slotted.removed (slotted : before.Slotted) {call : Nat}
    (holding : (before.calls call).phase.holding = true)
    (ended : (after.calls call).phase.holding = false)
    (jobs : after.jobs = before.jobs.erase (before.calls call).jobId)
    (others : forall other, other ≠ call -> after.calls other = before.calls other) :
    after.Slotted := by
  have registered := (slotted _ call).mpr ⟨holding, rfl⟩
  intro jobId holder
  rw [jobs]
  by_cases same : holder = call
  · subst same
    rw [ended]
    refine ⟨fun found => ?_, fun impossible => nomatch impossible.1⟩
    by_cases named : jobId = (before.calls holder).jobId
    · rw [named, AList.lookup_erase] at found
      cases found
    · rw [AList.lookup_erase_ne named] at found
      exact absurd ((slotted jobId holder).mp found).2.symm named
  · rw [others holder same]
    by_cases named : jobId = (before.calls call).jobId
    · rw [named, AList.lookup_erase]
      refine ⟨nofun, fun held => ?_⟩
      have found := (slotted _ holder).mpr held
      rw [registered] at found
      exact absurd (Option.some.inj found).symm same
    · rw [AList.lookup_erase_ne named]
      exact slotted jobId holder

theorem State.Slotted.step (slotted : before.Slotted)
    (stepped : step config before action = some after) : after.Slotted := by
  cases step_slot_move stepped with
  | kept jobs calls =>
      intro jobId call
      rw [jobs, (calls call).1]
      constructor
      · intro found
        rcases (slotted jobId call).mp found with ⟨holding, named⟩
        exact ⟨holding, ((calls call).2 holding).trans named⟩
      · rintro ⟨holding, named⟩
        exact (slotted jobId call).mpr ⟨holding, ((calls call).2 holding).symm.trans named⟩
  | opened call agentId jobId _ idle fresh jobs own others =>
      exact slotted.opened idle fresh jobs ⟨CallPhase.holding_of_unfinished own.1, own.2⟩ others
  | removed call _ holding ended jobs others => exact slotted.removed holding ended jobs others

end Holding

theorem slotted_of_reachable {config : GatewayConfig} {state : State}
    (reached : (machine config).Reachable state) : state.Slotted := by
  refine reached.invariant ?_ ?_
  · rintro start ⟨⟩ jobId call
    exact ⟨nofun, fun impossible => nomatch impossible.1⟩
  · intro before action after _ inductionHypothesis _ stepped
    exact inductionHypothesis.step stepped

/-- The count of `_open_job` is the number of generators of the agent that hold
a job.  No generator is counted twice, because its record names the key that it is
listed under. -/
theorem State.Slotted.inflight_eq {state : State} (slotted : state.Slotted) (agentId : String) :
    state.inflight agentId = Set.ncard { call : Nat |
      (state.calls call).phase.holding = true ∧ (state.calls call).job.agentId = agentId } := by
  have keys : (state.jobItems.map Prod.fst).Nodup := by
    have same : state.jobItems.map Prod.fst = state.jobs.keys.reverse := by
      unfold State.jobItems
      rw [List.map_reverse, List.map_map]
      rfl
    rw [same]
    exact List.nodup_reverse.mpr state.jobs.keys_nodup
  let counted := state.jobItems.filter fun item =>
    decide ((state.calls item.2).job.agentId = agentId)
  have named : forall item, item ∈ state.jobItems ->
      (state.calls item.2).phase.holding = true ∧ (state.calls item.2).jobId = item.1 :=
    fun item listed => (slotted item.1 item.2).mp (lookup_of_mem_jobItems listed)
  have distinct : (counted.map Prod.snd).Nodup := by
    refine List.Nodup.of_map (fun call => (state.calls call).jobId) ?_
    have back : (counted.map Prod.snd).map (fun call => (state.calls call).jobId) =
        counted.map Prod.fst := by
      rw [List.map_map]
      exact List.map_congr_left fun item listed =>
        (named item (List.mem_of_mem_filter listed)).2
    rw [back]
    exact keys.sublist (List.filter_sublist.map Prod.fst)
  have members : { call : Nat | (state.calls call).phase.holding = true ∧
      (state.calls call).job.agentId = agentId } = ↑(counted.map Prod.snd).toFinset := by
    ext call
    rw [Finset.mem_coe, List.mem_toFinset, List.mem_map, Set.mem_ofPred_eq]
    constructor
    · rintro ⟨holding, own⟩
      have found := (slotted _ call).mpr ⟨holding, rfl⟩
      refine ⟨((state.calls call).jobId, call), List.mem_filter.mpr ⟨?_, decide_eq_true own⟩, rfl⟩
      exact List.mem_reverse.mpr (List.mem_map.mpr ⟨_, AList.mem_lookup_iff.mp found, rfl⟩)
    · rintro ⟨item, listed, rfl⟩
      rcases List.mem_filter.mp listed with ⟨earlier, own⟩
      exact ⟨(named item earlier).1, of_decide_eq_true own⟩
  rw [members, Set.ncard_coe_finset, List.toFinset_card_of_nodup distinct, List.length_map]
  exact List.countP_eq_length_filter

/-! ## Suspensions without a clean-up -/

/-- The generator holds a job and is suspended where no clean-up covers it. -/
def CallPhase.uncovered : CallPhase -> Bool
  | .dropping => true
  | .requesting _ => true
  | .closing _ => true
  | _ => false

/-- Where a cancelled generator goes on. -/
def CallPhase.abandoned? : CallPhase -> Option CallPhase
  | .dropping => some .leaked
  | .requesting _ => some .leaked
  | .receiving => some (.closing false)
  | .delivered _ => some (.closing false)
  | .closing _ => some .leaked
  | _ => none

/-- The action cancels a generator at such a point. -/
def State.losesSlot (state : State) : Action -> Bool
  | .abandon call => (state.calls call).phase.uncovered
  | _ => false

/-- The guard of the runs that lose no slot: no generator is cancelled while it waits
with its job registered in front of its `try`, or within its `finally`. -/
def KeepsSlots (state : State) (action : Action) : Prop := state.losesSlot action = false

instance (state : State) (action : Action) : Decidable (KeepsSlots state action) :=
  inferInstanceAs (Decidable (_ = _))

section Losing

variable {config : GatewayConfig} {before after : State} {action : Action} {call : Nat}

theorem phase_of_abandon (stepped : step config before (.abandon call) = some after) :
    (before.calls call).phase.abandoned? = some (after.calls call).phase := by
  simp only [step, State.abandon] at stepped
  split at stepped <;> rename_i phase
  · cases stepped
    rw [State.calls_setCall_self, phase]
    rfl
  · cases stepped
    rw [State.calls_setCall_self, phase]
    rfl
  · cases stepped
    rw [State.calls_setCall_self, phase]
    rfl
  · cases stepped
    rw [State.calls_setCall_self, phase]
    rfl
  · cases stepped
    rw [State.calls_setCall_self, phase]
    rfl
  · cases stepped

/-- A generator is lost only by a cancellation at an uncovered point. -/
theorem leaked_of_step (stepped : step config before action = some after)
    (leaked : (after.calls call).phase = .leaked) :
    (before.calls call).phase = .leaked ∨ before.losesSlot action = true := by
  have move := step_call_move stepped call
  generalize recordOf : after.calls call = record at leaked move
  cases move with
  | same => exact .inl leaked
  | refused => cases leaked
  | opened _ _ _ _ _ _ _ active =>
      rcases active with rfl | rfl | ⟨_, rfl⟩ <;> cases leaked
  | accepted => exact .inl leaked
  | disordered => exact .inl leaked
  | failed => exact .inl leaked
  | admitted => exact .inl leaked
  | withdrawn => exact .inl leaked
  | requested => cases leaked
  | delivered => cases leaked
  | advanced delivery =>
      dsimp only at leaked
      split at leaked <;> cases leaked
  | abandoned =>
      right
      have goesOn := phase_of_abandon stepped
      rw [recordOf, leaked] at goesOn
      change (before.calls call).phase.uncovered = true
      cases phase : (before.calls call).phase <;> rw [phase] at goesOn <;>
        first | rfl | cases goesOn
  | finished => cases leaked
  | cancelled => exact .inl leaked

theorem leaked_of_loses (lost : before.losesSlot (.abandon call) = true)
    (stepped : step config before (.abandon call) = some after) :
    (after.calls call).phase = .leaked := by
  have goesOn := phase_of_abandon stepped
  change (before.calls call).phase.uncovered = true at lost
  cases phase : (before.calls call).phase <;> rw [phase] at goesOn lost <;>
    first | exact (Option.some.inj goesOn).symm | cases lost

/-- Nothing ever takes up a lost generator. -/
theorem leaked_kept (stepped : step config before action = some after)
    (leaked : (before.calls call).phase = .leaked) : (after.calls call).phase = .leaked := by
  have move := step_call_move stepped call
  generalize recordOf : after.calls call = record at move ⊢
  cases move with
  | same => exact leaked
  | refused _ _ _ phase =>
      rw [leaked] at phase
      rcases phase with impossible | impossible <;> cases impossible
  | opened _ _ _ _ _ _ idle =>
      rw [leaked] at idle
      cases idle
  | accepted => exact leaked
  | disordered => exact leaked
  | failed => exact leaked
  | admitted => exact leaked
  | withdrawn => exact leaked
  | requested _ phase =>
      rw [leaked] at phase
      cases phase
  | delivered _ _ phase =>
      rw [leaked] at phase
      cases phase
  | advanced _ phase =>
      rw [leaked] at phase
      cases phase
  | abandoned =>
      have goesOn := phase_of_abandon stepped
      rw [leaked] at goesOn
      cases goesOn
  | finished _ phase =>
      rw [leaked] at phase
      cases phase
  | cancelled => exact leaked

end Losing

def State.Unleaked (state : State) : Prop := forall call, (state.calls call).phase ≠ .leaked

theorem unleaked_of_reachable {config : GatewayConfig} {state : State}
    (reached : (machine config).ReachableUnder KeepsSlots state) : state.Unleaked := by
  refine reached.invariant ?_ ?_
  · rintro start ⟨⟩ call
    exact nofun
  · intro before action after _ inductionHypothesis kept stepped call leaked
    rcases leaked_of_step stepped leaked with earlier | lost
    · exact inductionHypothesis call earlier
    · rw [show before.losesSlot action = false from kept] at lost
      cases lost

/-- The condition on runs is exact: a step that does not meet it loses the slot
in every state from then on. -/
theorem slot_lost {config : GatewayConfig} {before after later : State} {call : Nat}
    (reached : (machine config).Reachable before)
    (lost : before.losesSlot (.abandon call) = true)
    (stepped : step config before (.abandon call) = some after)
    (path : Relation.ReflTransGen ((machine config).StepUnder fun _ _ => True) after later) :
    (later.calls call).phase = .leaked ∧
      later.jobs.lookup (later.calls call).jobId = some call := by
  have start : (machine config).Reachable after := reached.next (.abandon call) trivial stepped
  have ended : (machine config).Reachable later ∧ (later.calls call).phase = .leaked := by
    induction path with
    | refl => exact ⟨start, leaked_of_loses lost stepped⟩
    | tail _ last inductionHypothesis =>
        rcases last with ⟨action, _, moved⟩
        exact ⟨inductionHypothesis.1.next action trivial moved,
          leaked_kept moved inductionHypothesis.2⟩
  refine ⟨ended.2, (slotted_of_reachable ended.1 _ call).mpr ⟨?_, rfl⟩⟩
  rw [ended.2]
  rfl

/-! ## A full outgoing queue -/

/-- The Kubernetes request of the samples. -/
def releaseOf (jobId : String) : KubernetesReleaseRequest :=
  { jobId := jobId, namespaceName := "shop", releaseName := "shop"
    chartPath := "charts/djangoops", image := "registry.example/shop", valuesJson := "\x7b\x7d"
    credentialRef := "file:shop", migrationTimeoutSeconds := 300, rolloutTimeoutSeconds := 300
    rollbackPolicy := "allow", mode := "release", previousRevision := 0 }

/-- One operation is dispatched and given up again, over and over, while the
agent does not read its stream. -/
def fillingOutgoing (rounds : Nat) : List Action :=
  [.connect 0, .firstFrame 0 (some (helloOf "alpha" "alpha-token")), .register 0] ++
    (List.range rounds).flatMap fun call =>
      [.openKubernetes call "alpha" (releaseOf "k8s-1"), .abandon call, .finalise call]

end Gateway
end DjangoOps
