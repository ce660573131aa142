import DjangoOps.Agent.LedgerSafety

namespace DjangoOps
namespace Agent

open Protocol

/-!
# The slots of active jobs

`active` maps a job id to the goroutine that works under it.  `admitJob` makes
an entry; `startKubernetes` deletes it when it does not start the job, and the
deferred `done()` when the goroutine ends.  In between nobody else works for
this connection under the id.
-/

/-- The goroutine has an entry among the active jobs of its connection. -/
def WorkerPhase.holdsSlot : WorkerPhase -> Bool
  | .prepared => true
  | .running _ => true
  | .returned _ _ => true
  | .concluded _ => true
  | .sent => true
  | .marked => true
  | _ => false

/-- A worker changes in nothing that the active jobs depend on. -/
structure SameSlot (before after : Worker) : Prop where
  request : after.request = before.request
  connection : after.connection = before.connection
  holds : after.phase.holdsSlot = before.phase.holdsSlot
  unused : before.phase = .fresh -> after.phase = .fresh

/-- The entries of the active jobs are the goroutines that hold a slot. -/
structure Slotted (state : State) : Prop where
  active : forall jobId worker, state.active.lookup jobId = some worker ->
    (state.workers worker).request.jobId = jobId ∧
      (state.workers worker).connection = state.connection ∧
      (state.workers worker).phase.holdsSlot = true
  holder : forall worker, (state.workers worker).connection = state.connection ->
    (state.workers worker).phase.holdsSlot = true ->
    state.active.lookup (state.workers worker).request.jobId = some worker
  bounded : forall worker, (state.workers worker).phase ≠ .fresh ->
    (state.workers worker).connection ≤ state.connection
  loading : forall request worker,
    state.loop = .admitted request worker ∨ state.loop = .begun request worker ->
    (state.workers worker).connection = state.connection

/-- The last frame of a goroutine names its job. -/
def State.NamesJobs (state : State) : Prop :=
  forall worker frame, (state.workers worker).phase = .concluded frame ->
    frame.event?.map Prod.fst = some (state.workers worker).request.jobId

/-- The actions that make, delete or forget entries. -/
def Action.movesSlots : Action -> Bool
  | .connect => true
  | .crash => true
  | .admitJob _ => true
  | .begin _ => true
  | .done _ => true
  | _ => false

section Preservation

variable {config : AgentConfig} {before after : State} {action : Action} {events : List Event}

theorem active_markCompleted (state : State) (jobId : String) :
    (state.markCompleted jobId).active = state.active ∧
      (state.markCompleted jobId).connection = state.connection := by
  unfold State.markCompleted
  split <;> exact ⟨rfl, rfl⟩

/-- The other actions leave the active jobs alone. -/
theorem active_of_step (stepped : Agent.step config before action = some (after, events))
    (outside : action.movesSlots = false) :
    after.active = before.active ∧ after.connection = before.connection := by
  cases action <;> simp only [Agent.step, silent] at stepped
  case connect => cases outside
  case crash => cases outside
  case admitJob => cases outside
  case begin => cases outside
  case done => cases outside
  case disconnect =>
    rcases Option.map_eq_some_iff.mp stepped with ⟨state, moved, result⟩
    cases result
    unfold State.disconnect at moved
    split at moved <;> cases moved
    exact ⟨rfl, rfl⟩
  case shutdown =>
    cases stepped
    exact ⟨rfl, rfl⟩
  case receive frame =>
    unfold State.receive at stepped
    split at stepped
    · split at stepped
      · split at stepped <;> cases stepped <;> exact ⟨rfl, rfl⟩
      · split at stepped <;> cases stepped <;> exact ⟨rfl, rfl⟩
      · split at stepped <;> cases stepped <;> exact ⟨rfl, rfl⟩
    · cases stepped
  case launch =>
    unfold State.launch at stepped
    split at stepped <;> cases stepped
    exact ⟨rfl, rfl⟩
  case answer =>
    unfold State.answer at stepped
    split at stepped <;> cases stepped
    exact ⟨rfl, rfl⟩
  case progress =>
    unfold State.progress at stepped
    dsimp only at stepped
    split at stepped
    · split at stepped
      · cases stepped
        exact ⟨rfl, rfl⟩
      · split at stepped <;> cases stepped
        exact ⟨rfl, rfl⟩
    · cases stepped
  case finish =>
    rcases Option.map_eq_some_iff.mp stepped with ⟨state, moved, result⟩
    cases result
    unfold State.finish at moved
    dsimp only at moved
    split at moved <;> cases moved <;> exact ⟨rfl, rfl⟩
  case record =>
    rcases Option.map_eq_some_iff.mp stepped with ⟨state, moved, result⟩
    cases result
    unfold State.record at moved
    split at moved
    · split at moved <;> cases moved <;> exact ⟨rfl, rfl⟩
    · cases moved
  case send =>
    unfold State.send at stepped
    split at stepped
    · split at stepped <;> cases stepped
      exact ⟨rfl, rfl⟩
    · cases stepped
  case mark worker =>
    rcases Option.map_eq_some_iff.mp stepped with ⟨state, moved, result⟩
    cases result
    unfold State.mark at moved
    split at moved <;> cases moved
    exact active_markCompleted before _

/-- They leave every worker its slot as well. -/
theorem WorkerMove.sameSlot {worker : Nat} {record : Worker}
    (move : WorkerMove config before worker action record) (placed : Placed before)
    (outside : action.movesSlots = false) : SameSlot (before.workers worker) record := by
  have busy : (before.workers worker).phase.holdsSlot = true ->
      record.request = (before.workers worker).request ->
      record.connection = (before.workers worker).connection ->
      record.phase.holdsSlot = true -> SameSlot (before.workers worker) record := by
    intro held request connection holds
    refine ⟨request, connection, holds.trans held.symm, fun fresh => ?_⟩
    rw [fresh] at held
    cases held
  cases move with
  | same => exact ⟨rfl, rfl, rfl, id⟩
  | cancelled => exact ⟨rfl, rfl, rfl, id⟩
  | killed => cases outside
  | prepared => cases outside
  | diagnosing => cases outside
  | refused => cases outside
  | begun => cases outside
  | launched request loop =>
      refine busy ?_ rfl rfl rfl
      rw [(placed.begun request worker loop).1]
      rfl
  | progressed _ _ _ _ running => exact busy (by rw [running]; rfl) rfl rfl rfl
  | diagnosed _ _ _ _ _ running => exact busy (by rw [running]; rfl) rfl rfl rfl
  | returned _ _ _ _ running => exact busy (by rw [running]; rfl) rfl rfl rfl
  | recorded _ _ _ _ _ returned => exact busy (by rw [returned]; rfl) rfl rfl rfl
  | unrecorded _ _ _ _ _ returned => exact busy (by rw [returned]; rfl) rfl rfl rfl
  | sent _ _ concluded => exact busy (by rw [concluded]; rfl) rfl rfl rfl
  | marked sent => exact busy (by rw [sent]; rfl) rfl rfl rfl
  | done => cases outside

/-- A step that only sets phases, and no slot. -/
theorem Slotted.of_sameSlot (slotted : Slotted before) (active : after.active = before.active)
    (connection : after.connection = before.connection)
    (loop : forall request worker,
      after.loop = .admitted request worker ∨ after.loop = .begun request worker ->
      before.loop = .admitted request worker ∨ before.loop = .begun request worker)
    (same : forall worker, SameSlot (before.workers worker) (after.workers worker)) :
    Slotted after where
  active := by
    intro jobId worker found
    rw [active] at found
    rcases slotted.active jobId worker found with ⟨named, own, holds⟩
    refine ⟨?_, ?_, (same worker).holds.trans holds⟩
    · rw [(same worker).request]
      exact named
    · rw [(same worker).connection, connection]
      exact own
  holder := by
    intro worker own holds
    rw [(same worker).connection, connection] at own
    rw [(same worker).holds] at holds
    rw [active, (same worker).request]
    exact slotted.holder worker own holds
  bounded := by
    intro worker used
    rw [(same worker).connection, connection]
    exact slotted.bounded worker fun fresh => used ((same worker).unused fresh)
  loading := by
    intro request worker place
    rw [(same worker).connection, connection]
    exact slotted.loading request worker (loop request worker place)

theorem Slotted.connect (slotted : Slotted before) (stepped : before.connect = some after) :
    Slotted after := by
  unfold State.connect at stepped
  split at stepped <;> cases stepped
  refine ⟨?_, ?_, ?_, ?_⟩
  · intro jobId worker found
    cases found
  · intro worker own holds
    have used : (before.workers worker).phase ≠ .fresh := by
      intro fresh
      change (before.workers worker).phase.holdsSlot = true at holds
      rw [fresh] at holds
      cases holds
    have bound := slotted.bounded worker used
    change (before.workers worker).connection = before.connection + 1 at own
    omega
  · intro worker used
    exact Nat.le_succ_of_le (slotted.bounded worker used)
  · rintro request worker (impossible | impossible) <;> cases impossible

theorem Slotted.crash (slotted : Slotted before) : Slotted before.crash := by
  have killed : forall worker, (before.crash.workers worker).phase.holdsSlot = false := by
    intro worker
    simp only [State.crash]
    split
    · rename_i fresh
      rw [fresh]
      rfl
    · rfl
  refine ⟨?_, ?_, ?_, ?_⟩
  · intro jobId worker found
    cases found
  · intro worker _ holds
    rw [killed worker] at holds
    cases holds
  · intro worker used
    simp only [State.crash] at used ⊢
    split
    · rename_i fresh
      rw [if_pos fresh] at used
      exact absurd fresh used
    · rename_i earlier
      exact slotted.bounded worker earlier
  · rintro request worker (impossible | impossible) <;> cases impossible

/-- A new goroutine takes a slot under an id that nobody has. -/
theorem Slotted.insert (slotted : Slotted before) {worker : Nat} {record : Worker}
    (unused : (before.workers worker).phase = .fresh)
    (free : record.request.jobId ∉ before.active)
    (own : record.connection = before.connection) (holds : record.phase.holdsSlot = true)
    (active : after.active = before.active.insert record.request.jobId worker)
    (connection : after.connection = before.connection)
    (workers : after.workers = Function.update before.workers worker record)
    (loop : forall request other,
      after.loop = .admitted request other ∨ after.loop = .begun request other -> other = worker) :
    Slotted after := by
  have self : after.workers worker = record := by
    rw [workers]
    exact Function.update_self _ _ _
  have kept : forall other, other ≠ worker -> after.workers other = before.workers other := by
    intro other different
    rw [workers]
    exact Function.update_of_ne different _ _
  refine ⟨?_, ?_, ?_, ?_⟩
  · intro jobId other found
    rw [active] at found
    by_cases named : jobId = record.request.jobId
    · subst named
      rw [AList.lookup_insert] at found
      cases found
      rw [self, connection]
      exact ⟨rfl, own, holds⟩
    · rw [AList.lookup_insert_ne named] at found
      have earlier := slotted.active jobId other found
      have different : other ≠ worker := by
        rintro rfl
        rw [unused] at earlier
        cases earlier.2.2
      rw [kept other different, connection]
      exact earlier
  · intro other current held
    by_cases same : other = worker
    · subst same
      rw [self, active, AList.lookup_insert]
    · rw [kept other same] at current held ⊢
      rw [connection] at current
      have earlier := slotted.holder other current held
      have named : (before.workers other).request.jobId ≠ record.request.jobId := by
        intro clash
        rw [clash] at earlier
        exact free (AList.lookup_isSome.mp (by rw [earlier]; rfl))
      rw [active, AList.lookup_insert_ne named]
      exact earlier
  · intro other used
    by_cases same : other = worker
    · subst same
      rw [self, connection]
      exact Nat.le_of_eq own
    · rw [kept other same] at used ⊢
      rw [connection]
      exact slotted.bounded other used
  · intro request other place
    rw [loop request other place, self, connection]
    exact own

/-- A goroutine of the connection gives its slot back. -/
theorem Slotted.erase (slotted : Slotted before) {worker : Nat} (phase : WorkerPhase)
    (own : (before.workers worker).connection = before.connection)
    (held : (before.workers worker).phase.holdsSlot = true) (free : phase.holdsSlot = false)
    (active : after.active = before.active.erase (before.workers worker).request.jobId)
    (connection : after.connection = before.connection)
    (workers : after.workers = (before.setPhase worker phase).workers)
    (loop : forall request other,
      after.loop = .admitted request other ∨ after.loop = .begun request other ->
      before.loop = .admitted request other ∨ before.loop = .begun request other) :
    Slotted after := by
  have entry := slotted.holder worker own held
  have self : after.workers worker = { before.workers worker with phase := phase } := by
    rw [workers]
    exact before.workers_setPhase_self worker phase
  have kept : forall other, other ≠ worker -> after.workers other = before.workers other := by
    intro other different
    rw [workers]
    exact before.workers_modifyWorker_ne different _
  refine ⟨?_, ?_, ?_, ?_⟩
  · intro jobId other found
    rw [active] at found
    by_cases named : jobId = (before.workers worker).request.jobId
    · subst named
      rw [AList.lookup_erase] at found
      cases found
    · rw [AList.lookup_erase_ne named] at found
      have earlier := slotted.active jobId other found
      have different : other ≠ worker := by
        rintro rfl
        exact named earlier.1.symm
      rw [kept other different, connection]
      exact earlier
  · intro other current holds
    by_cases same : other = worker
    · subst same
      rw [self] at holds
      cases free.symm.trans holds
    · rw [kept other same] at current holds ⊢
      rw [connection] at current
      have earlier := slotted.holder other current holds
      have named : (before.workers other).request.jobId ≠
          (before.workers worker).request.jobId := by
        intro clash
        rw [clash, entry] at earlier
        exact same (Option.some.inj earlier).symm
      rw [active, AList.lookup_erase_ne named]
      exact earlier
  · intro other used
    by_cases same : other = worker
    · subst same
      rw [self, connection]
      exact Nat.le_of_eq own
    · rw [kept other same] at used ⊢
      rw [connection]
      exact slotted.bounded other used
  · intro request other place
    have loading := slotted.loading request other (loop request other place)
    by_cases same : other = worker
    · subst same
      rw [self, connection]
      exact loading
    · rw [kept other same, connection]
      exact loading

theorem Slotted.admitJob (slotted : Slotted before) {worker : Nat}
    (stepped : before.admitJob worker = some (after, events)) : Slotted after := by
  unfold State.admitJob at stepped
  split at stepped
  · rename_i request examined
    split at stepped
    · cases stepped
      refine slotted.of_sameSlot rfl rfl ?_ fun _ => ⟨rfl, rfl, rfl, id⟩
      rintro _ _ (impossible | impossible) <;> cases impossible
    · rename_i room
      have free : request.jobId ∉ before.active := fun taken => room (.inl taken)
      split at stepped
      · rename_i unused
        dsimp only at stepped
        split at stepped <;> cases stepped
        · refine slotted.insert unused ?_ ?_ ?_ rfl rfl rfl ?_
          · exact free
          · rfl
          · rfl
          · rintro _ _ (same | impossible)
            · cases same
              rfl
            · cases impossible
        · refine slotted.insert unused ?_ ?_ ?_ rfl rfl rfl ?_
          · exact free
          · rfl
          · rfl
          · rintro _ _ (impossible | impossible) <;> cases impossible
      · cases stepped
  · cases stepped

theorem Slotted.begin (slotted : Slotted before) (placed : Placed before) {io : LedgerIO}
    (stepped : before.begin config io = some after) : Slotted after := by
  unfold State.begin at stepped
  split at stepped
  · rename_i request worker loop
    rcases placed.admitted request worker loop with ⟨prepared, kind, _⟩
    have own := slotted.loading request worker (.inl loop)
    have refused : forall result,
        Slotted (before.refuse worker request.jobId result) := by
      intro result
      refine slotted.erase .refused own (by rw [prepared]; rfl) rfl ?_ rfl rfl ?_
      · rw [kind]
        rfl
      · rintro _ _ (impossible | impossible) <;> cases impossible
    dsimp only at stepped
    split at stepped <;> cases stepped
    · exact refused _
    · exact refused _
    · refine slotted.of_sameSlot rfl rfl ?_ fun other => ?_
      · rintro _ _ (impossible | same)
        · cases impossible
        · cases same
          exact .inl loop
      · rw [State.workers_modifyWorker]
        split
        · rename_i same
          subst same
          exact ⟨rfl, rfl, rfl, id⟩
        · exact ⟨rfl, rfl, rfl, id⟩
  · cases stepped

theorem Slotted.done (slotted : Slotted before) {worker : Nat}
    (stepped : before.done worker = some after) : Slotted after := by
  unfold State.done at stepped
  split at stepped
  · rename_i marked
    dsimp only at stepped
    split at stepped <;> cases stepped
    · rename_i own
      exact slotted.erase .finished own (by rw [marked]; rfl) rfl rfl rfl rfl fun _ _ => id
    · rename_i foreign
      have kept : forall other, (before.workers other).connection = before.connection ->
          (before.setPhase worker .finished).workers other = before.workers other := by
        intro other current
        refine before.workers_modifyWorker_ne ?_ _
        rintro rfl
        exact foreign current
      have connection : forall other,
          ((before.setPhase worker .finished).workers other).connection =
            (before.workers other).connection := by
        intro other
        rw [State.setPhase, State.workers_modifyWorker]
        split
        · rename_i same
          rw [same]
        · rfl
      refine ⟨?_, ?_, ?_, ?_⟩
      · intro jobId other found
        have earlier := slotted.active jobId other found
        rw [kept other earlier.2.1]
        exact earlier
      · intro other current holds
        rw [connection] at current
        rw [kept other current] at holds ⊢
        exact slotted.holder other current holds
      · intro other used
        rw [connection]
        by_cases same : other = worker
        · subst same
          refine slotted.bounded other fun fresh => ?_
          cases marked.symm.trans fresh
        · rw [State.setPhase, before.workers_modifyWorker_ne same] at used
          exact slotted.bounded other used
      · intro request other place
        rw [connection]
        exact slotted.loading request other place
  · cases stepped

theorem Slotted.step (slotted : Slotted before) (placed : Placed before)
    (stepped : Agent.step config before action = some (after, events)) : Slotted after := by
  by_cases outside : action.movesSlots = false
  · rcases active_of_step stepped outside with ⟨active, connection⟩
    refine slotted.of_sameSlot active connection ?_ fun worker =>
      (step_worker_move stepped worker).sameSlot placed outside
    intro request worker place
    have move := step_loop_move stepped
    generalize after.loop = loop at move place
    cases move with
    | same => exact place
    | admitted => cases outside
    | begun => cases outside
    | _ => rcases place with impossible | impossible <;> cases impossible
  · cases action <;> simp only [Agent.step, silent] at stepped
    case connect =>
      rcases Option.map_eq_some_iff.mp stepped with ⟨state, moved, result⟩
      cases result
      exact slotted.connect moved
    case crash =>
      cases stepped
      exact slotted.crash
    case admitJob => exact slotted.admitJob stepped
    case begin =>
      rcases Option.map_eq_some_iff.mp stepped with ⟨state, moved, result⟩
      cases result
      exact slotted.begin placed moved
    case done =>
      rcases Option.map_eq_some_iff.mp stepped with ⟨state, moved, result⟩
      cases result
      exact slotted.done moved
    all_goals exact absurd rfl outside

theorem Slotted.initial : Slotted .initial where
  active := fun _ _ impossible => nomatch impossible
  holder := fun _ _ impossible => nomatch impossible
  bounded := fun _ used => absurd rfl used
  loading := by rintro _ _ (impossible | impossible) <;> cases impossible

theorem slotted_of_reachable {state : State} (reached : (machine config).Reachable state) :
    Slotted state := by
  refine reached.invariant ?_ ?_
  · rintro start ⟨⟩
    exact .initial
  · rintro before action after reached slotted _ stepped
    rcases Option.map_eq_some_iff.mp stepped with ⟨⟨state, events⟩, taken, same⟩
    cases same
    exact slotted.step (Invariant.reachable reached).placed taken

theorem State.NamesJobs.step (names : before.NamesJobs)
    (stepped : Agent.step config before action = some (after, events)) : after.NamesJobs := by
  intro worker frame concluded
  have earlier := names worker
  have move := step_worker_move stepped worker
  generalize after.workers worker = record at move concluded ⊢
  cases move with
  | same => exact earlier frame concluded
  | cancelled => exact earlier frame concluded
  | begun => exact earlier frame concluded
  | diagnosed _ _ _ _ kind =>
      cases concluded
      rw [kind]
      rfl
  | recorded _ _ _ _ kind =>
      cases concluded
      rw [kind]
      rfl
  | unrecorded _ _ _ _ kind =>
      cases concluded
      rw [kind]
      rfl
  | _ => cases concluded

theorem namesJobs_of_reachable {state : State} (reached : (machine config).Reachable state) :
    state.NamesJobs := by
  refine reached.invariant ?_ ?_
  · rintro start ⟨⟩ worker frame impossible
    cases impossible
  · rintro before action after _ names _ stepped
    rcases Option.map_eq_some_iff.mp stepped with ⟨⟨state, events⟩, taken, same⟩
    cases same
    exact names.step taken

end Preservation

end Agent
end DjangoOps
