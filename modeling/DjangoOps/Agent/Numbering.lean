import DjangoOps.Agent.Slots

namespace DjangoOps
namespace Agent

open Protocol

/-!
# The numbers of the frames of a job

A job id has at most two sources of frames: the goroutine that works under it,
which numbers its frames from one on, and the receive loop, which may answer
the request with a single frame numbered one.
-/

/-- The number of the job event that a frame carries for this job. -/
def numberFor (jobId : String) (frame : AgentFrame) : Option Nat :=
  match frame.event? with
  | some (named, number) => if named = jobId then some number else none
  | none => none

/-- The numbers that a step sends for a job. -/
def numbersFor (jobId : String) (events : List Event) : List Nat :=
  (events.filterMap Event.frame?).filterMap (numberFor jobId)

/-- The number that the goroutine gives to its next frame, if it has one to send. -/
def WorkerPhase.next? : WorkerPhase -> Option Nat
  | .prepared => some 1
  | .running sequence => some sequence
  | .returned sequence _ => some sequence
  | .concluded frame => some frame.sequence
  | _ => none

/-- The receive loop is busy with a request of this id that has no goroutine. -/
def LoopPhase.handles (jobId : String) : LoopPhase -> Bool
  | .examined request => decide (request.jobId = jobId)
  | .answering named _ => decide (named = jobId)
  | _ => false

namespace State

variable (state : State) (jobId : String)

/-- The next number of the goroutine that works under this id. -/
def working? : Option Nat :=
  (state.active.lookup jobId).bind fun worker => (state.workers worker).phase.next?

/-- How many sources of frames the id has. -/
def sources : Nat :=
  (if state.loop.handles jobId then 1 else 0) + if (state.working? jobId).isSome then 1 else 0

/-- The number of the next frame of a source. -/
def next : Nat := (state.working? jobId).getD 1

end State

/-- What a step means for the frames of one id: nothing is sent, or the next frame. -/
inductive Supply (before after : State) (jobId : String) : List Nat -> Prop
  | silent (fewer : after.sources jobId ≤ before.sources jobId)
      (next : after.sources jobId ≠ 0 -> after.next jobId = before.next jobId) :
      Supply before after jobId []
  | sent (some : before.sources jobId ≠ 0) (fewer : after.sources jobId ≤ before.sources jobId)
      (next : after.sources jobId ≠ 0 -> after.next jobId = before.next jobId + 1) :
      Supply before after jobId [before.next jobId]

section Steps

variable {config : AgentConfig} {before after : State} {events : List Event} {jobId : String}

theorem Supply.of_eq (handles : after.loop.handles jobId = before.loop.handles jobId)
    (working : after.working? jobId = before.working? jobId) :
    Supply before after jobId [] := by
  refine .silent ?_ fun _ => ?_
  · unfold State.sources
    rw [handles, working]
  · unfold State.next
    rw [working]

/-- A worker that is nobody's goroutine under this id does not count. -/
theorem working?_congr (active : after.active.lookup jobId = before.active.lookup jobId)
    (same : forall worker, before.active.lookup jobId = some worker ->
      (after.workers worker).phase.next? = (before.workers worker).phase.next?) :
    after.working? jobId = before.working? jobId := by
  unfold State.working?
  rw [active]
  cases found : before.active.lookup jobId with
  | none => rfl
  | some worker => exact same worker found

theorem working?_of_lookup {worker : Nat} (found : before.active.lookup jobId = some worker) :
    before.working? jobId = (before.workers worker).phase.next? := by
  unfold State.working?
  rw [found]
  rfl

theorem working?_eq_none (free : before.active.lookup jobId = none) :
    before.working? jobId = none := by
  unfold State.working?
  rw [free]
  rfl

/-- A phase that keeps the next number of its goroutine. -/
theorem next?_setPhase {worker : Nat} {phase : WorkerPhase}
    (same : phase.next? = (before.workers worker).phase.next?) (other : Nat) :
    ((before.setPhase worker phase).workers other).phase.next? =
      (before.workers other).phase.next? := by
  rw [State.setPhase, State.workers_modifyWorker]
  split
  · rename_i own
    rw [own]
    exact same
  · rfl

/-- The receive loop is done with a request, and no goroutine moves. -/
theorem Supply.of_idle (idle : after.loop.handles jobId = false)
    (working : after.working? jobId = before.working? jobId) :
    Supply before after jobId [] := by
  refine .silent ?_ fun _ => ?_
  · unfold State.sources
    rw [idle, working]
    exact Nat.add_le_add_right (Nat.zero_le _) _
  · unfold State.next
    rw [working]

/-- A request passes from the receive loop to a new goroutine, or back. -/
theorem Supply.of_handed (some : before.sources jobId ≠ 0) (first : before.next jobId = 1)
    (one : after.sources jobId = 1) (again : after.next jobId = 1) :
    Supply before after jobId [] := by
  refine .silent ?_ fun _ => again.trans first.symm
  rw [one]
  exact Nat.one_le_iff_ne_zero.mpr some

/-! ## The receive loop -/

/-- A request is admitted or refused.  The new goroutine gets the slot of its id,
and all others stay, so what supplies the frames of other jobs does not change. -/
theorem Supply.admitJob (slotted : Slotted before) {worker : Nat}
    (stepped : before.admitJob worker = some (after, events)) :
    Supply before after jobId (numbersFor jobId events) := by
  unfold State.admitJob at stepped
  split at stepped
  · rename_i request examined
    split at stepped
    · cases stepped
      exact .of_idle rfl rfl
    · rename_i room
      have free : before.active.lookup request.jobId = none := by
        rw [AList.lookup_eq_none]
        exact fun taken => room (.inl taken)
      split at stepped
      · rename_i unused
        have supply : forall (record : Worker) (loop : LoopPhase),
            record.phase.next? = some 1 -> (forall id, loop.handles id = false) ->
            Supply before
              { ({ before with
                active := before.active.insert request.jobId worker } : State).modifyWorker
                  worker (fun _ => record) with loop := loop } jobId [] := by
          intro record loop one idle
          by_cases named : jobId = request.jobId
          · subst named
            have none : before.working? request.jobId = none := working?_eq_none free
            have working : State.working?
                { ({ before with
                  active := before.active.insert request.jobId worker } : State).modifyWorker
                    worker (fun _ => record) with loop := loop } request.jobId = some 1 := by
              rw [working?_of_lookup (AList.lookup_insert _)]
              change (Function.update before.workers worker record worker).phase.next? = _
              rw [Function.update_self]
              exact one
            refine .of_handed ?_ ?_ ?_ ?_
            · simp only [State.sources, examined, LoopPhase.handles, none]
              simp
            · simp only [State.next, none, Option.getD_none]
            · simp only [State.sources, idle, working]
              rfl
            · simp only [State.next, working, Option.getD_some]
          · refine .of_eq ?_ (working?_congr ?_ ?_)
            · rw [examined]
              change loop.handles jobId = decide (request.jobId = jobId)
              rw [idle, decide_eq_false (Ne.symm named)]
            · exact AList.lookup_insert_ne named
            · intro other found
              have different : other ≠ worker := by
                rintro rfl
                have holds := (slotted.active jobId other found).2.2
                rw [unused] at holds
                cases holds
              change (Function.update before.workers worker record other).phase.next? = _
              rw [Function.update_of_ne different]
        dsimp only at stepped
        split at stepped <;> cases stepped
        · exact supply _ _ rfl fun _ => rfl
        · exact supply _ _ rfl fun _ => rfl
      · cases stepped
  · cases stepped

theorem Supply.begin (slotted : Slotted before) (placed : Placed before) {io : LedgerIO}
    (stepped : before.begin config io = some after) : Supply before after jobId [] := by
  unfold State.begin at stepped
  split at stepped
  · rename_i request worker loop
    rcases placed.admitted request worker loop with ⟨prepared, kind, _⟩
    have own := slotted.loading request worker (.inl loop)
    have named : (before.workers worker).request.jobId = request.jobId := by
      rw [kind]
      rfl
    have entry := slotted.holder worker own (by rw [prepared]; rfl)
    rw [named] at entry
    have refused : forall result,
        Supply before (before.refuse worker request.jobId result) jobId [] := by
      intro result
      by_cases same : jobId = request.jobId
      · subst same
        have working : before.working? request.jobId = some 1 := by
          rw [working?_of_lookup entry, prepared]
          rfl
        have gone : (before.refuse worker request.jobId result).working? request.jobId = none :=
          working?_eq_none (AList.lookup_erase _ _)
        refine .of_handed ?_ ?_ ?_ ?_
        · simp only [State.sources, working]
          simp
        · simp only [State.next, working, Option.getD_some]
        · rw [State.sources, gone]
          change (if decide (request.jobId = request.jobId) = true then 1 else 0) + 0 = 1
          simp
        · simp only [State.next, gone, Option.getD_none]
      · refine .of_eq ?_ (working?_congr ?_ ?_)
        · rw [loop]
          exact decide_eq_false (Ne.symm same)
        · exact AList.lookup_erase_ne same
        · intro other found
          have different : other ≠ worker := by
            rintro rfl
            exact same ((slotted.active jobId other found).1.symm.trans named)
          change ((before.setPhase worker _).workers other).phase.next? = _
          rw [State.setPhase, State.workers_modifyWorker_ne _ different]
    dsimp only at stepped
    split at stepped <;> cases stepped
    · exact refused _
    · exact refused _
    · refine .of_eq ?_ (working?_congr rfl fun other _ => ?_)
      · rw [loop]
        rfl
      · change (Function.update before.workers worker
          { before.workers worker with begun := true } other).phase.next? = _
        by_cases same : other = worker
        · subst same
          rw [Function.update_self]
        · rw [Function.update_of_ne same]
  · cases stepped

theorem Supply.launch (placed : Placed before) (stepped : before.launch = some (after, events)) :
    Supply before after jobId (numbersFor jobId events) := by
  unfold State.launch at stepped
  split at stepped <;> cases stepped
  rename_i request worker loop
  refine .of_idle rfl (working?_congr rfl fun other _ => ?_)
  refine next?_setPhase ?_ other
  rw [(placed.begun request worker loop).1]
  rfl

/-- An answer is the only frame of its id, and is numbered one. -/
theorem Supply.answer (single : before.sources jobId ≤ 1)
    (stepped : before.answer true = some (after, events)) :
    Supply before after jobId (numbersFor jobId events) := by
  unfold State.answer at stepped
  split at stepped <;> cases stepped
  rename_i named result loop
  by_cases same : named = jobId
  · subst same
    have handles : before.loop.handles named = true := by
      rw [loop]
      exact decide_eq_true rfl
    have none : before.working? named = none := by
      rw [State.sources, handles] at single
      cases working : before.working? named with
      | none => rfl
      | some number =>
          rw [working] at single
          exact absurd (show (2 : Nat) ≤ 1 from single) (by decide)
    have first : before.next named = 1 := by
      rw [State.next, none]
      rfl
    have sent : numbersFor named [.frame (persistedResultFrame named 1 result)] =
        [before.next named] := by
      rw [first]
      simp [numbersFor, Event.frame?, numberFor, persistedResultFrame, AgentFrame.event?]
    rw [if_pos rfl, sent]
    have after : State.sources { before with loop := .waiting } named = 0 := by
      change (0 : Nat) + (if (before.working? named).isSome then 1 else 0) = 0
      rw [none]
      rfl
    refine .sent ?_ (by rw [after]; exact Nat.zero_le _) fun some => absurd after some
    rw [State.sources, handles]
    simp
  · have nothing : numbersFor jobId [.frame (persistedResultFrame named 1 result)] = [] := by
      simp [numbersFor, Event.frame?, numberFor, persistedResultFrame, AgentFrame.event?, same]
    rw [if_pos rfl, nothing]
    exact .of_idle rfl rfl

/-! ## The goroutines -/

/-- A step that changes the phase of one goroutine. -/
structure MovesWorker (before after : State) (worker : Nat) : Prop where
  active : after.active = before.active
  loop : after.loop = before.loop
  others : forall other, other ≠ worker ->
    (after.workers other).phase = (before.workers other).phase

theorem movesWorker_setPhase (worker : Nat) (phase : WorkerPhase) :
    MovesWorker before (before.setPhase worker phase) worker where
  active := rfl
  loop := rfl
  others := by
    intro other different
    rw [State.setPhase, State.workers_modifyWorker_ne _ different]

theorem movesWorker_modifyWorker (worker : Nat) (change : Worker -> Worker) (ledger : Ledger) :
    MovesWorker before { before.modifyWorker worker change with ledger := ledger } worker where
  active := rfl
  loop := rfl
  others := fun _ different =>
    congrArg Worker.phase (before.workers_modifyWorker_ne different change)

/-- A goroutine that keeps its next number sends nothing. -/
theorem MovesWorker.kept {worker : Nat} (moves : MovesWorker before after worker)
    (same : (after.workers worker).phase.next? = (before.workers worker).phase.next?) :
    Supply before after jobId [] := by
  refine .of_eq (by rw [moves.loop]) (working?_congr (by rw [moves.active]) fun other _ => ?_)
  by_cases own : other = worker
  · subst own
    exact same
  · rw [moves.others other own]

/-- A goroutine of another connection, or of another job, sends nothing for this one. -/
theorem MovesWorker.foreign {worker : Nat} (moves : MovesWorker before after worker)
    (foreign : before.active.lookup jobId ≠ some worker) : Supply before after jobId [] := by
  refine .of_eq (by rw [moves.loop])
    (working?_congr (by rw [moves.active]) fun other found => ?_)
  rw [moves.others other (by rintro rfl; exact foreign found)]

/-- The goroutine of this job sends its next frame.  The receive loop is not busy
with a request of the same id, so that after the last frame no source is left. -/
theorem MovesWorker.sent {worker number : Nat} (moves : MovesWorker before after worker)
    (single : before.sources jobId ≤ 1) (entry : before.active.lookup jobId = some worker)
    (next : (before.workers worker).phase.next? = some number)
    (later : (after.workers worker).phase.next? = some (number + 1) ∨
      (after.workers worker).phase.next? = none) :
    Supply before after jobId [number] := by
  have working : before.working? jobId = some number := by
    rw [working?_of_lookup entry, next]
  have first : before.next jobId = number := by
    rw [State.next, working]
    rfl
  have again : after.working? jobId = (after.workers worker).phase.next? :=
    working?_of_lookup (by rw [moves.active]; exact entry)
  rw [← first] at later ⊢
  refine .sent ?_ ?_ ?_
  · rw [State.sources, working]
    simp
  · rw [State.sources, State.sources, working, moves.loop]
    refine Nat.add_le_add_left ?_ _
    split
    · exact Nat.le_refl 1
    · exact Nat.zero_le _
  · intro some
    rcases later with next | silent
    · rw [State.next, again, next]
      rfl
    · rw [State.sources, working] at single
      rw [State.sources, again, silent, moves.loop] at some
      cases handles : before.loop.handles jobId with
      | false =>
          rw [handles] at some
          exact absurd rfl some
      | true =>
          rw [handles] at single
          exact absurd (show (2 : Nat) ≤ 1 from single) (by decide)

/-- A goroutine of this connection has its slot. -/
theorem entry_of_live (slotted : Slotted before) {worker : Nat}
    (live : before.live worker = true) (holds : (before.workers worker).phase.holdsSlot = true) :
    before.active.lookup (before.workers worker).request.jobId = some worker :=
  slotted.holder worker (of_decide_eq_true live).1 holds

/-- A goroutine that cannot send has no slot. -/
theorem no_entry_of_dead (slotted : Slotted before) (online : before.loop ≠ .offline)
    {worker : Nat} (dead : before.live worker = false) :
    before.active.lookup jobId ≠ some worker := by
  intro found
  have own := (slotted.active jobId worker found).2.1
  exact absurd ⟨own, online⟩ (of_decide_eq_false dead)

theorem numberFor_progressFrame (request : Request) (sequence : Nat) (phase message : String) :
    numberFor jobId (State.progressFrame request sequence phase message) =
      if request.jobId = jobId then some sequence else none := by
  cases request <;> rfl

theorem Supply.progress (slotted : Slotted before) (online : before.loop ≠ .offline)
    (single : before.sources jobId ≤ 1) {worker : Nat} {phase message : String}
    {delivered : Bool} (goes : (delivered || !before.live worker) = true)
    (stepped : before.progress worker phase message delivered = some (after, events)) :
    Supply before after jobId (numbersFor jobId events) := by
  unfold State.progress at stepped
  dsimp only at stepped
  split at stepped
  · rename_i sequence running
    split at stepped
    · cases stepped
      exact .of_eq rfl rfl
    · split at stepped <;> cases stepped
      rename_i reachable
      have moves : MovesWorker before _ worker :=
        movesWorker_setPhase worker (.running (sequence + 1))
      cases live : before.live worker with
      | false =>
          have silent : delivered = false := by
            cases delivered with
            | false => rfl
            | true => exact absurd ⟨rfl, live⟩ reachable
          subst silent
          exact moves.foreign (no_entry_of_dead slotted online live)
      | true =>
          have arrives : delivered = true := by
            rw [live] at goes
            simpa using goes
          subst arrives
          have entry := entry_of_live slotted live (by rw [running]; rfl)
          by_cases named : (before.workers worker).request.jobId = jobId
          · subst named
            have sent : numbersFor (before.workers worker).request.jobId
                [.frame (State.progressFrame (before.workers worker).request sequence phase message)] =
                [sequence] := by
              simp [numbersFor, Event.frame?, numberFor_progressFrame]
            rw [if_pos rfl, sent]
            refine moves.sent single entry (by rw [running]; rfl) (.inl ?_)
            rw [State.workers_setPhase_self]
            rfl
          · have nothing : numbersFor jobId
                [.frame (State.progressFrame (before.workers worker).request sequence phase message)] =
                [] := by
              simp [numbersFor, Event.frame?, numberFor_progressFrame, named]
            rw [if_pos rfl, nothing]
            refine moves.foreign fun found => named ?_
            exact (slotted.active jobId worker found).1
  · cases stepped

theorem Supply.send (slotted : Slotted before) (names : before.NamesJobs)
    (online : before.loop ≠ .offline) (single : before.sources jobId ≤ 1) {worker : Nat}
    {delivered : Bool} (goes : (delivered || !before.live worker) = true)
    (stepped : before.send worker delivered = some (after, events)) :
    Supply before after jobId (numbersFor jobId events) := by
  unfold State.send at stepped
  split at stepped
  · rename_i frame concluded
    split at stepped <;> cases stepped
    rename_i reachable
    have moves : MovesWorker before _ worker := movesWorker_setPhase worker .sent
    cases live : before.live worker with
    | false =>
        have silent : delivered = false := by
          cases delivered with
          | false => rfl
          | true => exact absurd ⟨rfl, live⟩ reachable
        subst silent
        exact moves.foreign (no_entry_of_dead slotted online live)
    | true =>
        have arrives : delivered = true := by
          rw [live] at goes
          simpa using goes
        subst arrives
        have entry := entry_of_live slotted live (by rw [concluded]; rfl)
        rcases Option.map_eq_some_iff.mp (names worker frame concluded) with
          ⟨⟨own, number⟩, event, ownId⟩
        have carried : frame.sequence = number := by
          rw [AgentFrame.sequence, event]
          rfl
        by_cases named : (before.workers worker).request.jobId = jobId
        · subst named
          have sent : numbersFor (before.workers worker).request.jobId [.frame frame] =
              [number] := by
            simp only [numbersFor, Event.frame?, List.filterMap_cons, List.filterMap_nil,
              numberFor, event]
            rw [if_pos ownId]
          rw [if_pos rfl, sent]
          refine moves.sent single entry ?_ (.inr ?_)
          · rw [concluded]
            exact congrArg some carried
          · rw [State.workers_setPhase_self]
            rfl
        · have nothing : numbersFor jobId [.frame frame] = [] := by
            simp only [numbersFor, Event.frame?, List.filterMap_cons, List.filterMap_nil,
              numberFor, event]
            rw [if_neg fun same => named (ownId.symm.trans same)]
          rw [if_pos rfl, nothing]
          refine moves.foreign fun found => named ?_
          exact (slotted.active jobId worker found).1
  · cases stepped

theorem Supply.finish {worker : Nat} {outcome : Outcome}
    (stepped : before.finish worker outcome = some after) : Supply before after jobId [] := by
  unfold State.finish at stepped
  dsimp only at stepped
  split at stepped <;> cases stepped
  · rename_i running _
    refine (movesWorker_setPhase worker _).kept ?_
    rw [State.workers_setPhase_self, running]
    rfl
  · rename_i running _
    refine (movesWorker_setPhase worker _).kept ?_
    rw [State.workers_setPhase_self, running]
    rfl

theorem Supply.record {worker : Nat} {io : LedgerIO}
    (stepped : before.record config worker io = some after) : Supply before after jobId [] := by
  unfold State.record at stepped
  split at stepped
  · rename_i sequence result request returned kind
    split at stepped <;> cases stepped
    · refine (movesWorker_modifyWorker worker _ _).kept ?_
      change (Function.update before.workers worker _ worker).phase.next? = _
      rw [Function.update_self, returned]
      rfl
    · refine (movesWorker_setPhase worker _).kept ?_
      rw [State.workers_setPhase_self, returned]
      rfl
  · cases stepped

theorem Supply.mark {worker : Nat} (stepped : before.mark worker = some after) :
    Supply before after jobId [] := by
  unfold State.mark at stepped
  split at stepped <;> cases stepped
  rename_i sent
  generalize (before.workers worker).request.jobId = completed
  have moves : MovesWorker before ((before.markCompleted completed).setPhase worker .marked)
      worker := by
    refine ⟨(active_markCompleted before completed).1, before.loop_markCompleted completed, ?_⟩
    intro other different
    rw [State.setPhase, State.workers_modifyWorker_ne _ different, State.workers_markCompleted]
  refine moves.kept ?_
  rw [State.workers_setPhase_self, sent]
  rfl

theorem Supply.done (slotted : Slotted before) {worker : Nat}
    (stepped : before.done worker = some after) : Supply before after jobId [] := by
  unfold State.done at stepped
  split at stepped
  · rename_i marked
    dsimp only at stepped
    split at stepped <;> cases stepped
    · rename_i own
      have entry := slotted.holder worker own (by rw [marked]; rfl)
      by_cases named : jobId = (before.workers worker).request.jobId
      · subst named
        refine .of_eq rfl ?_
        rw [working?_of_lookup entry, marked]
        exact working?_eq_none (AList.lookup_erase _ _)
      · refine .of_eq rfl (working?_congr (AList.lookup_erase_ne named) fun other found => ?_)
        have different : other ≠ worker := by
          rintro rfl
          exact named (slotted.active jobId other found).1.symm
        exact congrArg WorkerPhase.next? ((movesWorker_setPhase worker _).others other different)
    · refine (movesWorker_setPhase worker _).kept ?_
      rw [State.workers_setPhase_self, marked]
      rfl
  · cases stepped

/-- While its connection lasts, the agent sends the frames of an id in order. -/
theorem supply_of_step (slotted : Slotted before) (placed : Placed before)
    (names : before.NamesJobs) (online : before.loop ≠ .offline)
    (single : before.sources jobId ≤ 1) {action : Action} (goes : before.goesOn action = true)
    (stepped : Agent.step config before action = some (after, events)) :
    Supply before after jobId (numbersFor jobId events) := by
  cases action <;> simp only [Agent.step, silent] at stepped
  case connect => cases goes
  case disconnect => cases goes
  case shutdown => cases goes
  case crash => cases goes
  case receive => cases goes
  case admitJob => exact .admitJob slotted stepped
  case begin =>
    rcases Option.map_eq_some_iff.mp stepped with ⟨state, moved, result⟩
    cases result
    exact .begin slotted placed moved
  case launch => exact .launch placed stepped
  case answer delivered =>
    have arrives : delivered = true := goes
    subst arrives
    exact .answer single stepped
  case progress => exact .progress slotted online single goes stepped
  case finish =>
    rcases Option.map_eq_some_iff.mp stepped with ⟨state, moved, result⟩
    cases result
    exact .finish moved
  case record =>
    rcases Option.map_eq_some_iff.mp stepped with ⟨state, moved, result⟩
    cases result
    exact .record moved
  case send => exact .send slotted names online single goes stepped
  case mark =>
    rcases Option.map_eq_some_iff.mp stepped with ⟨state, moved, result⟩
    cases result
    exact .mark moved
  case done =>
    rcases Option.map_eq_some_iff.mp stepped with ⟨state, moved, result⟩
    cases result
    exact .done slotted moved

/-- What the receive loop takes from the stream makes it busy with the id that
the frame names, and sends nothing. -/
structure Takes (before after : State) (frame : ControlFrame) (events : List Event)
    (jobId : String) : Prop where
  silent : numbersFor jobId events = []
  working : after.working? jobId = before.working? jobId
  idle : before.loop.handles jobId = false
  named : after.loop.handles jobId = true -> frame.request?.map Request.jobId = some jobId
  online : after.loop ≠ .offline

/-- The receive loop takes a frame from the stream.  If it carries a request, the
loop is busy with this one. -/
theorem takes_of_receive {frame : ControlFrame}
    (stepped : Agent.step config before (.receive frame) = some (after, events)) :
    Takes before after frame events jobId := by
  simp only [Agent.step, State.receive] at stepped
  split at stepped
  · rename_i waiting
    have idle : before.loop.handles jobId = false := by
      rw [waiting]
      rfl
    have busy : forall (request : Request) (loop : LoopPhase),
        frame.request? = some request ->
        loop.handles jobId = decide (request.jobId = jobId) -> loop ≠ .offline ->
        Takes before { before with loop := loop } frame [] jobId := by
      intro request loop carried handles online
      refine ⟨rfl, rfl, idle, fun own => ?_, online⟩
      rw [carried]
      exact congrArg some (of_decide_eq_true (handles.symm.trans own))
    have online : before.loop ≠ .offline := by
      rw [waiting]
      simp
    split at stepped
    · rename_i request
      split at stepped <;> cases stepped
      · exact ⟨rfl, rfl, idle, fun own => absurd (idle.symm.trans own) (by simp), online⟩
      · exact busy (.diagnostics request) _ rfl rfl (by simp)
    · rename_i request
      split at stepped <;> cases stepped
      · exact busy (.kubernetes request) _ rfl rfl (by simp)
      · exact busy (.kubernetes request) _ rfl rfl (by simp)
    · split at stepped <;> cases stepped
      · exact ⟨rfl, rfl, idle, fun own => absurd (idle.symm.trans own) (by simp), online⟩
      · rename_i worker found
        refine ⟨rfl, working?_congr rfl fun other _ => ?_, idle,
          fun own => absurd (idle.symm.trans own) (by simp), online⟩
        rw [State.workers_modifyWorker]
        split
        · rename_i same
          rw [same]
        · rfl
  · cases stepped

theorem online_of_goesOn {action : Action} (online : before.loop ≠ .offline)
    (goes : before.goesOn action = true)
    (stepped : Agent.step config before action = some (after, events)) :
    after.loop ≠ .offline := by
  have move := step_loop_move stepped
  generalize after.loop = loop at move ⊢
  cases move with
  | same => exact online
  | disconnected => cases goes
  | crashed => cases goes
  | _ => simp

/-- Without a source the next number is the first. -/
theorem next_of_no_source {state : State} (none : state.sources jobId = 0) :
    state.next jobId = 1 := by
  unfold State.sources at none
  unfold State.next
  cases working : state.working? jobId with
  | none => rfl
  | some number =>
      rw [working] at none
      cases (Nat.add_eq_zero_iff.mp none).2

end Steps

end Agent
end DjangoOps
