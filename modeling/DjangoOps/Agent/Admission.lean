import DjangoOps.Foundation.Recency
import DjangoOps.Agent.Moves
import DjangoOps.Agent.Slots

namespace DjangoOps
namespace Agent

open Protocol

/-!
# Diagnostics jobs that are admitted again

`admit` looks an id up in the set of completed jobs and then, under another
mutex, in the map of active jobs.  A goroutine that ends enters the first and
leaves the second, in this order; between the two look-ups it may do both.
-/

/-! ## The completed jobs -/

/-- The agent with a memory of the ids that its process has completed, oldest
first.  An id that is completed again while it is still retained is not news. -/
structure History where
  agent : State
  completions : List String

namespace History

def complete (history : History) (jobId : String) : List String :=
  if jobId ∈ history.agent.completed then history.completions else history.completions ++ [jobId]

def remember (history : History) : Action -> List String
  | .mark worker => history.complete (history.agent.workers worker).request.jobId
  | .crash => []
  | _ => history.completions

def step (config : AgentConfig) (history : History) (action : Action) : Option History :=
  (Agent.step config history.agent action).map fun result =>
    { agent := result.1, completions := history.remember action }

/-- The agent, with the ids of its completed jobs in the order of their completion. -/
def machine (config : AgentConfig) : Transition.Machine History Action where
  initial := fun history => history = { agent := .initial, completions := [] }
  step := step config

/-- The most recent ids of completed jobs, as many as are retained. -/
def recent (history : History) : List String := history.completions.rtake maxCompletedJobs

/-- `completed` and `completedOrder` are the most recent ids. -/
structure Retained (history : History) : Prop where
  order : history.agent.completedOrder = history.recent
  members : forall jobId, jobId ∈ history.agent.completed <-> jobId ∈ history.recent
  distinct : history.recent.Nodup

end History

def State.completedMemory (state : State) : Recency.Memory String :=
  { members := state.completed, order := state.completedOrder }

/-- `markCompleted` inserts into a memory of the most recent ids. -/
theorem completedMemory_markCompleted (state : State) (jobId : String) :
    (state.markCompleted jobId).completedMemory =
      state.completedMemory.insert maxCompletedJobs jobId := by
  unfold State.markCompleted Recency.Memory.insert State.completedMemory
  dsimp only
  by_cases known : jobId ∈ state.completed
  · rw [if_pos known, if_pos known]
  · rw [if_neg known, if_neg known]
    by_cases full : maxCompletedJobs ≤ state.completedOrder.length
    · simp only [if_pos full]
      cases state.completedOrder <;> rfl
    · simp only [if_neg full]

theorem History.retained_iff {history : History} : history.Retained <->
    Recency.Holds maxCompletedJobs history.completions history.agent.completedMemory := by
  constructor
  · rintro ⟨order, members, distinct⟩
    rw [← order] at members distinct
    refine ⟨order, ?_, distinct⟩
    apply Finset.ext
    intro jobId
    rw [List.mem_toFinset]
    exact members jobId
  · intro holds
    have order : history.agent.completedOrder = history.recent := holds.recent
    refine ⟨order, fun jobId => ?_, ?_⟩
    · rw [← order]
      exact holds.mem_iff jobId
    · rw [← order]
      exact holds.distinct

section Preservation

variable {config : AgentConfig} {before after : State} {action : Action} {events : List Event}

namespace History

variable {history next : History}

theorem step_move (stepped : history.step config action = some next) :
    Exists fun events : List Event => Move config history.agent action next.agent events ∧
      next.completions = history.remember action := by
  rcases Option.map_eq_some_iff.mp stepped with ⟨⟨agent, events⟩, taken, rfl⟩
  exact ⟨events, Agent.step_move taken, rfl⟩

theorem Retained.of_same (retained : history.Retained)
    (completed : next.agent.completed = history.agent.completed)
    (order : next.agent.completedOrder = history.agent.completedOrder)
    (log : next.completions = history.completions) : next.Retained := by
  have recent : next.recent = history.recent := congrArg (List.rtake · maxCompletedJobs) log
  refine ⟨?_, ?_, ?_⟩
  · rw [order, recent]
    exact retained.order
  · rw [completed, recent]
    exact retained.members
  · rw [recent]
    exact retained.distinct

/-- A process that has completed nothing. -/
theorem retained_of_empty (completed : history.agent.completed = ∅)
    (order : history.agent.completedOrder = []) (log : history.completions = []) :
    history.Retained := by
  have none : history.recent = [] := by
    rw [recent, log, List.rtake_nil]
  refine ⟨?_, ?_, ?_⟩
  · rw [order, none]
  · intro jobId
    rw [completed, none]
    simp only [Finset.notMem_empty, List.not_mem_nil]
  · rw [none]
    exact List.nodup_nil

theorem Retained.complete (retained : history.Retained) (jobId : String) :
    ({ agent := history.agent.markCompleted jobId, completions := history.complete jobId } :
      History).Retained := by
  have holds := retained_iff.mp retained
  have log : history.complete jobId =
      Recency.record maxCompletedJobs history.completions jobId := by
    unfold History.complete Recency.record
    simp only [retained.members, recent]
  refine retained_iff.mpr ?_
  dsimp only
  rw [log, completedMemory_markCompleted]
  exact holds.insert (by decide) jobId

theorem Retained.step (retained : history.Retained)
    (stepped : history.step config action = some next) : next.Retained := by
  rcases step_move stepped with ⟨events, move, log⟩
  rcases next with ⟨agent, completions⟩
  dsimp only at move log
  cases move with
  | crashed =>
      exact retained_of_empty rfl rfl log
  | marked worker =>
      subst log
      exact (retained.complete (history.agent.workers worker).request.jobId).of_same rfl rfl rfl
  | _ => exact retained.of_same rfl rfl log

theorem retained_of_reachable {guard : History -> Action -> Prop}
    (reached : (machine config).ReachableUnder guard history) : history.Retained := by
  refine reached.invariant ?_ ?_
  · rintro start ⟨⟩
    exact retained_of_empty rfl rfl rfl
  · exact fun _ _ _ _ retained _ stepped => retained.step stepped

/-- A run with the memory is a run of the agent. -/
def Ran (config : AgentConfig) (history : History) : Prop :=
  (Agent.machine config).Reachable history.agent

theorem ran_of_reachable {guard : History -> Action -> Prop}
    (reached : (machine config).ReachableUnder guard history) : history.Ran config := by
  refine reached.invariant ?_ ?_
  · rintro start ⟨⟩
    exact .start rfl
  · rintro before action after _ earlier _ stepped
    rcases Option.map_eq_some_iff.mp stepped with ⟨result, taken, rfl⟩
    refine earlier.next action trivial ?_
    change Option.map Prod.fst (Agent.step config before.agent action) = _
    rw [taken]
    rfl

end History

end Preservation

/-! ## The two look-ups of `admit` -/

/-- While a diagnostics request stands between the two look-ups, no goroutine
of its id that has no entry among the active jobs is marked completed, and none
that is marked completed leaves the active jobs. -/
def ChecksHold (history : History) (action : Action) : Prop :=
  match history.agent.loop, action with
  | .examined (.diagnostics request), .mark worker =>
      (history.agent.workers worker).request.jobId = request.jobId ->
        request.jobId ∈ history.agent.active
  | .examined (.diagnostics request), .done worker =>
      (history.agent.workers worker).request.jobId = request.jobId ->
        (history.agent.workers worker).connection = history.agent.connection ->
          request.jobId ∉ history.agent.completed
  | _, _ => True

instance (history : History) (action : Action) : Decidable (ChecksHold history action) := by
  unfold ChecksHold
  split <;> infer_instance

/-- The id of a request between the two look-ups is active when it has been
completed since the first one. -/
def History.StillActive (history : History) : Prop :=
  forall request, history.agent.loop = .examined (.diagnostics request) ->
    request.jobId ∈ history.agent.completed -> request.jobId ∈ history.agent.active

theorem mem_completed_of_markCompleted {state : State} {jobId other : String}
    (member : other ∈ (state.markCompleted jobId).completed) :
    other ∈ state.completed ∨ other = jobId := by
  change other ∈ (state.markCompleted jobId).completedMemory.members at member
  rw [completedMemory_markCompleted] at member
  exact (Finset.mem_insert.mp (Recency.Memory.members_insert_subset _ _ member)).symm

theorem History.StillActive.step {config : AgentConfig} {history next : History}
    {action : Action} (active : history.StillActive) (holds : ChecksHold history action)
    (stepped : history.step config action = some next) : next.StillActive := by
  rcases History.step_move stepped with ⟨events, move, _⟩
  rcases next with ⟨agent, completions⟩
  dsimp only at move ⊢
  intro request loop completed
  cases move with
  | examined given waiting safe fresh =>
      cases loop
      exact absurd completed fresh
  | marked worker sent =>
      have before : history.agent.loop = .examined (.diagnostics request) :=
        (history.agent.loop_markCompleted _).symm.trans loop
      change request.jobId ∈ (history.agent.markCompleted _).active
      rw [(active_markCompleted _ _).1]
      rcases mem_completed_of_markCompleted completed with earlier | same
      · exact active request before earlier
      · simp only [ChecksHold, before] at holds
        exact holds same.symm
  | done worker marked here =>
      have still := active request loop completed
      simp only [ChecksHold, show history.agent.loop = _ from loop] at holds
      by_cases own : (history.agent.workers worker).request.jobId = request.jobId
      · exact absurd completed (holds own here)
      · exact AList.mem_erase.mpr ⟨fun same => own same.symm, still⟩
  | doneElsewhere => exact active request loop completed
  | shutdown => exact active request loop completed
  | cancelled _ _ waiting => cases waiting.symm.trans loop
  | rejected _ waiting => cases waiting.symm.trans loop
  | unknown _ waiting => cases waiting.symm.trans loop
  | stopped => exact active request loop completed
  | progressed => exact active request loop completed
  | diagnosed => exact active request loop completed
  | returned => exact active request loop completed
  | recorded => exact active request loop completed
  | unrecorded => exact active request loop completed
  | sent => exact active request loop completed
  | _ => cases loop

theorem stillActive_of_reachable {config : AgentConfig} {history : History}
    (reached : (History.machine config).ReachableUnder ChecksHold history) :
    history.StillActive := by
  refine reached.invariant ?_ ?_
  · rintro start ⟨⟩ request impossible
    cases impossible
  · exact fun _ _ _ _ active holds stepped => active.step holds stepped

/-- A step between the two look-ups that does not meet the condition lets the
next `admitJob` admit an id that is among the most recent completed ones. -/
theorem readmitted_of_late {config : AgentConfig} {history next : History} {action : Action}
    (reached : (History.machine config).Reachable history) (late : ¬ ChecksHold history action)
    (stepped : history.step config action = some next) :
    Exists fun request : DiagnosticsRequest =>
      next.agent.loop = .examined (.diagnostics request) ∧ request.jobId ∈ next.recent ∧
        request.jobId ∉ next.agent.active := by
  have retained := (History.retained_of_reachable reached).step stepped
  rcases History.step_move stepped with ⟨events, move, -⟩
  rcases next with ⟨agent, completions⟩
  dsimp only at move
  unfold ChecksHold at late
  split at late
  · rename_i request worker loop
    rw [Classical.not_imp] at late
    rcases late with ⟨own, free⟩
    cases move
    refine ⟨request, (history.agent.loop_markCompleted _).trans loop, ?_, ?_⟩
    · refine (retained.members request.jobId).mp ?_
      change request.jobId ∈ (history.agent.markCompleted _).completed
      rw [own]
      unfold State.markCompleted
      split
      · assumption
      · exact Finset.mem_insert_self _ _
    · change request.jobId ∉ (history.agent.markCompleted _).active
      rw [(active_markCompleted _ _).1]
      exact free
  · rename_i request worker loop
    rw [Classical.not_imp, Classical.not_imp, not_not] at late
    rcases late with ⟨own, here, completed⟩
    cases move with
    | done =>
        refine ⟨request, loop, (retained.members request.jobId).mp completed, fun listed => ?_⟩
        exact (AList.mem_erase.mp listed).1 own.symm
    | doneElsewhere _ _ elsewhere => exact absurd here elsewhere
  · exact absurd trivial late

/-- In every run in which no goroutine of its id ends between the two look-ups
of a diagnostics request, as the condition says: an id that is admitted is not
among the most recent completed ones, and no goroutine of the connection is at
work under it. -/
theorem admitted_once (config : AgentConfig) (history : History)
    (reached : (History.machine config).ReachableUnder ChecksHold history) (worker : Nat)
    (after : State) (events : List Event) (request : DiagnosticsRequest)
    (stepped : Agent.step config history.agent (.admitJob worker) = some (after, events))
    (started : .started (.diagnostics request) ∈ events) :
    request.jobId ∉ history.recent ∧
      forall other, (history.agent.workers other).connection = history.agent.connection ->
        (history.agent.workers other).request.jobId = request.jobId ->
          (history.agent.workers other).phase.holdsSlot = false := by
  have retained := History.retained_of_reachable reached
  have slotted := slotted_of_reachable (History.ran_of_reachable reached)
  have active := stillActive_of_reachable reached
  have move := step_move stepped
  cases move with
  | dropped =>
      cases List.mem_singleton.mp started
  | admitted => cases started
  | diagnosing given _ loop free =>
      cases List.mem_singleton.mp started
      have missing : request.jobId ∉ history.agent.active := (not_or.mp free).1
      refine ⟨fun recent => ?_, fun other here own => ?_⟩
      · exact missing (active request loop ((retained.members request.jobId).mpr recent))
      · by_contra busy
        have entry := slotted.holder other here (Bool.eq_true_of_not_eq_false busy)
        rw [own] at entry
        exact missing (AList.lookup_isSome.mp (by rw [entry]; rfl))

/-! ## The next job, and the same job once more -/

/-- The agent takes a request for a diagnostics job and starts it. -/
def diagnose (worker : Nat) (jobId : String) : List Action :=
  [.receive (.diagnostics ⟨jobId, "current"⟩), .admitJob worker]

/-- The goroutine of a diagnostics job ends. -/
def conclude (worker : Nat) : List Action :=
  [.finish worker (.diagnostics [] "succeeded"), .send worker true, .mark worker, .done worker]

/-- A second job is admitted behind the first one. -/
theorem admitted_once_next :
    Exists fun history : History => history.recent = ["job-1"] ∧ "job-2" ∉ history.recent := by
  rcases (History.machine .sample).exists_reachableUnder_of_replay ChecksHold
    ([.connect] ++ diagnose 0 "job-1" ++ conclude 0 ++
      [.receive (.diagnostics ⟨"job-2", "current"⟩)])
    ⟨.initial, []⟩ rfl
    (fun history => history.recent = ["job-1"] ∧
      (Agent.step .sample history.agent (.admitJob 1)).map Prod.snd =
        some [.started (.diagnostics ⟨"job-2", "current"⟩)])
    (by decide +kernel) with ⟨history, reached, tested⟩
  rcases of_decide_eq_true tested with ⟨recent, admits⟩
  rcases Option.map_eq_some_iff.mp admits with ⟨⟨after, events⟩, stepped, same⟩
  dsimp only at same
  subst same
  exact ⟨history, recent, (admitted_once .sample history reached 1 after _
    ⟨"job-2", "current"⟩ stepped (.head _)).1⟩

/-- A request for a running job passes the first look-up.  Before the second
one the goroutine ends, and the job is admitted once more. -/
theorem completed_readmitted :
    Exists fun history : History => (History.machine .sample).Reachable history ∧
      history.recent = ["job-1"] ∧
      (Agent.step .sample history.agent (.admitJob 1)).map Prod.snd =
        some [.started (.diagnostics ⟨"job-1", "current"⟩)] := by
  rcases (History.machine .sample).exists_reachableUnder_of_replay (fun _ _ => True)
    ([.connect] ++ diagnose 0 "job-1" ++ [.receive (.diagnostics ⟨"job-1", "current"⟩)] ++
      conclude 0)
    ⟨.initial, []⟩ rfl
    (fun history => history.recent = ["job-1"] ∧
      (Agent.step .sample history.agent (.admitJob 1)).map Prod.snd =
        some [.started (.diagnostics ⟨"job-1", "current"⟩)])
    (by decide +kernel) with ⟨history, reached, tested⟩
  rcases of_decide_eq_true tested with ⟨recent, admits⟩
  exact ⟨history, reached, recent, admits⟩

end Agent
end DjangoOps
