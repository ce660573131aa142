import DjangoOps.ControlPlane.Telemetry
import DjangoOps.Foundation.LossyQueue

namespace DjangoOps
namespace ControlPlane
namespace Telemetry

open Transition
open LossyQueue (accepted dropped settled)

/-!
# The order of the exports

The export queue of the control plane, like the one of the agent, refines a
queue that rather loses than waits.  An exception that the worker does not catch
ends its thread, so the event that it was exporting is in no account; it is the
last one that any worker takes.
-/

/-- How an export has ended. -/
inductive Verdict
  | exported
  | failed
  | lost
  deriving DecidableEq

/-- The verdict on an export that raises. -/
def ExportError.verdict (error : ExportError) : Verdict :=
  if error.caught then .failed else .lost

def shows (setting : Setting) (state : State) : Action -> List (LossyQueue.Event Event Verdict)
  | .enqueue call =>
      match state.calls[call]? with
      | some (.offering event) =>
          if setting.endpoint = false then []
          else if state.fields.exports.length < setting.size then [.accept event]
          else [.drop event]
      | _ => []
  | .get worker =>
      match state.workers[worker]?, state.fields.exports with
      | some .waiting, event :: _ => [.take event]
      | _, _ => []
  | .exported worker =>
      match state.workers[worker]? with
      | some (.exporting event) => [.settle event .exported]
      | _ => []
  | .raised worker error =>
      match state.workers[worker]? with
      | some (.exporting event) => [.settle event error.verdict]
      | _ => []
  | _ => []

section Shown

variable {setting : Setting} {state : State} {event : Event}

theorem shows_skip {call : Nat} (found : state.calls[call]? = some (.offering event))
    (off : setting.endpoint = false) : shows setting state (.enqueue call) = [] := by
  rw [shows, found]
  exact if_pos off

theorem shows_place {call : Nat} (found : state.calls[call]? = some (.offering event))
    (on : setting.endpoint = true) (room : state.fields.exports.length < setting.size) :
    shows setting state (.enqueue call) = [.accept event] := by
  rw [shows, found]
  dsimp only
  rw [on, if_neg Bool.noConfusion, if_pos room]

theorem shows_refuse {call : Nat} (found : state.calls[call]? = some (.offering event))
    (on : setting.endpoint = true) (full : setting.size ≤ state.fields.exports.length) :
    shows setting state (.enqueue call) = [.drop event] := by
  rw [shows, found]
  dsimp only
  rw [on, if_neg Bool.noConfusion, if_neg (Nat.not_lt_of_le full)]

theorem shows_get {worker : Nat} {rest : List Event}
    (found : state.workers[worker]? = some .waiting)
    (queued : state.fields.exports = event :: rest) :
    shows setting state (.get worker) = [.take event] := by
  rw [shows, found, queued]

theorem shows_exported {worker : Nat} (found : state.workers[worker]? = some (.exporting event)) :
    shows setting state (.exported worker) = [.settle event .exported] := by
  rw [shows, found]

theorem shows_raised {worker : Nat} {error : ExportError}
    (found : state.workers[worker]? = some (.exporting event)) :
    shows setting state (.raised worker error) = [.settle event error.verdict] := by
  rw [shows, found]

end Shown

/-! ## The single worker -/

def Worker.event? : Worker -> Option Event
  | .exporting event => some event
  | _ => none

/-- The events that are being exported. -/
def State.inFlight (state : State) : List Event := state.workers.filterMap Worker.event?

/-- One call, or the thread that it has started, stands for the flag. -/
def Manned (state : State) : Prop :=
  state.workers.length + state.calls.countP Call.isStarting =
    if state.fields.workerStarted then 1 else 0

theorem Manned.single {state : State} (manned : Manned state) {worker : Nat} {found : Worker}
    (listed : state.workers[worker]? = some found) :
    worker = 0 ∧ state.workers = [found] := by
  have few : state.workers.length ≤ 1 := by
    unfold Manned at manned
    split at manned <;> omega
  match workers : state.workers, worker with
  | [], _ =>
      rw [workers] at listed
      cases listed
  | [single], 0 =>
      rw [workers] at listed
      cases listed
      exact ⟨rfl, rfl⟩
  | [single], index + 1 =>
      rw [workers] at listed
      cases listed
  | _ :: _ :: _, _ =>
      rw [workers, List.length_cons, List.length_cons] at few
      omega

section Steps

variable {setting : Setting} {before after : State} {action : Action}

/-- Every step performs on the queue what it shows. -/
theorem queue_step (moved : Move setting before action after) (manned : Manned before)
    {spec : LossyQueue.State Event} (waiting : spec.waiting = before.fields.exports)
    (taken : spec.taken.toList = before.inFlight) :
    Exists fun next : LossyQueue.State Event =>
      (LossyQueue.machine setting.size).perform spec (shows setting before action) = some next ∧
        next.waiting = after.fields.exports ∧ next.taken.toList = after.inFlight := by
  cases moved with
  | skip found off =>
      refine ⟨spec, ?_, waiting, taken⟩
      rw [shows_skip found off]
      rfl
  | @place call event found on room =>
      refine ⟨{ spec with waiting := spec.waiting ++ [event] }, ?_, ?_, taken⟩
      · rw [shows_place found on room, Machine.perform_one]
        exact if_pos (waiting ▸ room)
      · exact congrArg (· ++ [event]) waiting
  | refuse found on full =>
      refine ⟨spec, ?_, waiting, taken⟩
      rw [shows_refuse found on full, Machine.perform_one]
      exact if_neg (waiting ▸ Nat.not_lt_of_le full)
  | launch found =>
      refine ⟨spec, rfl, waiting, ?_⟩
      rw [taken]
      unfold State.inFlight
      rw [List.filterMap_append]
      exact (List.append_nil _).symm
  | @get worker event rest found queued =>
      rcases manned.single found with ⟨rfl, alone⟩
      unfold State.inFlight at taken
      rw [alone] at taken
      have free : spec.taken = none := Option.toList_eq_nil_iff.mp taken
      rw [queued] at waiting
      refine ⟨⟨spec.waiting.tail, some event⟩, ?_, ?_, ?_⟩
      · rw [shows_get found queued, Machine.perform_one]
        exact if_pos ⟨free, congrArg List.head? waiting⟩
      · exact congrArg List.tail waiting
      · unfold State.inFlight
        dsimp only
        rw [alone]
        rfl
  | @exported worker event found =>
      rcases manned.single found with ⟨rfl, alone⟩
      unfold State.inFlight at taken
      rw [alone] at taken
      refine ⟨{ spec with taken := none }, ?_, waiting, ?_⟩
      · rw [shows_exported found, Machine.perform_one]
        exact if_pos (Option.toList_eq_singleton_iff.mp taken)
      · unfold State.inFlight
        dsimp only
        rw [alone]
        rfl
  | @failed worker event error found caught =>
      rcases manned.single found with ⟨rfl, alone⟩
      unfold State.inFlight at taken
      rw [alone] at taken
      refine ⟨{ spec with taken := none }, ?_, waiting, ?_⟩
      · rw [shows_raised found, Machine.perform_one]
        exact if_pos (Option.toList_eq_singleton_iff.mp taken)
      · unfold State.inFlight
        dsimp only
        rw [alone]
        rfl
  | @died worker event error found caught =>
      rcases manned.single found with ⟨rfl, alone⟩
      unfold State.inFlight at taken
      rw [alone] at taken
      refine ⟨{ spec with taken := none }, ?_, waiting, ?_⟩
      · rw [shows_raised found, Machine.perform_one]
        exact if_pos (Option.toList_eq_singleton_iff.mp taken)
      · unfold State.inFlight
        dsimp only
        rw [alone]
        rfl
  | _ => exact ⟨spec, rfl, waiting, taken⟩

end Steps

/-- The export queue refines the queue, whatever an export raises. -/
def refinement (setting : Setting) :
    Machine.Refinement (machine setting) (fun _ _ => True) (shows setting)
      (LossyQueue.machine setting.size) where
  related := fun state spec => Manned state ∧ spec.waiting = state.fields.exports ∧
    spec.taken.toList = state.inFlight
  start := by
    rintro _ rfl
    exact ⟨LossyQueue.initial, rfl, rfl, rfl, rfl⟩
  step := by
    rintro before action after spec _ stepped ⟨manned, waiting, taken⟩
    have moved := step_move stepped
    rcases queue_step moved manned waiting taken with ⟨next, performed, same⟩
    exact ⟨next, performed, threads_step moved manned, same⟩

/-! ## The accounts -/

def Verdict.counts (verdict : Verdict) (pair : Event × Verdict) : Bool := decide (pair.2 = verdict)

def Worker.isDead : Worker -> Bool
  | .dead => true
  | _ => false

def Call.isOffering : Call -> Bool
  | .offering _ => true
  | _ => false

def Call.isRefused : Call -> Bool
  | .refused => true
  | _ => false

/-- The number of settlements with a verdict. -/
def settlements (events : List (LossyQueue.Event Event Verdict)) (verdict : Verdict) : Nat :=
  (settled events).countP verdict.counts

section Accounts

variable {setting : Setting} {before after : State} {action : Action}
  {events : List (LossyQueue.Event Event Verdict)}

theorem settlements_append (events shown : List (LossyQueue.Event Event Verdict))
    (verdict : Verdict) :
    settlements (events ++ shown) verdict = settlements events verdict + settlements shown verdict := by
  unfold settlements
  rw [LossyQueue.settled_append, List.countP_append]

/-- The counters of the object, and the dead threads, follow the verdicts. -/
theorem verdicts_step (moved : Move setting before action after) (manned : Manned before)
    (exported : settlements events .exported = before.history.exported)
    (failed : settlements events .failed = before.fields.exportErrors)
    (lost : settlements events .lost = before.workers.countP Worker.isDead) :
    settlements (events ++ shows setting before action) .exported = after.history.exported ∧
      settlements (events ++ shows setting before action) .failed = after.fields.exportErrors ∧
      settlements (events ++ shows setting before action) .lost =
        after.workers.countP Worker.isDead := by
  rw [settlements_append, settlements_append, settlements_append, exported, failed, lost]
  cases moved with
  | skip found off =>
      rw [shows_skip found off]
      exact ⟨rfl, rfl, rfl⟩
  | place found on room =>
      rw [shows_place found on room]
      exact ⟨rfl, rfl, rfl⟩
  | refuse found on full =>
      rw [shows_refuse found on full]
      exact ⟨rfl, rfl, rfl⟩
  | launch found =>
      refine ⟨rfl, rfl, ?_⟩
      dsimp only
      rw [List.countP_append]
      rfl
  | get found queued =>
      rcases manned.single found with ⟨rfl, alone⟩
      rw [shows_get found queued, alone]
      exact ⟨rfl, rfl, rfl⟩
  | exported found =>
      rcases manned.single found with ⟨rfl, alone⟩
      rw [shows_exported found, alone]
      exact ⟨rfl, rfl, rfl⟩
  | @failed worker event error found caught =>
      rcases manned.single found with ⟨rfl, alone⟩
      have verdict : error.verdict = .failed := if_pos caught
      rw [shows_raised found, alone, verdict]
      exact ⟨rfl, rfl, rfl⟩
  | @died worker event error found caught =>
      rcases manned.single found with ⟨rfl, alone⟩
      have verdict : error.verdict = .lost := if_neg (Bool.eq_false_iff.mp caught)
      rw [shows_raised found, alone, verdict]
      exact ⟨rfl, rfl, rfl⟩
  | _ => exact ⟨rfl, rfl, rfl⟩

/-- No worker takes anything behind an event that is lost. -/
theorem last_step (moved : Move setting before action after) (manned : Manned before)
    (lost : settlements events .lost = before.workers.countP Worker.isDead)
    (last : forall pair, pair ∈ (settled events).dropLast -> pair.2 ≠ .lost) :
    forall pair, pair ∈ (settled (events ++ shows setting before action)).dropLast ->
      pair.2 ≠ .lost := by
  have behind : forall {worker : Nat} {event : Event} (verdict : Verdict),
      before.workers[worker]? = some (.exporting event) ->
        forall pair, pair ∈ (settled events ++ [(event, verdict)]).dropLast -> pair.2 ≠ .lost := by
    intro worker event verdict found pair listed
    rw [List.dropLast_concat] at listed
    rw [(manned.single found).2] at lost
    intro same
    exact List.countP_eq_zero.mp lost pair listed (decide_eq_true same)
  rw [LossyQueue.settled_append]
  cases moved with
  | skip found off =>
      rw [shows_skip found off]
      exact (List.append_nil (settled events)).symm ▸ last
  | place found on room =>
      rw [shows_place found on room]
      exact (List.append_nil (settled events)).symm ▸ last
  | refuse found on full =>
      rw [shows_refuse found on full]
      exact (List.append_nil (settled events)).symm ▸ last
  | get found queued =>
      rw [shows_get found queued]
      exact (List.append_nil (settled events)).symm ▸ last
  | exported found =>
      rw [shows_exported found]
      exact behind .exported found
  | @failed worker event error found caught =>
      rw [shows_raised found]
      exact behind error.verdict found
  | @died worker event error found caught =>
      rw [shows_raised found]
      exact behind error.verdict found
  | _ => exact (List.append_nil (settled events)).symm ▸ last

theorem dropped_step (moved : Move setting before action after)
    (drops : (dropped events).length = before.fields.dropped + before.calls.countP Call.isRefused) :
    (dropped (events ++ shows setting before action)).length =
      after.fields.dropped + after.calls.countP Call.isRefused := by
  rw [LossyQueue.dropped_append, List.length_append, drops]
  have ended : forall {index : Nat} {call : Call}, before.calls[index]? = some call ->
      call.isRefused = false ->
        (before.calls.eraseIdx index).countP Call.isRefused = before.calls.countP Call.isRefused := by
    intro index call found other
    have moved := Counting.countP_eraseIdx found Call.isRefused
    rwa [other, if_neg Bool.false_ne_true, Nat.add_zero] at moved
  have changed : forall {index : Nat} {call other : Call}, before.calls[index]? = some call ->
      call.isRefused = false -> other.isRefused = false ->
        (before.calls.set index other).countP Call.isRefused =
          before.calls.countP Call.isRefused := by
    intro index call other found first second
    have moved := Counting.countP_set found other Call.isRefused
    rwa [first, second, if_neg Bool.false_ne_true, Nat.add_zero, Nat.add_zero] at moved
  cases moved with
  | start component kind => rfl
  | observe component kind outcome durationMs decrementInflight =>
      change _ = before.fields.dropped + (before.calls ++ [Call.offering _]).countP Call.isRefused
      rw [List.countP_append]
      rfl
  | skip found off =>
      rw [shows_skip found off, ended found rfl]
      rfl
  | place found on room =>
      rw [shows_place found on room, changed found rfl rfl]
      rfl
  | refuse found on full =>
      have moved := Counting.countP_set found Call.refused Call.isRefused
      simp only [Call.isRefused, Bool.false_eq_true, if_false, if_true, Nat.add_zero] at moved
      rw [shows_refuse found on full, moved]
      rfl
  | drop found =>
      have moved := Counting.countP_eraseIdx found Call.isRefused
      simp only [Call.isRefused, if_true] at moved
      change before.fields.dropped + before.calls.countP Call.isRefused + 0 = _
      dsimp only
      omega
  | ready found on =>
      rw [ended found rfl]
      rfl
  | claim found off =>
      rw [changed found rfl rfl]
      rfl
  | launch found =>
      rw [ended found rfl]
      rfl
  | get found queued =>
      rw [shows_get found queued]
      rfl
  | exported found =>
      rw [shows_exported found]
      rfl
  | failed found caught =>
      rw [shows_raised found]
      rfl
  | died found caught =>
      rw [shows_raised found]
      rfl

/-- Every observation has been accepted or dropped, or is still offered. -/
theorem observed_step (moved : Move setting before action after) (on : setting.endpoint = true)
    (observed : before.history.observed = (accepted events).length + (dropped events).length +
      before.calls.countP Call.isOffering) :
    after.history.observed = (accepted (events ++ shows setting before action)).length +
      (dropped (events ++ shows setting before action)).length +
        after.calls.countP Call.isOffering := by
  rw [LossyQueue.accepted_append, LossyQueue.dropped_append, List.length_append,
    List.length_append]
  have ended : forall {index : Nat} {call : Call}, before.calls[index]? = some call ->
      call.isOffering = false -> (before.calls.eraseIdx index).countP Call.isOffering =
        before.calls.countP Call.isOffering := by
    intro index call found other
    have moved := Counting.countP_eraseIdx found Call.isOffering
    rwa [other, if_neg Bool.false_ne_true, Nat.add_zero] at moved
  cases moved with
  | start component kind => exact observed
  | observe component kind outcome durationMs decrementInflight =>
      change before.history.observed + 1 = (accepted events).length + 0 +
        ((dropped events).length + 0) + (before.calls ++ [Call.offering _]).countP Call.isOffering
      rw [List.countP_append, List.countP_singleton, observed]
      rfl
  | skip found off =>
      rw [on] at off
      cases off
  | @place call event found _ room =>
      have moved := Counting.countP_set found Call.placed Call.isOffering
      simp only [Call.isOffering, Bool.false_eq_true, if_false, if_true, Nat.add_zero] at moved
      rw [shows_place found on room]
      change before.history.observed = (accepted events).length + 1 +
        ((dropped events).length + 0) + (before.calls.set call .placed).countP Call.isOffering
      omega
  | @refuse call event found _ full =>
      have moved := Counting.countP_set found Call.refused Call.isOffering
      simp only [Call.isOffering, Bool.false_eq_true, if_false, if_true, Nat.add_zero] at moved
      rw [shows_refuse found on full]
      change before.history.observed = (accepted events).length + 0 +
        ((dropped events).length + 1) + (before.calls.set call .refused).countP Call.isOffering
      omega
  | drop found =>
      rw [ended found rfl]
      exact observed
  | ready found _ =>
      rw [ended found rfl]
      exact observed
  | claim found _ =>
      have moved := Counting.countP_set found Call.starting Call.isOffering
      simp only [Call.isOffering, Bool.false_eq_true, if_false, Nat.add_zero] at moved
      rw [moved]
      exact observed
  | launch found =>
      rw [ended found rfl]
      exact observed
  | get found queued =>
      rw [shows_get found queued]
      exact observed
  | exported found =>
      rw [shows_exported found]
      exact observed
  | failed found _ =>
      rw [shows_raised found]
      exact observed
  | died found _ =>
      rw [shows_raised found]
      exact observed

end Accounts

/-- What every step keeps, whatever the exports raise. -/
structure Settlements (setting : Setting) (events : List (LossyQueue.Event Event Verdict))
    (state : State) : Prop where
  manned : Manned state
  exported : settlements events .exported = state.history.exported
  failed : settlements events .failed = state.fields.exportErrors
  lost : settlements events .lost = state.workers.countP Worker.isDead
  last : forall pair, pair ∈ (settled events).dropLast -> pair.2 ≠ .lost
  drops : (dropped events).length = state.fields.dropped + state.calls.countP Call.isRefused
  observed : setting.endpoint = true -> state.history.observed =
    (accepted events).length + (dropped events).length + state.calls.countP Call.isOffering

theorem settlements_of_run {setting : Setting}
    {events : List (LossyQueue.Event Event Verdict)} {state : State}
    (run : (machine setting).Trace (fun _ _ => True) (shows setting) events state) :
    Settlements setting events state := by
  refine @Machine.Trace.invariant _ _ _ _ _ _ (fun events state => Settlements setting events state)
    ?_ ?_ _ _ run
  · rintro _ rfl
    exact ⟨rfl, rfl, rfl, rfl, fun _ listed => absurd listed List.not_mem_nil, rfl, fun _ => rfl⟩
  · intro events before action after _ kept _ stepped
    have moved := step_move stepped
    rcases verdicts_step moved kept.manned kept.exported kept.failed kept.lost with
      ⟨exported, failed, lost⟩
    exact ⟨threads_step moved kept.manned, exported, failed, lost,
      last_step moved kept.manned kept.lost kept.last, dropped_step moved kept.drops,
      fun on => observed_step moved on (kept.observed on)⟩

/-- Every settlement has one of the three verdicts. -/
theorem settlements_sum (events : List (LossyQueue.Event Event Verdict)) :
    (settled events).length = settlements events .exported + settlements events .failed +
      settlements events .lost := by
  unfold settlements
  induction settled events with
  | nil => rfl
  | cons pair rest inductionHypothesis =>
      rcases pair with ⟨event, verdict⟩
      rw [List.length_cons, List.countP_cons, List.countP_cons, List.countP_cons,
        inductionHypothesis]
      cases verdict with
      | exported =>
          simp only [Verdict.counts, decide_true, reduceCtorEq, decide_false, if_true,
            Bool.false_eq_true, if_false]
          omega
      | failed =>
          simp only [Verdict.counts, decide_true, reduceCtorEq, decide_false, if_true,
            Bool.false_eq_true, if_false]
          omega
      | lost =>
          simp only [Verdict.counts, decide_true, reduceCtorEq, decide_false, if_true,
            Bool.false_eq_true, if_false]
          omega

/-- What holds of the exports in every run. -/
structure Exported (setting : Setting) (events : List (LossyQueue.Event Event Verdict))
    (state : State) : Prop where
  order : accepted events =
    (settled events).map Prod.fst ++ (state.inFlight ++ state.fields.exports)
  bound : state.fields.exports.length ≤ setting.size
  full : forall front event back, events = front ++ .drop event :: back ->
    (accepted front).length = (LossyQueue.taken front).length + setting.size
  exported : settlements events .exported = state.history.exported
  failed : settlements events .failed = state.fields.exportErrors
  lost : settlements events .lost = state.workers.countP Worker.isDead
  one : settlements events .lost ≤ 1
  last : 0 < settlements events .lost -> state.inFlight = [] ∧
    forall pair, pair ∈ (settled events).dropLast -> pair.2 ≠ .lost
  missing : setting.endpoint = true -> state.history.observed =
    state.history.exported + state.fields.exportErrors + state.fields.dropped +
      state.fields.exports.length + state.inFlight.length +
        state.calls.countP Call.isOffering + state.calls.countP Call.isRefused +
          settlements events .lost

/-- In every run, whatever an export raises, the events leave in the order in
which they came, each of them once, and the accounts miss one event at most: the
one that a worker has died of, behind which none is taken any more. -/
theorem exported_of_run (setting : Setting) (events : List (LossyQueue.Event Event Verdict))
    (state : State)
    (run : (machine setting).Trace (fun _ _ => True) (shows setting) events state) :
    Exported setting events state := by
  rcases (refinement setting).performs run with ⟨_, rfl, spec, performed, manned, waiting, taken⟩
  have kept := settlements_of_run run
  have placed := LossyQueue.placed_of_performed performed
  have order : accepted events =
      (settled events).map Prod.fst ++ (state.inFlight ++ state.fields.exports) := by
    rw [placed.order, taken, waiting]
  have few : state.workers.length ≤ 1 := by
    unfold Manned at manned
    split at manned <;> omega
  refine ⟨order, waiting ▸ placed.bound, ?_, kept.exported, kept.failed, kept.lost, ?_, ?_, ?_⟩
  · rintro front event back rfl
    exact LossyQueue.full_of_drop performed
  · rw [kept.lost]
    exact List.countP_le_length.trans few
  · intro lost
    refine ⟨?_, kept.last⟩
    rw [kept.lost] at lost
    rcases List.countP_pos_iff.mp lost with ⟨worker, listed, dead⟩
    rcases List.getElem?_of_mem listed with ⟨index, found⟩
    unfold State.inFlight
    rw [(manned.single found).2]
    cases worker with
    | dead => rfl
    | _ => cases dead
  · intro on
    have lengths := congrArg List.length order
    rw [List.length_append, List.length_map, List.length_append, settlements_sum, kept.exported,
      kept.failed] at lengths
    have observed := kept.observed on
    have drops := kept.drops
    omega

/-- The second event is queued behind the one that the worker dies of. -/
def lossRun : List Action :=
  [.start "controlplane" "graphql", .observe "controlplane" "graphql" "succeeded" 12 true,
    .observe "controlplane" "deploy" "failed" 7 false, .enqueue 0, .ensureWorker 0, .launch 0,
    .enqueue 0, .ensureWorker 0, .get 0, .raised 0 .httpException]

theorem exported_sample : Exists fun last : List (LossyQueue.Event Event Verdict) × State =>
    Exported sampleSetting last.1 last.2 ∧
      (last.2.fields.exports.length = 1 ∧ settlements last.1 .lost = 1) := by
  rcases (machine sampleSetting).exists_trace_of_record (fun _ _ => True) (shows sampleSetting)
    lossRun initial rfl
    (fun last => decide (last.2.fields.exports.length = 1 ∧ settlements last.1 .lost = 1))
    (by decide +kernel) with ⟨last, run, tested⟩
  exact ⟨last, exported_of_run sampleSetting last.1 last.2 run, of_decide_eq_true tested⟩

end Telemetry
end ControlPlane
end DjangoOps
