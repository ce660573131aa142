import DjangoOps.Foundation.Counting
import DjangoOps.Foundation.Retention
import DjangoOps.Foundation.Transition

namespace DjangoOps
namespace ControlPlane
namespace Telemetry

open Transition

/-!
# The accounts of the telemetry

`Telemetry` of the control plane with everything that runs at the same time:
the calls of `start`, `finish` and `observe` and the thread that exports.  A
step is one section under the lock, one operation of the export queue or one
export, so the steps of several calls interleave in every order.

An export ends well or with an exception.  The worker catches an `OSError`,
counts it and goes on; any other exception ends its thread for good, because
the flag that it has been started stays set.
-/

/-! ## Labels -/

def allowedComponents : List String := ["controlplane", "agent", "cli"]

def allowedKinds : List String :=
  ["diagnostic", "kubernetes_release", "deploy", "health", "backup", "restore", "graphql"]

def allowedOutcomes : List String :=
  ["pending", "running", "succeeded", "failed", "cancelled", "offline", "overloaded",
    "disconnected", "timeout", "rolled_back", "rollback_blocked", "recovery_required"]

/-- `_labels` -/
def labels (component kind outcome : String) : String × String × String :=
  (if component ∈ allowedComponents then component else "controlplane",
    if kind ∈ allowedKinds then kind else "diagnostic",
    if outcome ∈ allowedOutcomes then outcome else "failed")

/-- The key of the gauge, for the labels of a call. -/
def gaugeKey (component kind : String) : String × String :=
  ((labels component kind "pending").1, (labels component kind "pending").2.1)

/-! ## State -/

/-- `TelemetryEvent`, of which the correlation and the project are left out. -/
structure Event where
  component : String
  kind : String
  outcome : String
  durationMs : Nat
  deriving DecidableEq

/-- The fields of `Telemetry`: the counters, the buffered events, the events that are to
be exported, how many were dropped or failed, and whether a worker was started. -/
structure Fields where
  counts : Counter (String × String × String)
  durations : Counter (String × String × String)
  inflight : Counter (String × String)
  events : List Event
  exports : List Event
  dropped : Nat
  exportErrors : Nat
  workerStarted : Bool

/-- Where a call of `observe` stands behind its section under the lock. -/
inductive Call
  | offering (event : Event)
  | refused
  | placed
  | starting
  deriving DecidableEq

/-- The thread of `_export_loop`. -/
inductive Worker
  | waiting
  | exporting (event : Event)
  | dead
  deriving DecidableEq

/-- What has happened, beside what the object counts. -/
structure History where
  started : Counter (String × String)
  finished : Counter (String × String)
  observed : Nat
  exported : Nat

/-- The fields of the object, the calls of `observe` and `finish` that have not
returned, the threads that export, and what has happened so far. -/
structure State where
  fields : Fields
  calls : List Call
  workers : List Worker
  history : History

/-- How the object was made: whether it has an endpoint, and `max_buffer`. -/
structure Setting where
  endpoint : Bool
  maxBuffer : Int

/-- `max(8, min(max_buffer, 1024))` -/
def Setting.size (setting : Setting) : Nat := (max 8 (min setting.maxBuffer 1024)).toNat

/-- What the export of an event can raise. -/
inductive ExportError
  | osError
  | httpException
  | valueError
  deriving DecidableEq

/-- `except (OSError, TimeoutError, urllib.error.URLError)`: the last two are
subclasses of the first. -/
def ExportError.caught : ExportError -> Bool
  | .osError => true
  | .httpException => false
  | .valueError => false

inductive Action
  | start (component kind : String)
  | observe (component kind outcome : String) (durationMs : Int) (decrementInflight : Bool)
  | enqueue (call : Nat)
  | drop (call : Nat)
  | ensureWorker (call : Nat)
  | launch (call : Nat)
  | get (worker : Nat)
  | exported (worker : Nat)
  | raised (worker : Nat) (error : ExportError)

/-! ## Steps -/

/-- The event of an observation. -/
def event (component kind outcome : String) (durationMs : Int) : Event where
  component := (labels component kind outcome).1
  kind := (labels component kind outcome).2.1
  outcome := (labels component kind outcome).2.2
  durationMs := (max 0 (min durationMs 86400000)).toNat

/-- The section of `start` under the lock. -/
def Fields.begin (fields : Fields) (key : String × String) : Fields :=
  { fields with inflight := fields.inflight.add key 1 }

/-- The section of `observe` under the lock; `finish` is an observation that
decrements the gauge. -/
def Fields.record (fields : Fields) (size : Nat) (event : Event) (decrementInflight : Bool) :
    Fields :=
  let key := (event.component, event.kind, event.outcome)
  let gauge := (event.component, event.kind)
  { fields with
    counts := fields.counts.add key 1
    durations := fields.durations.add key event.durationMs
    inflight := if decrementInflight then
      fields.inflight.set gauge (max 0 (fields.inflight.get gauge - 1)) else fields.inflight
    events := Retention.push size fields.events event }

def step (setting : Setting) (state : State) : Action -> Option State
  | .start component kind =>
      some { state with
        fields := state.fields.begin (gaugeKey component kind)
        history := { state.history with
          started := state.history.started.add (gaugeKey component kind) 1 } }
  | .observe component kind outcome durationMs decrementInflight =>
      some { state with
        fields := state.fields.record setting.size (event component kind outcome durationMs)
          decrementInflight
        calls := state.calls ++ [.offering (event component kind outcome durationMs)]
        history := { state.history with
          observed := state.history.observed + 1
          finished := if decrementInflight then
            state.history.finished.add (gaugeKey component kind) 1
            else state.history.finished } }
  | .enqueue call =>
      match state.calls[call]? with
      | some (.offering event) =>
          if setting.endpoint = false then
            some { state with calls := state.calls.eraseIdx call }
          else if state.fields.exports.length < setting.size then
            some { state with
              fields := { state.fields with exports := state.fields.exports ++ [event] }
              calls := state.calls.set call .placed }
          else some { state with calls := state.calls.set call .refused }
      | _ => none
  | .drop call =>
      match state.calls[call]? with
      | some .refused =>
          some { state with
            fields := { state.fields with dropped := state.fields.dropped + 1 }
            calls := state.calls.eraseIdx call }
      | _ => none
  | .ensureWorker call =>
      match state.calls[call]? with
      | some .placed =>
          if state.fields.workerStarted then
            some { state with calls := state.calls.eraseIdx call }
          else
            some { state with
              fields := { state.fields with workerStarted := true }
              calls := state.calls.set call .starting }
      | _ => none
  | .launch call =>
      match state.calls[call]? with
      | some .starting =>
          some { state with
            calls := state.calls.eraseIdx call
            workers := state.workers ++ [.waiting] }
      | _ => none
  | .get worker =>
      match state.workers[worker]?, state.fields.exports with
      | some .waiting, event :: rest =>
          some { state with
            fields := { state.fields with exports := rest }
            workers := state.workers.set worker (.exporting event) }
      | _, _ => none
  | .exported worker =>
      match state.workers[worker]? with
      | some (.exporting _) =>
          some { state with
            workers := state.workers.set worker .waiting
            history := { state.history with exported := state.history.exported + 1 } }
      | _ => none
  | .raised worker error =>
      match state.workers[worker]? with
      | some (.exporting _) =>
          if error.caught then
            some { state with
              fields := { state.fields with exportErrors := state.fields.exportErrors + 1 }
              workers := state.workers.set worker .waiting }
          else some { state with workers := state.workers.set worker .dead }
      | _ => none

/-- `Telemetry()` -/
def initial : State where
  fields := ⟨[], [], [], [], [], 0, 0, false⟩
  calls := []
  workers := []
  history := ⟨[], [], 0, 0⟩

def machine (setting : Setting) : Machine State Action where
  initial := fun state => state = initial
  step := step setting

/-! ## What a step does -/

/-- The steps by what they do, with what each one has found. -/
inductive Move (setting : Setting) (before : State) : Action -> State -> Prop
  | start (component kind : String) :
      Move setting before (.start component kind)
        { before with
          fields := before.fields.begin (gaugeKey component kind)
          history := { before.history with
            started := before.history.started.add (gaugeKey component kind) 1 } }
  | observe (component kind outcome : String) (durationMs : Int) (decrementInflight : Bool) :
      Move setting before (.observe component kind outcome durationMs decrementInflight)
        { before with
          fields := before.fields.record setting.size (event component kind outcome durationMs)
            decrementInflight
          calls := before.calls ++ [.offering (event component kind outcome durationMs)]
          history := { before.history with
            observed := before.history.observed + 1
            finished := if decrementInflight then
              before.history.finished.add (gaugeKey component kind) 1
              else before.history.finished } }
  | skip {call : Nat} {event : Event} (found : before.calls[call]? = some (.offering event))
      (off : setting.endpoint = false) :
      Move setting before (.enqueue call) { before with calls := before.calls.eraseIdx call }
  | place {call : Nat} {event : Event} (found : before.calls[call]? = some (.offering event))
      (on : setting.endpoint = true) (room : before.fields.exports.length < setting.size) :
      Move setting before (.enqueue call)
        { before with
          fields := { before.fields with exports := before.fields.exports ++ [event] }
          calls := before.calls.set call .placed }
  | refuse {call : Nat} {event : Event} (found : before.calls[call]? = some (.offering event))
      (on : setting.endpoint = true) (full : setting.size ≤ before.fields.exports.length) :
      Move setting before (.enqueue call) { before with calls := before.calls.set call .refused }
  | drop {call : Nat} (found : before.calls[call]? = some .refused) :
      Move setting before (.drop call)
        { before with
          fields := { before.fields with dropped := before.fields.dropped + 1 }
          calls := before.calls.eraseIdx call }
  | ready {call : Nat} (found : before.calls[call]? = some .placed)
      (on : before.fields.workerStarted = true) :
      Move setting before (.ensureWorker call)
        { before with calls := before.calls.eraseIdx call }
  | claim {call : Nat} (found : before.calls[call]? = some .placed)
      (off : before.fields.workerStarted = false) :
      Move setting before (.ensureWorker call)
        { before with
          fields := { before.fields with workerStarted := true }
          calls := before.calls.set call .starting }
  | launch {call : Nat} (found : before.calls[call]? = some .starting) :
      Move setting before (.launch call)
        { before with
          calls := before.calls.eraseIdx call
          workers := before.workers ++ [.waiting] }
  | get {worker : Nat} {event : Event} {rest : List Event}
      (found : before.workers[worker]? = some .waiting)
      (queued : before.fields.exports = event :: rest) :
      Move setting before (.get worker)
        { before with
          fields := { before.fields with exports := rest }
          workers := before.workers.set worker (.exporting event) }
  | exported {worker : Nat} {event : Event}
      (found : before.workers[worker]? = some (.exporting event)) :
      Move setting before (.exported worker)
        { before with
          workers := before.workers.set worker .waiting
          history := { before.history with exported := before.history.exported + 1 } }
  | failed {worker : Nat} {event : Event} {error : ExportError}
      (found : before.workers[worker]? = some (.exporting event)) (caught : error.caught = true) :
      Move setting before (.raised worker error)
        { before with
          fields := { before.fields with exportErrors := before.fields.exportErrors + 1 }
          workers := before.workers.set worker .waiting }
  | died {worker : Nat} {event : Event} {error : ExportError}
      (found : before.workers[worker]? = some (.exporting event)) (caught : error.caught = false) :
      Move setting before (.raised worker error)
        { before with workers := before.workers.set worker .dead }

theorem step_move {setting : Setting} {before after : State} {action : Action}
    (stepped : step setting before action = some after) : Move setting before action after := by
  cases action with
  | start component kind =>
      cases stepped
      exact .start component kind
  | observe component kind outcome durationMs decrementInflight =>
      cases stepped
      exact .observe component kind outcome durationMs decrementInflight
  | enqueue call =>
      rw [step] at stepped
      split at stepped
      · rename_i event found
        split at stepped
        · rename_i off
          cases stepped
          exact .skip found off
        · rename_i on
          split at stepped
          · rename_i room
            cases stepped
            exact .place found (Bool.not_eq_false _ ▸ on) room
          · rename_i full
            cases stepped
            exact .refuse found (Bool.not_eq_false _ ▸ on) (Nat.le_of_not_lt full)
      · cases stepped
  | drop call =>
      rw [step] at stepped
      split at stepped
      · rename_i found
        cases stepped
        exact .drop found
      · cases stepped
  | ensureWorker call =>
      rw [step] at stepped
      split at stepped
      · rename_i found
        split at stepped
        · rename_i on
          cases stepped
          exact .ready found on
        · rename_i off
          cases stepped
          exact .claim found (Bool.eq_false_iff.mpr off)
      · cases stepped
  | launch call =>
      rw [step] at stepped
      split at stepped
      · rename_i found
        cases stepped
        exact .launch found
      · cases stepped
  | get worker =>
      rw [step] at stepped
      split at stepped
      · rename_i event rest found queued
        cases stepped
        exact .get found queued
      · cases stepped
  | exported worker =>
      rw [step] at stepped
      split at stepped
      · rename_i event found
        cases stepped
        exact .exported found
      · cases stepped
  | raised worker error =>
      rw [step] at stepped
      split at stepped
      · rename_i event found
        split at stepped
        · rename_i caught
          cases stepped
          exact .failed found caught
        · rename_i caught
          cases stepped
          exact .died found (Bool.eq_false_iff.mpr caught)
      · cases stepped

/-! ## The accounts -/

/-- The call still has its event in hand: it is neither queued nor dropped. -/
def Call.hasEvent : Call -> Bool
  | .offering _ => true
  | .refused => true
  | .placed => false
  | .starting => false

def Worker.isExporting : Worker -> Bool
  | .waiting => false
  | .exporting _ => true
  | .dead => false

/-- The events of calls that are still under way to the queue. -/
def State.inHand (state : State) : Nat := state.calls.countP Call.hasEvent

/-- The events that are being exported. -/
def State.exporting (state : State) : Nat := state.workers.countP Worker.isExporting

/-- What is expected of the numbers and of the worker.  The event of a call
that has not yet come to the queue is in its hand. -/
structure Accounted (setting : Setting) (state : State) : Prop where
  gauge : forall key, state.fields.inflight.get key + state.history.finished.get key =
    state.history.started.get key
  operations : state.fields.counts.total = state.history.observed
  events : setting.endpoint = true -> state.history.observed =
    state.history.exported + state.fields.exportErrors + state.fields.dropped +
      state.fields.exports.length + state.exporting + state.inHand
  single : state.exporting ≤ 1
  alive : forall worker, worker ∈ state.workers -> worker ≠ .dead
  served : state.fields.exports ≠ [] -> state.workers ≠ [] ∨
    Exists fun call : Call => call ∈ state.calls ∧ (call = .placed ∨ call = .starting)
  consumes : state.fields.exports ≠ [] -> state.workers ≠ [] ->
    Exists fun worker : Nat => (step setting state (.get worker)).isSome = true ∨
      (step setting state (.exported worker)).isSome = true

/-- Each finish follows its own start. -/
def FollowsStart (state : State) : Action -> Prop
  | .observe component kind _ _ true =>
      state.history.finished.get (gaugeKey component kind) <
        state.history.started.get (gaugeKey component kind)
  | _ => True

/-- An export that fails raises an `OSError`. -/
def RaisesOsError : Action -> Prop
  | .raised _ error => error.caught = true
  | _ => True

instance (state : State) (action : Action) : Decidable (FollowsStart state action) := by
  unfold FollowsStart
  split <;> infer_instance

instance (action : Action) : Decidable (RaisesOsError action) := by
  unfold RaisesOsError
  split <;> infer_instance

section Steps

variable {setting : Setting} {before after : State} {action : Action}

theorem gauge_step (moved : Move setting before action after)
    (follows : FollowsStart before action)
    (gauge : forall key, before.fields.inflight.get key + before.history.finished.get key =
      before.history.started.get key) (key : String × String) :
    after.fields.inflight.get key + after.history.finished.get key =
      after.history.started.get key := by
  have same := gauge key
  cases moved with
  | start component kind =>
      change (before.fields.inflight.add _ 1).get key + before.history.finished.get key =
        (before.history.started.add _ 1).get key
      rw [Counter.get_add, Counter.get_add]
      omega
  | observe component kind outcome durationMs decrementInflight =>
      cases decrementInflight with
      | false => exact same
      | true =>
          change (before.fields.inflight.set (gaugeKey component kind)
              (max 0 (before.fields.inflight.get (gaugeKey component kind) - 1))).get key +
            (before.history.finished.add (gaugeKey component kind) 1).get key =
              before.history.started.get key
          have own := gauge (gaugeKey component kind)
          have earlier : before.history.finished.get (gaugeKey component kind) <
              before.history.started.get (gaugeKey component kind) := follows
          rw [Counter.get_add]
          by_cases equal : gaugeKey component kind = key
          · subst equal
            rw [Counter.get_set_self, if_pos rfl]
            omega
          · rw [Counter.get_set_ne _ equal, if_neg equal]
            exact same
  | _ => exact same

theorem operations_step (moved : Move setting before action after)
    (operations : before.fields.counts.total = before.history.observed) :
    after.fields.counts.total = after.history.observed := by
  cases moved with
  | observe component kind outcome durationMs decrementInflight =>
      change (before.fields.counts.add _ 1).total = before.history.observed + 1
      rw [Counter.total_add, operations]
  | _ => exact operations

/-- Every event is somewhere, and no step moves it to two places. -/
theorem events_step (moved : Move setting before action after) (raises : RaisesOsError action)
    (on : setting.endpoint = true)
    (events : before.history.observed =
      before.history.exported + before.fields.exportErrors + before.fields.dropped +
        before.fields.exports.length + before.exporting + before.inHand) :
    after.history.observed =
      after.history.exported + after.fields.exportErrors + after.fields.dropped +
        after.fields.exports.length + after.exporting + after.inHand := by
  unfold State.exporting State.inHand at events ⊢
  cases moved with
  | start component kind => exact events
  | observe component kind outcome durationMs decrementInflight =>
      change before.history.observed + 1 = before.history.exported + before.fields.exportErrors +
        before.fields.dropped + before.fields.exports.length +
          before.workers.countP Worker.isExporting +
            (before.calls ++ [Call.offering _]).countP Call.hasEvent
      rw [List.countP_append, List.countP_singleton, events]
      rfl
  | skip found off =>
      rw [on] at off
      cases off
  | place found _ room =>
      have moved := Counting.countP_set found Call.placed Call.hasEvent
      simp only [Call.hasEvent, if_true, Bool.false_eq_true, if_false] at moved
      simp only [List.length_append, List.length_singleton]
      omega
  | refuse found _ full =>
      have moved := Counting.countP_set found Call.refused Call.hasEvent
      simp only [Call.hasEvent, if_true] at moved
      dsimp only
      omega
  | drop found =>
      have moved := Counting.countP_eraseIdx found Call.hasEvent
      simp only [Call.hasEvent, if_true] at moved
      dsimp only
      omega
  | ready found _ =>
      have moved := Counting.countP_eraseIdx found Call.hasEvent
      simp only [Call.hasEvent, Bool.false_eq_true, if_false] at moved
      dsimp only
      omega
  | claim found _ =>
      have moved := Counting.countP_set found Call.starting Call.hasEvent
      simp only [Call.hasEvent, Bool.false_eq_true, if_false] at moved
      dsimp only
      omega
  | launch found =>
      have moved := Counting.countP_eraseIdx found Call.hasEvent
      simp only [Call.hasEvent, Bool.false_eq_true, if_false] at moved
      simp only [List.countP_append, List.countP_singleton, Worker.isExporting,
        Bool.false_eq_true, if_false]
      omega
  | @get worker event rest found queued =>
      have moved := Counting.countP_set found (Worker.exporting event) Worker.isExporting
      simp only [Worker.isExporting, Bool.false_eq_true, if_false, if_true] at moved
      rw [queued, List.length_cons] at events
      dsimp only
      omega
  | exported found =>
      have moved := Counting.countP_set found Worker.waiting Worker.isExporting
      simp only [Worker.isExporting, Bool.false_eq_true, if_false, if_true] at moved
      dsimp only
      omega
  | failed found _ =>
      have moved := Counting.countP_set found Worker.waiting Worker.isExporting
      simp only [Worker.isExporting, Bool.false_eq_true, if_false, if_true] at moved
      dsimp only
      omega
  | died _ caught =>
      rw [RaisesOsError] at raises
      rw [raises] at caught
      cases caught

/-- One call, or the thread that it has started, stands for the flag. -/
def Call.isStarting : Call -> Bool
  | .offering _ => false
  | .refused => false
  | .placed => false
  | .starting => true

theorem threads_step (moved : Move setting before action after)
    (threads : before.workers.length + before.calls.countP Call.isStarting =
      if before.fields.workerStarted then 1 else 0) :
    after.workers.length + after.calls.countP Call.isStarting =
      if after.fields.workerStarted then 1 else 0 := by
  cases moved with
  | start component kind => exact threads
  | observe component kind outcome durationMs decrementInflight =>
      change before.workers.length + (before.calls ++ [Call.offering _]).countP Call.isStarting =
        if before.fields.workerStarted then 1 else 0
      rw [List.countP_append, List.countP_singleton, ← threads]
      rfl
  | skip found _ =>
      have moved := Counting.countP_eraseIdx found Call.isStarting
      simp only [Call.isStarting, Bool.false_eq_true, if_false] at moved
      dsimp only
      omega
  | place found _ _ =>
      have moved := Counting.countP_set found Call.placed Call.isStarting
      simp only [Call.isStarting, Bool.false_eq_true, if_false] at moved
      dsimp only
      omega
  | refuse found _ _ =>
      have moved := Counting.countP_set found Call.refused Call.isStarting
      simp only [Call.isStarting, Bool.false_eq_true, if_false] at moved
      dsimp only
      omega
  | drop found =>
      have moved := Counting.countP_eraseIdx found Call.isStarting
      simp only [Call.isStarting, Bool.false_eq_true, if_false] at moved
      dsimp only
      omega
  | ready found _ =>
      have moved := Counting.countP_eraseIdx found Call.isStarting
      simp only [Call.isStarting, Bool.false_eq_true, if_false] at moved
      dsimp only
      omega
  | claim found off =>
      have moved := Counting.countP_set found Call.starting Call.isStarting
      simp only [Call.isStarting, Bool.false_eq_true, if_false, if_true] at moved
      rw [off, if_neg Bool.false_ne_true] at threads
      dsimp only
      rw [if_pos rfl]
      omega
  | launch found =>
      have moved := Counting.countP_eraseIdx found Call.isStarting
      simp only [Call.isStarting, if_true] at moved
      simp only [List.length_append, List.length_singleton]
      omega
  | get _ _ =>
      dsimp only
      rw [List.length_set]
      exact threads
  | exported _ =>
      dsimp only
      rw [List.length_set]
      exact threads
  | failed _ _ =>
      dsimp only
      rw [List.length_set]
      exact threads
  | died _ _ =>
      dsimp only
      rw [List.length_set]
      exact threads

theorem alive_step (moved : Move setting before action after) (raises : RaisesOsError action)
    (alive : forall worker, worker ∈ before.workers -> worker ≠ .dead) :
    forall worker, worker ∈ after.workers -> worker ≠ .dead := by
  have changed : forall (index : Nat) (other : Worker), other ≠ .dead ->
      forall worker, worker ∈ before.workers.set index other -> worker ≠ .dead := by
    intro index other living worker listed
    rcases List.mem_or_eq_of_mem_set listed with earlier | same
    · exact alive worker earlier
    · rw [same]
      exact living
  cases moved with
  | launch _ =>
      intro worker listed
      rcases List.mem_append.mp listed with earlier | fresh
      · exact alive worker earlier
      · rw [List.mem_singleton.mp fresh]
        exact Worker.noConfusion
  | get _ _ => exact changed _ _ Worker.noConfusion
  | exported _ => exact changed _ _ Worker.noConfusion
  | failed _ _ => exact changed _ _ Worker.noConfusion
  | died _ caught =>
      rw [RaisesOsError] at raises
      rw [raises] at caught
      cases caught
  | _ => exact alive

/-- The call has queued its event. -/
def Call.isPlaced : Call -> Bool
  | .offering _ => false
  | .refused => false
  | .placed => true
  | .starting => false

/-- A call that has queued an event makes sure that there is a worker. -/
theorem offered_step (moved : Move setting before action after)
    (offered : before.fields.exports = [] ∨ before.fields.workerStarted = true ∨
      0 < before.calls.countP Call.isPlaced) :
    after.fields.exports = [] ∨ after.fields.workerStarted = true ∨
      0 < after.calls.countP Call.isPlaced := by
  have ended : forall {index : Nat} {call : Call}, before.calls[index]? = some call ->
      call.isPlaced = false -> before.fields.exports = [] ∨ before.fields.workerStarted = true ∨
        0 < (before.calls.eraseIdx index).countP Call.isPlaced := by
    intro index call found other
    have moved := Counting.countP_eraseIdx found Call.isPlaced
    rw [other, if_neg Bool.false_ne_true, Nat.add_zero] at moved
    rw [moved]
    exact offered
  cases moved with
  | start component kind => exact offered
  | observe component kind outcome durationMs decrementInflight =>
      rcases offered with empty | on | placed
      · exact Or.inl empty
      · exact Or.inr (Or.inl on)
      · refine Or.inr (Or.inr ?_)
        rw [List.countP_append]
        omega
  | skip found _ => exact ended found rfl
  | place found _ _ =>
      have moved := Counting.countP_set found Call.placed Call.isPlaced
      simp only [Call.isPlaced, Bool.false_eq_true, if_false, if_true] at moved
      refine Or.inr (Or.inr ?_)
      dsimp only
      omega
  | refuse found _ _ =>
      have moved := Counting.countP_set found Call.refused Call.isPlaced
      simp only [Call.isPlaced, Bool.false_eq_true, if_false, Nat.add_zero] at moved
      dsimp only
      rw [moved]
      exact offered
  | drop found => exact ended found rfl
  | ready found on => exact Or.inr (Or.inl on)
  | claim found _ => exact Or.inr (Or.inl rfl)
  | launch found => exact ended found rfl
  | get found queued =>
      rcases offered with empty | started
      · rw [queued] at empty
        cases empty
      · exact Or.inr started
  | _ => exact offered

end Steps

/-! ## Runs -/

/-- What every step keeps. -/
structure Sound (setting : Setting) (state : State) : Prop where
  gauge : forall key, state.fields.inflight.get key + state.history.finished.get key =
    state.history.started.get key
  operations : state.fields.counts.total = state.history.observed
  events : setting.endpoint = true -> state.history.observed =
    state.history.exported + state.fields.exportErrors + state.fields.dropped +
      state.fields.exports.length + state.exporting + state.inHand
  threads : state.workers.length + state.calls.countP Call.isStarting =
    if state.fields.workerStarted then 1 else 0
  alive : forall worker, worker ∈ state.workers -> worker ≠ .dead
  offered : state.fields.exports = [] ∨ state.fields.workerStarted = true ∨
    0 < state.calls.countP Call.isPlaced

theorem sound_initial (setting : Setting) : Sound setting initial :=
  ⟨fun _ => rfl, rfl, fun _ => rfl, rfl,
    fun _ impossible => absurd impossible List.not_mem_nil, Or.inl rfl⟩

theorem sound_step {setting : Setting} {before after : State} {action : Action}
    (sound : Sound setting before) (follows : FollowsStart before action)
    (raises : RaisesOsError action) (stepped : step setting before action = some after) :
    Sound setting after := by
  have moved := step_move stepped
  exact ⟨gauge_step moved follows sound.gauge, operations_step moved sound.operations,
    fun on => events_step moved raises on (sound.events on), threads_step moved sound.threads,
    alive_step moved raises sound.alive, offered_step moved sound.offered⟩

theorem Sound.accounted {setting : Setting} {state : State} (sound : Sound setting state) :
    Accounted setting state := by
  have few : state.workers.length ≤ 1 := by
    have threads := sound.threads
    split at threads <;> omega
  refine ⟨sound.gauge, sound.operations, sound.events, ?_, sound.alive, ?_, ?_⟩
  · exact List.countP_le_length.trans few
  · intro queued
    rcases sound.offered with empty | on | placed
    · exact absurd empty queued
    · have threads := sound.threads
      rw [if_pos on] at threads
      by_cases none : state.workers = []
      · rw [none, List.length_nil, Nat.zero_add] at threads
        have starting : 0 < state.calls.countP Call.isStarting := by omega
        rcases List.countP_pos_iff.mp starting with ⟨call, listed, kind⟩
        refine Or.inr ⟨call, listed, Or.inr ?_⟩
        cases call with
        | starting => rfl
        | _ => cases kind
      · exact Or.inl none
    · rcases List.countP_pos_iff.mp placed with ⟨call, listed, kind⟩
      refine Or.inr ⟨call, listed, Or.inl ?_⟩
      cases call with
      | placed => rfl
      | _ => cases kind
  · intro queued manned
    rcases List.exists_cons_of_ne_nil manned with ⟨worker, rest, first⟩
    rcases List.exists_cons_of_ne_nil queued with ⟨event, more, next⟩
    have living := sound.alive worker (first ▸ List.mem_cons_self)
    refine ⟨0, ?_⟩
    cases worker with
    | waiting =>
        refine Or.inl ?_
        rw [step, first, next]
        rfl
    | exporting event =>
        refine Or.inr ?_
        rw [step, first]
        rfl
    | dead => exact absurd rfl living

/-- In every run in which each finish follows its own start and every failed
export raises an `OSError`, the accounts are right in every state: a gauge counts what has
started and not finished, every event is exported, failed, dropped, queued or in
the hands of its call or of the one worker, and the worker goes on.  Any other
exception ends it, and no other one is started. -/
theorem accounted_of_run {setting : Setting} {state : State}
    (reached : (machine setting).ReachableUnder
      (fun before action => FollowsStart before action ∧ RaisesOsError action) state) :
    Accounted setting state := by
  have sound : Sound setting state := by
    refine reached.invariant ?_ ?_
    · rintro _ rfl
      exact sound_initial setting
    · intro before action after _ kept allowed stepped
      exact sound_step kept allowed.1 allowed.2 stepped
  exact sound.accounted

def sampleSetting : Setting := ⟨true, 256⟩

/-- One operation is started, finished and exported; the collector is down. -/
def sampleRun (error : ExportError) : List Action :=
  [.start "controlplane" "graphql", .observe "controlplane" "graphql" "succeeded" 12 true,
    .enqueue 0, .ensureWorker 0, .launch 0, .get 0, .raised 0 error]

/-- The event of the sample is counted as an error, and the worker waits for the next one. -/
theorem accounted_sample : Exists fun state : State => Accounted sampleSetting state ∧
    (state.workers = [.waiting] ∧ state.fields.exportErrors = 1) := by
  rcases (machine sampleSetting).exists_reachableUnder_of_replay
    (fun before action => FollowsStart before action ∧ RaisesOsError action)
    (sampleRun .osError) initial rfl
    (fun state => decide (state.workers = [.waiting] ∧ state.fields.exportErrors = 1))
    (by decide +kernel) with ⟨state, reached, tested⟩
  exact ⟨state, accounted_of_run reached, of_decide_eq_true tested⟩

/-- The collector answers with what is no HTTP: the event is in no account, and
the thread has ended for good. -/
theorem worker_dies : Exists fun state : State =>
    (machine sampleSetting).ReachableUnder (fun before action => FollowsStart before action) state ∧
      (state.workers = [.dead] ∧ state.fields.workerStarted = true ∧ state.calls = [] ∧
        state.history.observed = 1 ∧ state.history.exported + state.fields.exportErrors +
          state.fields.dropped + state.fields.exports.length + state.exporting = 0) ∧
      ¬Accounted sampleSetting state := by
  rcases (machine sampleSetting).exists_reachableUnder_of_replay
    (fun before action => FollowsStart before action) (sampleRun .httpException) initial rfl
    (fun state => decide (state.workers = [.dead] ∧ state.fields.workerStarted = true ∧
      state.calls = [] ∧ state.history.observed = 1 ∧ state.history.exported +
        state.fields.exportErrors + state.fields.dropped + state.fields.exports.length +
          state.exporting = 0))
    (by decide +kernel) with ⟨state, reached, tested⟩
  have known := of_decide_eq_true tested
  refine ⟨state, reached, known, ?_⟩
  intro accounted
  exact accounted.alive .dead (known.1 ▸ List.mem_cons_self) rfl

end Telemetry
end ControlPlane
end DjangoOps
