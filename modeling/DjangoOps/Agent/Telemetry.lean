import DjangoOps.Foundation.Counting
import DjangoOps.Foundation.LossyQueue
import DjangoOps.Protocol.Frames

namespace DjangoOps
namespace Agent
namespace Telemetry

open Transition

/-!
# The recorder of the agent

`Recorder` with everything that runs at the same time: the goroutines that call
`Observe` and the one that exports.  A step is one operation on the channel, on
the `sync.Once` or on a counter, or one export.

The recorder refines a queue that rather loses than waits.
-/

/-! ## Events -/

def allowedKind : List String := ["connection", "diagnostic", "kubernetes_release"]

def allowedOutcome : List String :=
  ["succeeded", "failed", "cancelled", "disconnected", "overloaded", "recovery_required"]

structure Event where
  kind : String
  outcome : String
  correlation : String
  durationMs : Int
  deriving DecidableEq

/-- The event of `Observe`.  The duration is in nanoseconds; `safeCorrelation`
is the pattern of the job ids. -/
def event (kind outcome correlation : String) (duration : Int) : Event where
  kind := if kind ∈ allowedKind then kind else "diagnostic"
  outcome := if outcome ∈ allowedOutcome then outcome else "failed"
  correlation := if Protocol.safeJobID correlation then correlation else "invalid"
  durationMs := max 0 (duration.tdiv 1000000)

/-- What is expected of every event that leaves the agent. -/
structure Event.Closed (event : Event) : Prop where
  kind : event.kind ∈ allowedKind
  outcome : event.outcome ∈ allowedOutcome
  correlation : Protocol.safeJobID event.correlation = true
  durationMs : 0 ≤ event.durationMs

theorem closed_event (kind outcome correlation : String) (duration : Int) :
    (event kind outcome correlation duration).Closed where
  kind := by
    unfold event
    dsimp only
    split
    · assumption
    · decide
  outcome := by
    unfold event
    dsimp only
    split
    · assumption
    · decide
  correlation := by
    unfold event
    dsimp only
    split
    · assumption
    · decide +kernel
  durationMs := by
    unfold event
    exact Int.le_max_left 0 _

/-! ## State -/

/-- The state of `started`. -/
inductive Once
  | fresh
  | running
  | done
  deriving DecidableEq

/-- The fields of `Recorder`: the channel, the `sync.Once` that starts the exporter, and
the two counters. -/
structure Recorder where
  queue : List Event
  started : Once
  dropped : Nat
  errors : Nat

/-- Where a call of `Observe` stands. -/
inductive Call
  | offering (event : Event)
  | refused
  | sent
  | starting
  deriving DecidableEq

/-- The goroutine of `run`. -/
inductive Exporter
  | receiving
  | exporting (event : Event)
  deriving DecidableEq

/-- The recorder, the calls of `Observe` that have not returned, and the goroutines that
export. -/
structure State where
  recorder : Recorder
  calls : List Call
  exporters : List Exporter
  /-- The events of all calls so far. -/
  observed : List Event

/-- How the recorder was made: its endpoint, which is empty when nothing is
exported, and the capacity asked for. -/
structure Setting where
  endpoint : String
  capacity : Int

/-- The capacity of the channel that `New` makes. -/
def Setting.size (setting : Setting) : Nat :=
  (if (if setting.capacity < 8 then 8 else setting.capacity) > 1024 then 1024
    else if setting.capacity < 8 then 8 else setting.capacity).toNat

/-- How `export` ends. -/
inductive Export
  | marshal
  | request
  | transport
  | status (code : Nat)
  deriving DecidableEq

/-- `export` returns no error. -/
def Export.succeeded : Export -> Bool
  | .status code => decide (200 ≤ code ∧ code < 300)
  | _ => false

/-- A step of a call of `Observe` or of the goroutine that exports.  What the collector
answers is part of the last one. -/
inductive Action
  | observe (kind outcome correlation : String) (duration : Int)
  | send (call : Nat)
  | drop (call : Nat)
  | enter (call : Nat)
  | launch (call : Nat)
  | receive (exporter : Nat)
  | deliver (exporter : Nat) (result : Export)

/-! ## Steps -/

def step (setting : Setting) (state : State) : Action -> Option State
  | .observe kind outcome correlation duration =>
      if setting.endpoint = "" then some state
      else
        some { state with
          calls := state.calls ++ [.offering (event kind outcome correlation duration)]
          observed := state.observed ++ [event kind outcome correlation duration] }
  | .send call =>
      match state.calls[call]? with
      | some (.offering event) =>
          if state.recorder.queue.length < setting.size then
            some { state with
              recorder := { state.recorder with queue := state.recorder.queue ++ [event] }
              calls := state.calls.set call .sent }
          else some { state with calls := state.calls.set call .refused }
      | _ => none
  | .drop call =>
      match state.calls[call]? with
      | some .refused =>
          some { state with
            recorder := { state.recorder with dropped := state.recorder.dropped + 1 }
            calls := state.calls.eraseIdx call }
      | _ => none
  | .enter call =>
      match state.calls[call]?, state.recorder.started with
      | some .sent, .fresh =>
          some { state with
            recorder := { state.recorder with started := .running }
            calls := state.calls.set call .starting }
      | some .sent, .done => some { state with calls := state.calls.eraseIdx call }
      | _, _ => none
  | .launch call =>
      match state.calls[call]? with
      | some .starting =>
          some { state with
            recorder := { state.recorder with started := .done }
            calls := state.calls.eraseIdx call
            exporters := state.exporters ++ [.receiving] }
      | _ => none
  | .receive exporter =>
      match state.exporters[exporter]?, state.recorder.queue with
      | some .receiving, event :: rest =>
          some { state with
            recorder := { state.recorder with queue := rest }
            exporters := state.exporters.set exporter (.exporting event) }
      | _, _ => none
  | .deliver exporter result =>
      match state.exporters[exporter]? with
      | some (.exporting _) =>
          some { state with
            recorder := if result.succeeded then state.recorder
              else { state.recorder with errors := state.recorder.errors + 1 }
            exporters := state.exporters.set exporter .receiving }
      | _ => none

def initial : State := ⟨⟨[], .fresh, 0, 0⟩, [], [], []⟩

def machine (setting : Setting) : Machine State Action where
  initial := fun state => state = initial
  step := step setting

/-- What a step does to the queue.  The verdict tells whether an export went well. -/
def shows (setting : Setting) (state : State) : Action -> List (LossyQueue.Event Event Bool)
  | .send call =>
      match state.calls[call]? with
      | some (.offering event) =>
          if state.recorder.queue.length < setting.size then [.accept event] else [.drop event]
      | _ => []
  | .receive exporter =>
      match state.exporters[exporter]?, state.recorder.queue with
      | some .receiving, event :: _ => [.take event]
      | _, _ => []
  | .deliver exporter result =>
      match state.exporters[exporter]? with
      | some (.exporting event) => [.settle event result.succeeded]
      | _ => []
  | _ => []

/-! ## What a step does -/

/-- The steps by what they do and show, with what each one has found. -/
inductive Move (setting : Setting) (before : State) :
    Action -> List (LossyQueue.Event Event Bool) -> State -> Prop
  | ignore (kind outcome correlation : String) (duration : Int) (off : setting.endpoint = "") :
      Move setting before (.observe kind outcome correlation duration) [] before
  | observe (kind outcome correlation : String) (duration : Int) (on : setting.endpoint ≠ "") :
      Move setting before (.observe kind outcome correlation duration) []
        { before with
          calls := before.calls ++ [.offering (event kind outcome correlation duration)]
          observed := before.observed ++ [event kind outcome correlation duration] }
  | accept {call : Nat} {event : Event} (found : before.calls[call]? = some (.offering event))
      (room : before.recorder.queue.length < setting.size) :
      Move setting before (.send call) [.accept event]
        { before with
          recorder := { before.recorder with queue := before.recorder.queue ++ [event] }
          calls := before.calls.set call .sent }
  | refuse {call : Nat} {event : Event} (found : before.calls[call]? = some (.offering event))
      (full : ¬before.recorder.queue.length < setting.size) :
      Move setting before (.send call) [.drop event]
        { before with calls := before.calls.set call .refused }
  | drop {call : Nat} (found : before.calls[call]? = some .refused) :
      Move setting before (.drop call) []
        { before with
          recorder := { before.recorder with dropped := before.recorder.dropped + 1 }
          calls := before.calls.eraseIdx call }
  | claim {call : Nat} (found : before.calls[call]? = some .sent)
      (fresh : before.recorder.started = .fresh) :
      Move setting before (.enter call) []
        { before with
          recorder := { before.recorder with started := .running }
          calls := before.calls.set call .starting }
  | ready {call : Nat} (found : before.calls[call]? = some .sent)
      (done : before.recorder.started = .done) :
      Move setting before (.enter call) [] { before with calls := before.calls.eraseIdx call }
  | launch {call : Nat} (found : before.calls[call]? = some .starting) :
      Move setting before (.launch call) []
        { before with
          recorder := { before.recorder with started := .done }
          calls := before.calls.eraseIdx call
          exporters := before.exporters ++ [.receiving] }
  | receive {exporter : Nat} {event : Event} {rest : List Event}
      (found : before.exporters[exporter]? = some .receiving)
      (queued : before.recorder.queue = event :: rest) :
      Move setting before (.receive exporter) [.take event]
        { before with
          recorder := { before.recorder with queue := rest }
          exporters := before.exporters.set exporter (.exporting event) }
  | deliver {exporter : Nat} {event : Event} {result : Export}
      (found : before.exporters[exporter]? = some (.exporting event)) :
      Move setting before (.deliver exporter result) [.settle event result.succeeded]
        { before with
          recorder := if result.succeeded then before.recorder
            else { before.recorder with errors := before.recorder.errors + 1 }
          exporters := before.exporters.set exporter .receiving }

theorem step_move {setting : Setting} {before after : State} {action : Action}
    (stepped : step setting before action = some after) :
    Move setting before action (shows setting before action) after := by
  cases action with
  | observe kind outcome correlation duration =>
      rw [step] at stepped
      split at stepped
      · rename_i off
        cases stepped
        exact .ignore kind outcome correlation duration off
      · rename_i on
        cases stepped
        exact .observe kind outcome correlation duration on
  | send call =>
      rw [step] at stepped
      rw [shows]
      split at stepped
      · rename_i event found
        split at stepped
        · rename_i room
          cases stepped
          rw [if_pos room]
          exact .accept found room
        · rename_i full
          cases stepped
          rw [if_neg full]
          exact .refuse found full
      · cases stepped
  | drop call =>
      rw [step] at stepped
      split at stepped
      · rename_i found
        cases stepped
        exact .drop found
      · cases stepped
  | enter call =>
      rw [step] at stepped
      split at stepped
      · rename_i found fresh
        cases stepped
        exact .claim found fresh
      · rename_i found done
        cases stepped
        exact .ready found done
      · cases stepped
  | launch call =>
      rw [step] at stepped
      split at stepped
      · rename_i found
        cases stepped
        exact .launch found
      · cases stepped
  | receive exporter =>
      rw [step] at stepped
      rw [shows]
      split at stepped
      · rename_i event rest found queued
        cases stepped
        exact .receive found queued
      · cases stepped
  | deliver exporter result =>
      rw [step] at stepped
      rw [shows]
      split at stepped
      · rename_i event found
        cases stepped
        exact .deliver found
      · cases stepped

/-! ## The exporter -/

def Call.isStarting : Call -> Bool
  | .starting => true
  | _ => false

def Call.isSent : Call -> Bool
  | .sent => true
  | _ => false

def Call.isRefused : Call -> Bool
  | .refused => true
  | _ => false

/-- The call still offers this event. -/
def Call.offers (event : Event) : Call -> Bool
  | .offering other => decide (other = event)
  | _ => false

def Exporter.event? : Exporter -> Option Event
  | .receiving => none
  | .exporting event => some event

/-- The events that are being exported. -/
def State.inFlight (state : State) : List Event := state.exporters.filterMap Exporter.event?

/-- One call, or the goroutine that it has launched, stands for the `Once`. -/
structure Launched (state : State) : Prop where
  starting : state.calls.countP Call.isStarting =
    if state.recorder.started = .running then 1 else 0
  exporters : state.exporters.length = if state.recorder.started = .done then 1 else 0

section Steps

variable {setting : Setting} {before after : State} {action : Action}
  {shown : List (LossyQueue.Event Event Bool)}

/-- There is a goroutine as soon as the call that launches it has done so.  That
call is the only one, and before it there is no goroutine. -/
theorem launched_step (moved : Move setting before action shown after)
    (launched : Launched before) : Launched after := by
  rcases launched with ⟨starting, exporters⟩
  cases moved with
  | ignore kind outcome correlation duration off => exact ⟨starting, exporters⟩
  | observe kind outcome correlation duration on =>
      refine ⟨?_, exporters⟩
      rw [List.countP_append, List.countP_singleton, starting]
      rfl
  | accept found room =>
      have moved := Counting.countP_set found Call.sent Call.isStarting
      simp only [Call.isStarting, Bool.false_eq_true, if_false, Nat.add_zero] at moved
      exact ⟨moved.trans starting, exporters⟩
  | refuse found full =>
      have moved := Counting.countP_set found Call.refused Call.isStarting
      simp only [Call.isStarting, Bool.false_eq_true, if_false, Nat.add_zero] at moved
      exact ⟨moved.trans starting, exporters⟩
  | drop found =>
      have moved := Counting.countP_eraseIdx found Call.isStarting
      simp only [Call.isStarting, Bool.false_eq_true, if_false, Nat.add_zero] at moved
      exact ⟨moved.trans starting, exporters⟩
  | claim found fresh =>
      have moved := Counting.countP_set found Call.starting Call.isStarting
      simp only [Call.isStarting, Bool.false_eq_true, if_false, if_true, Nat.add_zero] at moved
      rw [fresh] at starting exporters
      refine ⟨?_, exporters⟩
      rw [moved, starting]
      rfl
  | ready found done =>
      have moved := Counting.countP_eraseIdx found Call.isStarting
      simp only [Call.isStarting, Bool.false_eq_true, if_false, Nat.add_zero] at moved
      exact ⟨moved.trans starting, exporters⟩
  | launch found =>
      have moved := Counting.countP_eraseIdx found Call.isStarting
      simp only [Call.isStarting, if_true] at moved
      have running : before.recorder.started = .running := by
        by_contra other
        rw [if_neg other] at starting
        omega
      rw [running] at starting exporters
      refine ⟨?_, ?_⟩
      · change (before.calls.eraseIdx _).countP Call.isStarting = 0
        rw [if_pos rfl] at starting
        omega
      · rw [List.length_append, exporters]
        rfl
  | receive found queued => exact ⟨starting, (List.length_set).trans exporters⟩
  | deliver found =>
      constructor
      · dsimp only
        split
        · exact starting
        · exact starting
      · dsimp only
        rw [List.length_set]
        split
        · exact exporters
        · exact exporters

/-- At most one goroutine exports, so what is in flight is one event at most. -/
theorem Launched.inFlight {state : State} (launched : Launched state) {exporter : Nat}
    {found : Exporter} (listed : state.exporters[exporter]? = some found) :
    exporter = 0 ∧ state.exporters = [found] := by
  rcases launched with ⟨_, exporters⟩
  match manned : state.exporters, exporter with
  | [], _ =>
      rw [manned] at listed
      cases listed
  | [single], 0 =>
      rw [manned] at listed
      cases listed
      exact ⟨rfl, rfl⟩
  | [single], index + 1 =>
      rw [manned] at listed
      cases listed
  | _ :: _ :: _, _ =>
      rw [manned, List.length_cons, List.length_cons] at exporters
      split at exporters <;> omega

/-- Every step performs on the queue what it shows. -/
theorem queue_step (moved : Move setting before action shown after) (launched : Launched before)
    {spec : LossyQueue.State Event} (waiting : spec.waiting = before.recorder.queue)
    (taken : spec.taken.toList = before.inFlight) :
    Exists fun next : LossyQueue.State Event =>
      (LossyQueue.machine setting.size).perform spec shown = some next ∧
        next.waiting = after.recorder.queue ∧ next.taken.toList = after.inFlight := by
  cases moved with
  | @accept call event found room =>
      refine ⟨{ spec with waiting := spec.waiting ++ [event] }, ?_, ?_, taken⟩
      · rw [Machine.perform_one]
        exact if_pos (waiting ▸ room)
      · exact congrArg (· ++ [event]) waiting
  | refuse found full =>
      refine ⟨spec, ?_, waiting, taken⟩
      rw [Machine.perform_one]
      exact if_neg (waiting ▸ full)
  | launch found =>
      refine ⟨spec, rfl, waiting, ?_⟩
      rw [taken]
      unfold State.inFlight
      rw [List.filterMap_append]
      exact (List.append_nil _).symm
  | @receive exporter event rest found queued =>
      rcases launched.inFlight found with ⟨rfl, manned⟩
      unfold State.inFlight at taken
      rw [manned] at taken
      have free : spec.taken = none := Option.toList_eq_nil_iff.mp taken
      rw [queued] at waiting
      refine ⟨⟨spec.waiting.tail, some event⟩, ?_, ?_, ?_⟩
      · rw [Machine.perform_one]
        exact if_pos ⟨free, congrArg List.head? waiting⟩
      · exact congrArg List.tail waiting
      · unfold State.inFlight
        dsimp only
        rw [manned]
        rfl
  | @deliver exporter event result found =>
      rcases launched.inFlight found with ⟨rfl, manned⟩
      unfold State.inFlight at taken
      rw [manned] at taken
      have held : spec.taken = some event := Option.toList_eq_singleton_iff.mp taken
      refine ⟨{ spec with taken := none }, ?_, ?_, ?_⟩
      · rw [Machine.perform_one]
        exact if_pos held
      · dsimp only
        split
        · exact waiting
        · exact waiting
      · unfold State.inFlight
        dsimp only
        rw [manned]
        rfl
  | _ => exact ⟨spec, rfl, waiting, taken⟩

end Steps

/-- The recorder refines the queue. -/
def refinement (setting : Setting) :
    Machine.Refinement (machine setting) (fun _ _ => True) (shows setting)
      (LossyQueue.machine setting.size) where
  related := fun state spec => Launched state ∧ spec.waiting = state.recorder.queue ∧
    spec.taken.toList = state.inFlight
  start := by
    rintro _ rfl
    exact ⟨LossyQueue.initial, rfl, ⟨rfl, rfl⟩, rfl, rfl⟩
  step := by
    rintro before action after spec _ stepped ⟨launched, waiting, taken⟩
    have moved := step_move stepped
    rcases queue_step moved launched waiting taken with ⟨next, performed, same⟩
    exact ⟨next, performed, launched_step moved launched, same⟩

/-! ## The accounts -/

open LossyQueue (accepted dropped settled)

section Accounts

variable {setting : Setting} {before after : State} {action : Action}
  {events shown : List (LossyQueue.Event Event Bool)}

/-- Every event that was observed has been accepted or dropped, or is still
offered. -/
theorem observed_step (moved : Move setting before action shown after) (event : Event)
    (observed : before.observed.count event = (accepted events).count event +
      (dropped events).count event + before.calls.countP (Call.offers event)) :
    after.observed.count event = (accepted (events ++ shown)).count event +
      (dropped (events ++ shown)).count event + after.calls.countP (Call.offers event) := by
  rw [LossyQueue.accepted_append, LossyQueue.dropped_append, List.count_append,
    List.count_append]
  cases moved with
  | ignore kind outcome correlation duration off => exact observed
  | observe kind outcome correlation duration on =>
      change (before.observed ++ [_]).count event = (accepted events).count event + 0 +
        ((dropped events).count event + 0) +
          (before.calls ++ [Call.offering _]).countP (Call.offers event)
      rw [List.count_append, List.countP_append, observed, List.count_singleton,
        List.countP_singleton, Call.offers]
      simp only [beq_iff_eq, decide_eq_true_eq]
      omega
  | @accept call own found room =>
      have moved := Counting.countP_set found Call.sent (Call.offers event)
      change before.observed.count event = (accepted events).count event + [own].count event +
        ((dropped events).count event + 0) + (before.calls.set _ .sent).countP _
      simp only [Call.offers, decide_eq_true_eq, Bool.false_eq_true, if_false] at moved
      rw [List.count_singleton, observed]
      simp only [beq_iff_eq]
      omega
  | @refuse call own found full =>
      have moved := Counting.countP_set found Call.refused (Call.offers event)
      change before.observed.count event = (accepted events).count event + 0 +
        ((dropped events).count event + [own].count event) +
          (before.calls.set _ .refused).countP _
      simp only [Call.offers, decide_eq_true_eq, Bool.false_eq_true, if_false] at moved
      rw [List.count_singleton, observed]
      simp only [beq_iff_eq]
      omega
  | drop found =>
      have moved := Counting.countP_eraseIdx found (Call.offers event)
      simp only [Call.offers, Bool.false_eq_true, if_false, Nat.add_zero] at moved
      rw [moved]
      exact observed
  | claim found fresh =>
      have moved := Counting.countP_set found Call.starting (Call.offers event)
      simp only [Call.offers, Bool.false_eq_true, if_false, Nat.add_zero] at moved
      rw [moved]
      exact observed
  | ready found done =>
      have moved := Counting.countP_eraseIdx found (Call.offers event)
      simp only [Call.offers, Bool.false_eq_true, if_false, Nat.add_zero] at moved
      rw [moved]
      exact observed
  | launch found =>
      have moved := Counting.countP_eraseIdx found (Call.offers event)
      simp only [Call.offers, Bool.false_eq_true, if_false, Nat.add_zero] at moved
      rw [moved]
      exact observed
  | receive found queued => exact observed
  | deliver found => exact observed

/-- The counter of the dropped events follows the drops. -/
theorem dropped_step (moved : Move setting before action shown after)
    (drops : (dropped events).length =
      before.recorder.dropped + before.calls.countP Call.isRefused) :
    (dropped (events ++ shown)).length =
      after.recorder.dropped + after.calls.countP Call.isRefused := by
  rw [LossyQueue.dropped_append, List.length_append, drops]
  cases moved with
  | ignore kind outcome correlation duration off => rfl
  | observe kind outcome correlation duration on =>
      rw [List.countP_append, List.countP_singleton]
      rfl
  | accept found room =>
      have moved := Counting.countP_set found Call.sent Call.isRefused
      simp only [Call.isRefused, Bool.false_eq_true, if_false, Nat.add_zero] at moved
      rw [moved]
      rfl
  | refuse found full =>
      have moved := Counting.countP_set found Call.refused Call.isRefused
      simp only [Call.isRefused, Bool.false_eq_true, if_false, if_true, Nat.add_zero] at moved
      rw [moved]
      rfl
  | drop found =>
      have moved := Counting.countP_eraseIdx found Call.isRefused
      simp only [Call.isRefused, if_true] at moved
      dsimp only
      change before.recorder.dropped + before.calls.countP Call.isRefused + 0 = _
      omega
  | claim found fresh =>
      have moved := Counting.countP_set found Call.starting Call.isRefused
      simp only [Call.isRefused, Bool.false_eq_true, if_false, Nat.add_zero] at moved
      rw [moved]
      rfl
  | ready found done =>
      have moved := Counting.countP_eraseIdx found Call.isRefused
      simp only [Call.isRefused, Bool.false_eq_true, if_false, Nat.add_zero] at moved
      rw [moved]
      rfl
  | launch found =>
      have moved := Counting.countP_eraseIdx found Call.isRefused
      simp only [Call.isRefused, Bool.false_eq_true, if_false, Nat.add_zero] at moved
      rw [moved]
      rfl
  | receive found queued => rfl
  | @deliver exporter event result found =>
      cases succeeded : result.succeeded with
      | true => rfl
      | false => rfl

/-- An export fails. -/
def failed (pair : Event × Bool) : Bool := !pair.2

theorem errors_step (moved : Move setting before action shown after)
    (errors : (settled events).countP failed = before.recorder.errors) :
    (settled (events ++ shown)).countP failed = after.recorder.errors := by
  rw [LossyQueue.settled_append, List.countP_append, errors]
  cases moved with
  | @deliver exporter event result found =>
      cases succeeded : result.succeeded with
      | true => rfl
      | false => rfl
  | _ => rfl

/-- A call that has sent an event makes sure that there is an exporter. -/
theorem offered_step (moved : Move setting before action shown after)
    (offered : before.recorder.queue = [] ∨ before.recorder.started ≠ .fresh ∨
      0 < before.calls.countP Call.isSent) :
    after.recorder.queue = [] ∨ after.recorder.started ≠ .fresh ∨
      0 < after.calls.countP Call.isSent := by
  cases moved with
  | ignore kind outcome correlation duration off => exact offered
  | observe kind outcome correlation duration on =>
      refine offered.imp_right (Or.imp_right fun sent => ?_)
      rw [List.countP_append]
      omega
  | accept found room =>
      have moved := Counting.countP_set found Call.sent Call.isSent
      simp only [Call.isSent, Bool.false_eq_true, if_false, if_true, Nat.add_zero] at moved
      refine Or.inr (Or.inr ?_)
      dsimp only
      omega
  | refuse found full =>
      have moved := Counting.countP_set found Call.refused Call.isSent
      simp only [Call.isSent, Bool.false_eq_true, if_false, Nat.add_zero] at moved
      rw [moved]
      exact offered
  | drop found =>
      have moved := Counting.countP_eraseIdx found Call.isSent
      simp only [Call.isSent, Bool.false_eq_true, if_false, Nat.add_zero] at moved
      rw [moved]
      exact offered
  | claim found fresh => exact Or.inr (Or.inl Once.noConfusion)
  | ready found done =>
      refine Or.inr (Or.inl ?_)
      rw [done]
      exact Once.noConfusion
  | launch found => exact Or.inr (Or.inl Once.noConfusion)
  | receive found queued =>
      rcases offered with empty | started
      · rw [queued] at empty
        cases empty
      · exact Or.inr started
  | @deliver exporter event result found =>
      cases succeeded : result.succeeded with
      | true => exact offered
      | false => exact offered

theorem closed_step (moved : Move setting before action shown after)
    (closed : forall event, event ∈ before.observed -> event.Closed) :
    forall event, event ∈ after.observed -> event.Closed := by
  cases moved with
  | observe kind outcome correlation duration on =>
      intro event listed
      rcases List.mem_append.mp listed with earlier | own
      · exact closed event earlier
      · rw [List.mem_singleton.mp own]
        exact closed_event kind outcome correlation duration
  | _ => exact closed

end Accounts

/-- What every step keeps. -/
structure Accounts (events : List (LossyQueue.Event Event Bool)) (state : State) : Prop where
  observed : forall event, state.observed.count event = (accepted events).count event +
    (dropped events).count event + state.calls.countP (Call.offers event)
  drops : (dropped events).length =
    state.recorder.dropped + state.calls.countP Call.isRefused
  errors : (settled events).countP failed = state.recorder.errors
  offered : state.recorder.queue = [] ∨ state.recorder.started ≠ .fresh ∨
    0 < state.calls.countP Call.isSent
  closed : forall event, event ∈ state.observed -> event.Closed

theorem accounts_of_run {setting : Setting} {events : List (LossyQueue.Event Event Bool)}
    {state : State}
    (run : (machine setting).Trace (fun _ _ => True) (shows setting) events state) :
    Accounts events state := by
  refine @Machine.Trace.invariant _ _ _ _ _ _ (fun events state => Accounts events state)
    ?_ ?_ _ _ run
  · rintro _ rfl
    exact ⟨fun _ => rfl, rfl, rfl, Or.inl rfl, fun _ listed => absurd listed List.not_mem_nil⟩
  · intro events before action after _ accounts _ stepped
    have moved := step_move stepped
    exact ⟨fun event => observed_step moved event (accounts.observed event),
      dropped_step moved accounts.drops, errors_step moved accounts.errors,
      offered_step moved accounts.offered, closed_step moved accounts.closed⟩

/-! ## Runs -/

/-- The actions of the calls of `Observe` that are under way. -/
def Action.isCall : Action -> Bool
  | .send _ => true
  | .drop _ => true
  | .enter _ => true
  | .launch _ => true
  | _ => false

/-- What is expected of a recorder and of what it has shown: whose observation was
accepted or dropped, in which order the accepted ones have been settled, when an
event was dropped, what the counters say, and that neither a caller nor the
exporter is ever stuck. -/
structure Recorded (setting : Setting) (events : List (LossyQueue.Event Event Bool))
    (state : State) : Prop where
  observed : forall event, state.observed.count event = (accepted events).count event +
    (dropped events).count event + state.calls.countP (Call.offers event)
  order : accepted events =
    (settled events).map Prod.fst ++ (state.inFlight ++ state.recorder.queue)
  bound : state.recorder.queue.length ≤ setting.size
  full : forall front event back, events = front ++ .drop event :: back ->
    (accepted front).length = (LossyQueue.taken front).length + setting.size
  drops : (dropped events).length =
    state.recorder.dropped + state.calls.countP Call.isRefused
  errors : (settled events).countP failed = state.recorder.errors
  single : state.exporters.length ≤ 1
  closed : forall event, event ∈ state.observed -> event.Closed
  served : state.recorder.queue ≠ [] -> state.exporters ≠ [] ∨
    Exists fun call : Call => call ∈ state.calls ∧ (call = .sent ∨ call = .starting)
  unblocked : state.calls ≠ [] -> Exists fun action : Action =>
    action.isCall = true ∧ (step setting state action).isSome = true
  consumes : state.recorder.queue ≠ [] -> state.exporters ≠ [] ->
    Exists fun action : Action => action.isCall = false ∧
      (step setting state action).isSome = true ∧ shows setting state action ≠ []

theorem Launched.single {state : State} (launched : Launched state) :
    state.exporters.length ≤ 1 := by
  have exporters := launched.exporters
  split at exporters <;> omega

/-- An event that waits has an exporter, or a call that is about to launch it. -/
theorem Launched.served {state : State} (launched : Launched state)
    (offered : state.recorder.queue = [] ∨ state.recorder.started ≠ .fresh ∨
      0 < state.calls.countP Call.isSent) (queued : state.recorder.queue ≠ []) :
    state.exporters ≠ [] ∨
      Exists fun call : Call => call ∈ state.calls ∧ (call = .sent ∨ call = .starting) := by
  rcases offered with empty | entered | sent
  · exact absurd empty queued
  · cases phase : state.recorder.started with
    | fresh => exact absurd phase entered
    | running =>
        have starting := launched.starting
        rw [if_pos phase] at starting
        rcases List.countP_pos_iff.mp (starting ▸ Nat.one_pos) with ⟨call, listed, kind⟩
        refine Or.inr ⟨call, listed, Or.inr ?_⟩
        cases call with
        | starting => rfl
        | _ => cases kind
    | done =>
        have exporters := launched.exporters
        rw [if_pos phase] at exporters
        exact Or.inl (List.ne_nil_of_length_eq_add_one exporters)
  · rcases List.countP_pos_iff.mp sent with ⟨call, listed, kind⟩
    refine Or.inr ⟨call, listed, Or.inl ?_⟩
    cases call with
    | sent => rfl
    | _ => cases kind

/-- A call waits for nobody but the one that launches the exporter. -/
theorem Launched.unblocked {setting : Setting} {state : State} (launched : Launched state)
    (some : state.calls ≠ []) : Exists fun action : Action =>
      action.isCall = true ∧ (step setting state action).isSome = true := by
  rcases List.exists_cons_of_ne_nil some with ⟨call, rest, calls⟩
  have first : state.calls[0]? = Option.some call := by
    rw [calls]
    rfl
  cases call with
  | offering event =>
      refine ⟨.send 0, rfl, ?_⟩
      rw [step, first]
      dsimp only
      split <;> rfl
  | refused =>
      refine ⟨.drop 0, rfl, ?_⟩
      rw [step, first]
      rfl
  | sent =>
      cases phase : state.recorder.started with
      | fresh =>
          refine ⟨.enter 0, rfl, ?_⟩
          rw [step, first, phase]
          rfl
      | done =>
          refine ⟨.enter 0, rfl, ?_⟩
          rw [step, first, phase]
          rfl
      | running =>
          have starting := launched.starting
          rw [if_pos phase] at starting
          rcases List.countP_pos_iff.mp (starting ▸ Nat.one_pos) with ⟨call, listed, kind⟩
          rcases List.getElem?_of_mem listed with ⟨index, found⟩
          cases call with
          | starting =>
              refine ⟨.launch index, rfl, ?_⟩
              rw [step, found]
              rfl
          | _ => cases kind
  | starting =>
      refine ⟨.launch 0, rfl, ?_⟩
      rw [step, first]
      rfl

/-- The exporter waits for nobody while events wait for it. -/
theorem Launched.consumes {setting : Setting} {state : State}
    (queued : state.recorder.queue ≠ []) (manned : state.exporters ≠ []) :
    Exists fun action : Action => action.isCall = false ∧
      (step setting state action).isSome = true ∧ shows setting state action ≠ [] := by
  rcases List.exists_cons_of_ne_nil manned with ⟨exporter, others, exporters⟩
  rcases List.exists_cons_of_ne_nil queued with ⟨event, rest, queue⟩
  have first : state.exporters[0]? = some exporter := by
    rw [exporters]
    rfl
  cases exporter with
  | receiving =>
      refine ⟨.receive 0, rfl, ?_, ?_⟩
      · rw [step, first, queue]
        rfl
      · rw [shows, first, queue]
        exact List.cons_ne_nil _ _
  | exporting event =>
      refine ⟨.deliver 0 (.status 200), rfl, ?_, ?_⟩
      · rw [step, first]
        rfl
      · rw [shows, first]
        exact List.cons_ne_nil _ _

/-- In every run the recorder loses an event only when its queue is full, and it
exports the others once and in their order, whatever the collector does.  What
the run has shown is performed by the queue that accepts, drops, takes and
settles, and this queue ends with the events that wait in the recorder and the
one that its exporter has in its hands. -/
theorem recorded_of_run (setting : Setting) (events : List (LossyQueue.Event Event Bool))
    (state : State)
    (run : (machine setting).Trace (fun _ _ => True) (shows setting) events state) :
    Recorded setting events state ∧ 8 ≤ setting.size ∧ setting.size ≤ 1024 ∧
      Exists fun spec : LossyQueue.State Event =>
        (LossyQueue.machine setting.size).perform LossyQueue.initial events = some spec ∧
          spec.waiting = state.recorder.queue ∧ spec.taken.toList = state.inFlight := by
  rcases (refinement setting).performs run with ⟨_, rfl, spec, performed, launched, waiting, taken⟩
  have accounts := accounts_of_run run
  have placed := LossyQueue.placed_of_performed performed
  have size : 8 ≤ setting.size ∧ setting.size ≤ 1024 := by
    unfold Setting.size
    split_ifs <;> omega
  refine ⟨⟨accounts.observed, ?_, ?_, ?_, accounts.drops, accounts.errors, launched.single,
    accounts.closed, launched.served accounts.offered, launched.unblocked,
    fun queued manned => Launched.consumes queued manned⟩, size.1, size.2, spec, performed,
    waiting, taken⟩
  · rw [placed.order, taken, waiting]
  · rw [← waiting]
    exact placed.bound
  · rintro front event back rfl
    exact LossyQueue.full_of_drop performed

/-- Two observations; the collector refuses the first event and takes the other. -/
def sampleRun : List Action :=
  [.observe "diagnostic" "succeeded" "op-1" 1500000, .send 0, .observe "restart" "ok" "op 2" (-1),
    .enter 0, .send 1, .launch 0, .enter 0, .receive 0, .deliver 0 (.status 503), .receive 0,
    .deliver 0 (.status 200)]

def sampleSetting : Setting := ⟨"http://collector:4318", 128⟩

/-- Both events of the sample are settled in their order, and one error is counted. -/
theorem recorded_sample : Exists fun last : List (LossyQueue.Event Event Bool) × State =>
    Recorded sampleSetting last.1 last.2 ∧
      (settled last.1 = [(⟨"diagnostic", "succeeded", "op-1", 1⟩, false),
          (⟨"diagnostic", "failed", "invalid", 0⟩, true)] ∧
        last.2.recorder.errors = 1) := by
  rcases (machine sampleSetting).exists_trace_of_record (fun _ _ => True) (shows sampleSetting)
    sampleRun initial rfl
    (fun last => decide (settled last.1 = [(⟨"diagnostic", "succeeded", "op-1", 1⟩, false),
        (⟨"diagnostic", "failed", "invalid", 0⟩, true)] ∧ last.2.recorder.errors = 1))
    (by decide +kernel) with ⟨last, run, tested⟩
  exact ⟨last, (recorded_of_run sampleSetting last.1 last.2 run).1, of_decide_eq_true tested⟩

end Telemetry
end Agent
end DjangoOps
