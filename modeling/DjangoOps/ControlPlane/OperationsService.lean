import DjangoOps.Foundation.Transition
import DjangoOps.ControlPlane.Operations

namespace DjangoOps
namespace ControlPlane

open Protocol Gateway

/-!
# Writers of one diagnostic operation

`OperationsService.start` creates the row and may settle it from its own copy;
`OperationsService.cancel` and the four writes of `_consume` are conditional
updates.  They belong to web threads and to the event loop of the gateway, so
any statement of one may run between two statements of another.
-/

namespace OperationsService

/-- `str.lower`, one character at a time.  Only its values on the ASCII range
are fixed. -/
structure Lowercase where
  lower : Char -> List Char
  ascii : forall char, char.toNat < 128 -> lower char = [char.toLower]

def Lowercase.lowerText (casing : Lowercase) (text : String) : List Char :=
  text.toList.flatMap casing.lower

/-- The letter cases that the service uses. -/
structure Letters where
  upper : Casing
  lower : Lowercase

/-- How `backend.start` ends: the task `_consume` is scheduled, a
`RuntimeError`, or another exception, which leaves `start`. -/
inductive StartOutcome
  | scheduled
  | runtimeError (message : String)
  | raised
  deriving DecidableEq

/-- The status and the error code for a `RuntimeError` of `backend.start`. -/
def startVerdict (lower : Lowercase) (message : String) : OperationStatus × String :=
  if "capacity".toList <:+: lower.lowerText message then (.overloaded, "OVERLOADED")
  else (.failed, "GATEWAY_UNAVAILABLE")

/-- Where `OperationsService.start` stands.  `saving` has put its verdict into
its copy of the row, and is about to save the copy. -/
inductive StartPhase
  | idle
  | created
  | connected
  | saving (status : OperationStatus) (errorCode : String)
  | returned
  deriving DecidableEq

/-- How `backend.cancel` ends. -/
inductive CancelOutcome
  | accepted
  | refused
  | timeoutError
  | runtimeError
  | raised
  deriving DecidableEq

/-- The status and the error code that `OperationsService.cancel` writes; an
exception that it does not catch leaves it without a write. -/
def CancelOutcome.verdict : CancelOutcome -> Option (OperationStatus × String)
  | .accepted => some (.cancelled, "")
  | .refused => some (.disconnected, "CANCEL_UNAVAILABLE")
  | .timeoutError => some (.failed, "CANCEL_TIMEOUT")
  | .runtimeError => some (.failed, "CANCEL_FAILED")
  | .raised => none

/-- Where a call of `OperationsService.cancel` stands. -/
inductive CancelPhase
  | idle
  | refreshed
  | updating (status : OperationStatus) (errorCode : String)
  | returned
  deriving DecidableEq

/-- The row, the call of `start` that creates it, whether `_consume` was
scheduled for it, and all calls of `cancel`. -/
structure State where
  row : Option DiagnosticOperation
  start : StartPhase
  scheduled : Bool
  cancels : Nat -> CancelPhase

def State.initial : State :=
  { row := none, start := .idle, scheduled := false, cancels := fun _ => .idle }

namespace State

def setCancel (state : State) (request : Nat) (phase : CancelPhase) : State :=
  { state with cancels := Function.update state.cancels request phase }

/-- `DiagnosticOperation.objects.create(...)`. -/
def create (state : State) : Option State :=
  if state.start = .idle then
    some { state with row := some ⟨.pending, .empty, ""⟩, start := .created }
  else none

/-- `self.backend.connected(agent.agent_id)`. -/
def askConnected (state : State) (connected : Bool) : Option State :=
  if state.start = .created then
    some { state with
      start := if connected then .connected else .saving .offline "AGENT_OFFLINE" }
  else none

/-- `self.backend.start(operation)`. -/
def backendStart (lower : Lowercase) (state : State) (outcome : StartOutcome) : Option State :=
  if state.start = .connected then
    match outcome with
    | .scheduled => some { state with start := .returned, scheduled := true }
    | .runtimeError message =>
        let verdict := startVerdict lower message
        some { state with start := .saving verdict.1 verdict.2 }
    | .raised => some { state with start := .returned }
  else none

/-- `operation.save(update_fields=("status", "error_code", "updated_at"))`,
which writes whatever the row has become. -/
def save (state : State) : Option State :=
  match state.start with
  | .saving status errorCode =>
      some { state with
        row := state.row.map fun row => { row with status := status, errorCode := errorCode }
        start := .returned }
  | _ => none

theorem save_of_saving {state : State} {status : OperationStatus} {errorCode : String}
    (saving : state.start = .saving status errorCode) :
    state.save = some { state with
      row := state.row.map fun row => { row with status := status, errorCode := errorCode }
      start := .returned } := by
  unfold save
  rw [saving]

/-- `operation.refresh_from_db(...)` of `cancel`, and its test. -/
def refresh (state : State) (request : Nat) : Option State :=
  match state.row with
  | none => none
  | some row =>
      if state.cancels request = .idle then
        some (state.setCancel request (if row.status.active then .refreshed else .returned))
      else none

/-- `self.backend.cancel(operation)`. -/
def backendCancel (state : State) (request : Nat) (outcome : CancelOutcome) : Option State :=
  if state.cancels request = .refreshed then
    match outcome.verdict with
    | some verdict => some (state.setCancel request (.updating verdict.1 verdict.2))
    | none => some (state.setCancel request .returned)
  else none

/-- The conditional update at the end of `cancel`. -/
def updateCancelled (state : State) (request : Nat) : Option State :=
  match state.cancels request with
  | .updating status errorCode =>
      some ({ state with
        row := state.row.map fun row : DiagnosticOperation =>
          row.saveError status errorCode }.setCancel request .returned)
  | _ => none

/-- A write of the task `_consume`, once it has been scheduled. -/
def consumerWrite (state : State) (write : DiagnosticOperation -> DiagnosticOperation) :
    Option State :=
  if state.scheduled then some { state with row := state.row.map write } else none

end State

/-- The database statements and backend calls of all writers. -/
inductive Action
  | create
  | askConnected (connected : Bool)
  | backendStart (outcome : StartOutcome)
  | save
  | refresh (request : Nat)
  | backendCancel (request : Nat) (outcome : CancelOutcome)
  | updateCancelled (request : Nat)
  | setRunning
  | saveProgress (phase message : String)
  | saveResult (status : String) (checks : List DiagnosticCheck)
  | saveError (status : OperationStatus) (code : String)
  deriving DecidableEq

def step (letters : Letters) (state : State) : Action -> Option State
  | .create => state.create
  | .askConnected connected => state.askConnected connected
  | .backendStart outcome => state.backendStart letters.lower outcome
  | .save => state.save
  | .refresh request => state.refresh request
  | .backendCancel request outcome => state.backendCancel request outcome
  | .updateCancelled request => state.updateCancelled request
  | .setRunning => state.consumerWrite (·.setRunning)
  | .saveProgress phase message => state.consumerWrite (·.saveProgress phase message)
  | .saveResult status checks => state.consumerWrite (·.saveResult letters.upper status checks)
  | .saveError status code => state.consumerWrite (·.saveError status code)

/-- The writers of one row, which does not exist at first. -/
def machine (letters : Letters) : Transition.Machine State Action where
  initial := fun state => state = .initial
  step := step letters

/-! ## Settled rows -/

/-- The row has a terminal status. -/
def State.settled (state : State) : Bool :=
  match state.row with
  | some row => !row.status.active
  | none => false

/-- When `start` saves its verdict, the row is still active, or it already
shows this verdict. -/
def KeepsVerdict (state : State) (action : Action) : Prop :=
  match action, state.start, state.row with
  | .save, .saving status errorCode, some row =>
      row.status.active = true ∨ (row.status = status ∧ row.errorCode = errorCode)
  | _, _, _ => True

instance (state : State) (action : Action) : Decidable (KeepsVerdict state action) := by
  unfold KeepsVerdict
  split <;> infer_instance

section Settled

variable {letters : Letters} {before after : State} {action : Action} {row : DiagnosticOperation}

theorem setRunning_of_settled (settled : row.status.active = false) : row.setRunning = row := by
  unfold DiagnosticOperation.setRunning
  refine if_neg fun pending => ?_
  rw [pending] at settled
  cases settled

/-- No write of `_consume` changes a settled row. -/
theorem consumerWrite_of_settled {write : DiagnosticOperation -> DiagnosticOperation}
    (present : before.row = some row) (stepped : before.consumerWrite write = some after)
    (kept : write row = row) : after.row = some row := by
  unfold State.consumerWrite at stepped
  split at stepped <;> cases stepped
  change before.row.map write = some row
  rw [present, Option.map_some, kept]

/-- A settled row is kept by every statement but the `save` of `start`. -/
theorem row_of_other_step (present : before.row = some row) (settled : row.status.active = false)
    (other : action ≠ .save) (started : before.start ≠ .idle)
    (stepped : step letters before action = some after) : after.row = some row := by
  cases action <;> simp only [step] at stepped
  case create =>
    unfold State.create at stepped
    rw [if_neg started] at stepped
    cases stepped
  case askConnected =>
    unfold State.askConnected at stepped
    split at stepped <;> cases stepped
    exact present
  case backendStart outcome =>
    unfold State.backendStart at stepped
    split at stepped
    · cases outcome <;> cases stepped <;> exact present
    · cases stepped
  case save => exact absurd rfl other
  case refresh =>
    unfold State.refresh at stepped
    rw [present] at stepped
    dsimp only at stepped
    split at stepped <;> cases stepped
    exact present
  case backendCancel =>
    unfold State.backendCancel at stepped
    split at stepped
    · split at stepped <;> cases stepped <;> exact present
    · cases stepped
  case updateCancelled =>
    unfold State.updateCancelled at stepped
    split at stepped <;> cases stepped
    change before.row.map _ = some row
    rw [present, Option.map_some]
    exact congrArg some (DiagnosticOperation.updateActive_of_settled settled)
  case setRunning =>
    exact consumerWrite_of_settled present stepped (setRunning_of_settled settled)
  case saveProgress phase message =>
    have kept : row.saveProgress phase message = row :=
      DiagnosticOperation.updateActive_of_settled settled
    exact consumerWrite_of_settled present stepped kept
  case saveResult status checks =>
    have kept : row.saveResult letters.upper status checks = row :=
      DiagnosticOperation.updateActive_of_settled settled
    exact consumerWrite_of_settled present stepped kept
  case saveError status code =>
    have kept : row.saveError status code = row :=
      DiagnosticOperation.updateActive_of_settled settled
    exact consumerWrite_of_settled present stepped kept

/-- The `save` of `start` keeps a settled row exactly when it meets the guard. -/
theorem row_of_save (present : before.row = some row) (settled : row.status.active = false)
    (stepped : step letters before .save = some after) :
    after.row = some row <-> KeepsVerdict before .save := by
  simp only [step] at stepped
  unfold State.save at stepped
  split at stepped
  · rename_i status errorCode saving
    cases stepped
    unfold KeepsVerdict
    rw [saving, present]
    simp only [Option.map_some, settled, Bool.false_eq_true, false_or, Option.some.injEq]
    constructor
    · intro same
      exact ⟨congrArg DiagnosticOperation.status same.symm,
        congrArg DiagnosticOperation.errorCode same.symm⟩
    · rintro ⟨status, code⟩
      rw [← status, ← code]
  · cases stepped

/-- No step makes `start` begin again. -/
theorem started_of_step (started : before.start ≠ .idle)
    (stepped : step letters before action = some after) : after.start ≠ .idle := by
  cases action <;> simp only [step] at stepped
  case create =>
    unfold State.create at stepped
    rw [if_neg started] at stepped
    cases stepped
  case askConnected connected =>
    unfold State.askConnected at stepped
    split at stepped <;> cases stepped
    dsimp only
    split <;> exact nofun
  case backendStart outcome =>
    unfold State.backendStart at stepped
    split at stepped
    · cases outcome <;> cases stepped <;> exact nofun
    · cases stepped
  case save =>
    unfold State.save at stepped
    split at stepped <;> cases stepped
    exact nofun
  case refresh =>
    unfold State.refresh at stepped
    split at stepped
    · cases stepped
    · split at stepped <;> cases stepped
      exact started
  case backendCancel =>
    unfold State.backendCancel at stepped
    split at stepped
    · split at stepped <;> cases stepped <;> exact started
    · cases stepped
  case updateCancelled =>
    unfold State.updateCancelled at stepped
    split at stepped <;> cases stepped
    exact started
  all_goals
    unfold State.consumerWrite at stepped
    split at stepped <;> cases stepped
    exact started

/-- The row exists only after `start` has begun. -/
def State.Started (state : State) : Prop := state.row ≠ none -> state.start ≠ .idle

theorem State.Started.step (earlier : before.Started)
    (stepped : OperationsService.step letters before action = some after) : after.Started := by
  intro present
  by_cases started : before.start = .idle
  · have absent : before.row = none := by
      by_contra occupied
      exact earlier occupied started
    cases action <;> simp only [OperationsService.step] at stepped
    case create =>
      unfold State.create at stepped
      rw [if_pos started] at stepped
      cases stepped
      exact nofun
    case askConnected =>
      unfold State.askConnected at stepped
      rw [started] at stepped
      cases stepped
    case backendStart =>
      unfold State.backendStart at stepped
      rw [started] at stepped
      cases stepped
    case save =>
      unfold State.save at stepped
      rw [started] at stepped
      cases stepped
    case refresh =>
      unfold State.refresh at stepped
      rw [absent] at stepped
      cases stepped
    case backendCancel =>
      unfold State.backendCancel at stepped
      split at stepped
      · split at stepped <;> cases stepped <;> exact absurd absent present
      · cases stepped
    case updateCancelled =>
      unfold State.updateCancelled at stepped
      split at stepped <;> cases stepped
      exact absurd (by rw [absent]; rfl) present
    all_goals
      unfold State.consumerWrite at stepped
      split at stepped <;> cases stepped
      exact absurd (by rw [absent]; rfl) present
  · exact started_of_step started stepped

end Settled

/-- In every run in which `start` saves its own verdict over an active row
only, or over a row that already shows it, a row that has a terminal status
keeps its status, its error code and its result summary for ever. -/
theorem terminal_absorbing (letters : Letters) {before after : State}
    {row : DiagnosticOperation} (reached : (machine letters).ReachableUnder KeepsVerdict before)
    (path : Relation.ReflTransGen ((machine letters).StepUnder KeepsVerdict) before after)
    (present : before.row = some row) (settled : row.status.active = false) :
    after.row = some row := by
  have begun : before.Started := by
    refine reached.invariant ?_ ?_
    · rintro state ⟨⟩
      exact fun shown => absurd rfl shown
    · exact fun _ _ _ _ earlier _ stepped => earlier.step stepped
  have started : before.start ≠ .idle := begun (by rw [present]; exact nofun)
  have kept : after.row = some row ∧ after.start ≠ .idle := by
    induction path with
    | refl => exact ⟨present, started⟩
    | tail _ last inductionHypothesis =>
        rcases last with ⟨action, allowed, stepped⟩
        rcases inductionHypothesis with ⟨same, running⟩
        refine ⟨?_, started_of_step running stepped⟩
        by_cases isSave : action = .save
        · subst isSave
          have saved : step letters _ .save = some _ := stepped
          exact (row_of_save same settled saved).mpr allowed
        · exact row_of_other_step same settled isSave running stepped
  exact kept.1

/-! ## A cancellation beside a late result, and beside a late verdict -/

def Letters.simple : Letters where
  upper := .simple
  lower := ⟨fun char => [char.toLower], fun _ _ => rfl⟩

/-- An operation that was cancelled while it ran ignores a late success. -/
theorem terminal_absorbing_cancelled :
    Exists fun before : State => Exists fun after : State =>
      step .simple before (.saveResult "succeeded" []) = some after ∧
        after.row = some ⟨.cancelled, .empty, ""⟩ := by
  rcases (machine .simple).exists_reachableUnder_of_replay KeepsVerdict
    [.create, .askConnected true, .backendStart .scheduled, .setRunning, .refresh 0,
      .backendCancel 0 .accepted, .updateCancelled 0]
    .initial rfl
    (fun state => state.row = some ⟨.cancelled, .empty, ""⟩ ∧ state.scheduled = true)
    (by decide +kernel) with ⟨before, reached, tested⟩
  rcases of_decide_eq_true tested with ⟨present, scheduled⟩
  refine ⟨before, _, if_pos scheduled, ?_⟩
  exact terminal_absorbing .simple reached
    (.single ⟨.saveResult "succeeded" [], trivial, if_pos scheduled⟩) present rfl

/-- The agent is offline.  Before `start` saves this, another request cancels
the new operation, which the gateway does not know; then the saved copy of the
row overwrites the terminal status. -/
theorem verdict_overwrites :
    Exists fun before : State => Exists fun after : State =>
      (machine .simple).Reachable before ∧
        before.row = some ⟨.disconnected, .empty, "CANCEL_UNAVAILABLE"⟩ ∧
        step .simple before .save = some after ∧
        after.row = some ⟨.offline, .empty, "AGENT_OFFLINE"⟩ := by
  rcases (machine .simple).exists_reachableUnder_of_replay (fun _ _ => True)
    [.create, .askConnected false, .refresh 0, .backendCancel 0 .refused, .updateCancelled 0]
    .initial rfl
    (fun state => state.row = some ⟨.disconnected, .empty, "CANCEL_UNAVAILABLE"⟩ ∧
      state.start = .saving .offline "AGENT_OFFLINE")
    (by decide +kernel) with ⟨before, reached, tested⟩
  rcases of_decide_eq_true tested with ⟨present, saving⟩
  refine ⟨before, _, reached, present, State.save_of_saving saving, ?_⟩
  rw [present, Option.map_some]

end OperationsService
end ControlPlane
end DjangoOps
