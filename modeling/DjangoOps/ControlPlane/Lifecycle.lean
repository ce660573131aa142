import DjangoOps.Foundation.Mutex
import DjangoOps.ControlPlane.Retry

namespace DjangoOps
namespace ControlPlane

open Protocol Gateway Mutex

/-!
# The statements of the release service

Calls of `start_release` and `cancel_release` run concurrently on any number of
targets.  A step is one database statement; the lock that `select_for_update`
takes on the target row keeps two transactions of `start_release` on one target
apart, and nothing else.  The results of the backend are arbitrary.

A statement is seen by the other calls at once.  So a transaction that has not
committed hides nothing here, which only adds interleavings.
-/

/-- `_TERMINAL` -/
def ReleaseStatus.terminal : ReleaseStatus -> Bool
  | .succeeded => true
  | .failed => true
  | .cancelled => true
  | .rolledBack => true
  | .rollbackBlocked => true
  | _ => false

theorem ReleaseStatus.terminal_eq (status : ReleaseStatus) :
    status.terminal = !status.active := by
  cases status <;> rfl

namespace Lifecycle

/-- The targets by their primary keys, and the digest. -/
structure Setting where
  targets : Nat -> KubernetesTarget
  sha256 : String -> String

def Setting.service (setting : Setting) (target : Nat) : ServiceConfig :=
  ⟨setting.targets target, setting.sha256⟩

/-- Where a `start_release` stands in its transaction, by what it has read. -/
inductive Stage
  | locked
  | found (existing : KubernetesRelease)
  | reopened (operationId : String)
  | absent
  | creating (previous : Option KubernetesRelease)
  | committing (release : KubernetesRelease) (dispatch : Bool)
  deriving DecidableEq

/-- Where a call stands.  `cancelling` waits for the backend of `cancel_release`,
and `reloading` is before the last `refresh_from_db` of either call. -/
inductive Phase
  | idle
  | starting (target : Nat) (intent : Intent) (stage : Stage)
  | dispatching (target : Nat) (release : KubernetesRelease) (request : KubernetesReleaseRequest)
  | cancelling (target : Nat) (operationId : String)
  | reloading (target : Nat) (operationId : String)
  | returned (release : KubernetesRelease)
  | raised (error : PyException)
  deriving DecidableEq

/-- The target whose row a call has locked. -/
def Phase.holds : Phase -> Option Nat
  | .starting target _ _ => some target
  | _ => none

/-- The rows of every target, the operation ids that have been drawn, the calls that hold
the lock of a target, how far every call has come, and the requests sent for each
target. -/
structure State where
  releases : Nat -> List KubernetesRelease
  operationIds : List String
  locks : Nat -> Option Nat
  calls : Nat -> Phase
  requests : Nat -> List KubernetesReleaseRequest

def State.initial : State :=
  { releases := fun _ => [], operationIds := [], locks := fun _ => none
    calls := fun _ => .idle, requests := fun _ => [] }

namespace State

/-- `locked_target.releases`, with the queries and updates of the service. -/
def table (state : State) (target : Nat) : Service.State :=
  { Service.State.initial with releases := state.releases target }

/-- The row that `refresh_from_db` reads. -/
def row? (state : State) (target : Nat) (operationId : String) : Option KubernetesRelease :=
  (state.releases target).find? fun release => decide (release.operationId = operationId)

def enter (state : State) (call : Nat) (phase : Phase) : State :=
  { state with calls := Function.update state.calls call phase }

def write (state : State) (target : Nat) (table : Service.State) : State :=
  { state with releases := Function.update state.releases target table.releases }

/-- `select_for_update().get(pk=target.pk)` -/
def lockTarget (state : State) (call target : Nat) (intent : Intent) : Option State :=
  if state.calls call = .idle ∧ state.locks target = none then
    some ({ state with locks := Function.update state.locks target (some call) }.enter call
      (.starting target intent .locked))
  else none

/-- The query for `existing`, and the branch on it. -/
def selectExisting (setting : Setting) (state : State) (call : Nat) : Option State :=
  match state.calls call with
  | .starting target intent .locked =>
      match (state.table target).existing (setting.service target) intent with
      | some existing =>
          if existing.status.active then
            some (state.enter call (.starting target intent (.committing existing false)))
          else some (state.enter call (.starting target intent (.found existing)))
      | none => some (state.enter call (.starting target intent .absent))
  | _ => none

/-- `filter(pk=existing.pk).update(status="validating", error_code="")` -/
def reopen (state : State) (call : Nat) : Option State :=
  match state.calls call with
  | .starting target intent (.found existing) =>
      some ((state.write target ((state.table target).reopen existing.operationId)).enter call
        (.starting target intent (.reopened existing.operationId)))
  | _ => none

/-- `release.refresh_from_db()` in the transaction. -/
def refresh (state : State) (call : Nat) : Option State :=
  match state.calls call with
  | .starting target intent (.reopened operationId) =>
      (state.row? target operationId).map fun release =>
        state.enter call (.starting target intent (.committing release true))
  | _ => none

/-- The query for `previous`. -/
def selectPrevious (state : State) (call : Nat) : Option State :=
  match state.calls call with
  | .starting target intent .absent =>
      some (state.enter call (.starting target intent (.creating (state.table target).previous)))
  | _ => none

/-- `KubernetesRelease.objects.create(...)`, with the operation id that is
drawn.  A collision of ids violates the unique index. -/
def create (setting : Setting) (state : State) (call : Nat) (operationId : String) :
    Option State :=
  match state.calls call with
  | .starting target intent (.creating previous) =>
      if state.operationIds.contains operationId then none
      else
        let release := KubernetesRelease.create (setting.service target) intent operationId previous
        let releases := Function.update state.releases target (release :: state.releases target)
        some ({ state with
          releases := releases, operationIds := operationId :: state.operationIds }.enter call
            (.starting target intent (.committing release true)))
  | _ => none

/-- The end of the transaction, which gives up the lock, and what follows. -/
def commit (setting : Setting) (state : State) (call : Nat) : Option State :=
  match state.calls call with
  | .starting target intent (.committing release dispatch) =>
      let unlocked := { state with locks := Function.update state.locks target none }
      if dispatch then
        let request := releaseRequest (setting.service target) intent release
        let requests := Function.update state.requests target (request :: state.requests target)
        some ({ unlocked with requests := requests }.enter call
          (.dispatching target release request))
      else some (unlocked.enter call (.returned release))
  | _ => none

/-- `start_release` behind `self.backend.start(...)`.  The `or` of the update
passes over a zero. -/
def record (state : State) (call : Nat) (outcome : Except PyException ReleaseResult) :
    Option State :=
  match state.calls call with
  | .dispatching target release _ =>
      match outcome with
      | .ok result =>
          some ((state.write target ((state.table target).updateActive release.operationId
            fun current => release.applyResult current
              { result with previousRevision := result.previousRevision.bind nonzero })).enter call
                (.reloading target release.operationId))
      | .error (.runtimeError _) =>
          some ((state.write target ((state.table target).updateActive release.operationId
            KubernetesRelease.applyUnavailable)).enter call
              (.reloading target release.operationId))
      | .error error => some (state.enter call (.raised error))
  | _ => none

/-- `cancel_release` up to `self.backend.cancel(...)`, called with an object of
the row. -/
def cancelRelease (state : State) (call target : Nat) (release : KubernetesRelease) :
    Option State :=
  if state.calls call = .idle then
    (state.row? target release.operationId).map fun row =>
      if row.status.terminal then
        state.enter call (.returned { release with status := row.status, errorCode := row.errorCode })
      else state.enter call (.cancelling target release.operationId)
  else none

/-- `cancel_release` behind `self.backend.cancel(...)`. -/
def concludeCancel (state : State) (call : Nat) (answer : Except PyException Bool) :
    Option State :=
  match state.calls call with
  | .cancelling target operationId =>
      match answer with
      | .ok accepted =>
          some ((state.write target ((state.table target).updateActive operationId
            (KubernetesRelease.applyCancel accepted))).enter call (.reloading target operationId))
      | .error error => some (state.enter call (.raised error))
  | _ => none

/-- The last `release.refresh_from_db()`. -/
def reload (state : State) (call : Nat) : Option State :=
  match state.calls call with
  | .reloading target operationId =>
      (state.row? target operationId).map fun release => state.enter call (.returned release)
  | _ => none

end State

/-- The statements of `start_release` and `cancel_release`, one action each, so that
those of different calls interleave. -/
inductive Action
  | lockTarget (call target : Nat) (intent : Intent)
  | selectExisting (call : Nat)
  | reopen (call : Nat)
  | refresh (call : Nat)
  | selectPrevious (call : Nat)
  | create (call : Nat) (operationId : String)
  | commit (call : Nat)
  | record (call : Nat) (outcome : Except PyException ReleaseResult)
  | cancelRelease (call target : Nat) (release : KubernetesRelease)
  | concludeCancel (call : Nat) (answer : Except PyException Bool)
  | reload (call : Nat)

/-- One statement of one call, where the call has come to it. -/
def step (setting : Setting) (state : State) : Action -> Option State
  | .lockTarget call target intent => state.lockTarget call target intent
  | .selectExisting call => state.selectExisting setting call
  | .reopen call => state.reopen call
  | .refresh call => state.refresh call
  | .selectPrevious call => state.selectPrevious call
  | .create call operationId => state.create setting call operationId
  | .commit call => state.commit setting call
  | .record call outcome => state.record call outcome
  | .cancelRelease call target release => state.cancelRelease call target release
  | .concludeCancel call answer => state.concludeCancel call answer
  | .reload call => state.reload call

/-- The service without releases. -/
def machine (setting : Setting) : Transition.Machine State Action where
  initial := fun state => state = .initial
  step := step setting

namespace State

variable (state : State)

theorem calls_enter_self (call : Nat) (phase : Phase) :
    (state.enter call phase).calls call = phase := Function.update_self _ _ _

theorem calls_enter_ne {call other : Nat} (different : other ≠ call) (phase : Phase) :
    (state.enter call phase).calls other = state.calls other :=
  Function.update_of_ne different _ _

end State

/-! ## What one statement can change -/

/-- The statements with what they do, and what they need. -/
inductive Move (setting : Setting) (before : State) : Action -> State -> Prop
  | locked (call target : Nat) (intent : Intent) (idle : before.calls call = .idle)
      (free : before.locks target = none) :
      Move setting before (.lockTarget call target intent)
        ({ before with locks := Function.update before.locks target (some call) }.enter call
          (.starting target intent .locked))
  | answered (call target : Nat) (intent : Intent) (existing : KubernetesRelease)
      (phase : before.calls call = .starting target intent .locked)
      (selected : (before.table target).existing (setting.service target) intent = some existing)
      (active : existing.status.active = true) :
      Move setting before (.selectExisting call)
        (before.enter call (.starting target intent (.committing existing false)))
  | found (call target : Nat) (intent : Intent) (existing : KubernetesRelease)
      (phase : before.calls call = .starting target intent .locked)
      (selected : (before.table target).existing (setting.service target) intent = some existing)
      (settled : existing.status.active = false) :
      Move setting before (.selectExisting call)
        (before.enter call (.starting target intent (.found existing)))
  | missed (call target : Nat) (intent : Intent)
      (phase : before.calls call = .starting target intent .locked)
      (missing : (before.table target).existing (setting.service target) intent = none) :
      Move setting before (.selectExisting call)
        (before.enter call (.starting target intent .absent))
  | reopened (call target : Nat) (intent : Intent) (existing : KubernetesRelease)
      (phase : before.calls call = .starting target intent (.found existing)) :
      Move setting before (.reopen call)
        ((before.write target ((before.table target).reopen existing.operationId)).enter call
          (.starting target intent (.reopened existing.operationId)))
  | refreshed (call target : Nat) (intent : Intent) (operationId : String)
      (release : KubernetesRelease)
      (phase : before.calls call = .starting target intent (.reopened operationId))
      (read : before.row? target operationId = some release) :
      Move setting before (.refresh call)
        (before.enter call (.starting target intent (.committing release true)))
  | searched (call target : Nat) (intent : Intent)
      (phase : before.calls call = .starting target intent .absent) :
      Move setting before (.selectPrevious call)
        (before.enter call (.starting target intent (.creating (before.table target).previous)))
  | created (call target : Nat) (intent : Intent) (previous : Option KubernetesRelease)
      (fresh : String) (phase : before.calls call = .starting target intent (.creating previous))
      (unused : fresh ∉ before.operationIds) :
      Move setting before (.create call fresh)
        ({ before with
          releases := Function.update before.releases target
            (.create (setting.service target) intent fresh previous :: before.releases target)
          operationIds := fresh :: before.operationIds }.enter call
            (.starting target intent
              (.committing (.create (setting.service target) intent fresh previous) true)))
  | dispatched (call target : Nat) (intent : Intent) (release : KubernetesRelease)
      (phase : before.calls call = .starting target intent (.committing release true)) :
      Move setting before (.commit call)
        ({ before with
          locks := Function.update before.locks target none
          requests := Function.update before.requests target
            (releaseRequest (setting.service target) intent release ::
              before.requests target) }.enter call
            (.dispatching target release (releaseRequest (setting.service target) intent release)))
  | kept (call target : Nat) (intent : Intent) (release : KubernetesRelease)
      (phase : before.calls call = .starting target intent (.committing release false)) :
      Move setting before (.commit call)
        ({ before with locks := Function.update before.locks target none }.enter call
          (.returned release))
  | recorded (call target : Nat) (release : KubernetesRelease) (request : KubernetesReleaseRequest)
      (result : ReleaseResult) (phase : before.calls call = .dispatching target release request) :
      Move setting before (.record call (.ok result))
        ((before.write target ((before.table target).updateActive release.operationId
          fun current => release.applyResult current
            { result with previousRevision := result.previousRevision.bind nonzero })).enter call
              (.reloading target release.operationId))
  | unavailable (call target : Nat) (release : KubernetesRelease)
      (request : KubernetesReleaseRequest) (message : String)
      (phase : before.calls call = .dispatching target release request) :
      Move setting before (.record call (.error (.runtimeError message)))
        ((before.write target ((before.table target).updateActive release.operationId
          KubernetesRelease.applyUnavailable)).enter call (.reloading target release.operationId))
  | escaped (call target : Nat) (release : KubernetesRelease) (request : KubernetesReleaseRequest)
      (error : PyException) (phase : before.calls call = .dispatching target release request) :
      Move setting before (.record call (.error error)) (before.enter call (.raised error))
  | settled (call target : Nat) (release row : KubernetesRelease)
      (idle : before.calls call = .idle)
      (read : before.row? target release.operationId = some row)
      (terminal : row.status.terminal = true) :
      Move setting before (.cancelRelease call target release)
        (before.enter call
          (.returned { release with status := row.status, errorCode := row.errorCode }))
  | cancelling (call target : Nat) (release row : KubernetesRelease)
      (idle : before.calls call = .idle)
      (read : before.row? target release.operationId = some row)
      (running : row.status.terminal = false) :
      Move setting before (.cancelRelease call target release)
        (before.enter call (.cancelling target release.operationId))
  | cancelled (call target : Nat) (operationId : String) (accepted : Bool)
      (phase : before.calls call = .cancelling target operationId) :
      Move setting before (.concludeCancel call (.ok accepted))
        ((before.write target ((before.table target).updateActive operationId
          (KubernetesRelease.applyCancel accepted))).enter call (.reloading target operationId))
  | abandoned (call target : Nat) (operationId : String) (error : PyException)
      (phase : before.calls call = .cancelling target operationId) :
      Move setting before (.concludeCancel call (.error error))
        (before.enter call (.raised error))
  | reloaded (call target : Nat) (operationId : String) (release : KubernetesRelease)
      (phase : before.calls call = .reloading target operationId)
      (read : before.row? target operationId = some release) :
      Move setting before (.reload call) (before.enter call (.returned release))

section Moves

variable {setting : Setting} {before after : State}

theorem move_selectExisting {call : Nat}
    (stepped : before.selectExisting setting call = some after) :
    Move setting before (.selectExisting call) after := by
  unfold State.selectExisting at stepped
  split at stepped
  · rename_i target intent phase
    cases selected : (before.table target).existing (setting.service target) intent with
    | some existing =>
        simp only [selected] at stepped
        split at stepped
        · rename_i active
          cases stepped
          exact .answered call target intent existing phase selected active
        · rename_i settled
          cases stepped
          exact .found call target intent existing phase selected
            (Bool.eq_false_of_not_eq_true settled)
    | none =>
        simp only [selected] at stepped
        cases stepped
        exact .missed call target intent phase selected
  · cases stepped

theorem move_create {call : Nat} {fresh : String}
    (stepped : before.create setting call fresh = some after) :
    Move setting before (.create call fresh) after := by
  unfold State.create at stepped
  split at stepped
  · rename_i target intent previous phase
    split at stepped
    · cases stepped
    · rename_i unused
      cases stepped
      exact .created call target intent previous fresh phase fun member =>
        unused (List.contains_iff_mem.mpr member)
  · cases stepped

theorem move_commit {call : Nat} (stepped : before.commit setting call = some after) :
    Move setting before (.commit call) after := by
  unfold State.commit at stepped
  split at stepped
  · rename_i target intent release dispatch phase
    cases dispatch with
    | true =>
        cases stepped
        exact .dispatched call target intent release phase
    | false =>
        cases stepped
        exact .kept call target intent release phase
  · cases stepped

theorem move_record {call : Nat} {outcome : Except PyException ReleaseResult}
    (stepped : before.record call outcome = some after) :
    Move setting before (.record call outcome) after := by
  unfold State.record at stepped
  split at stepped
  · rename_i target release request phase
    split at stepped
    · cases stepped
      exact .recorded call target release request _ phase
    · cases stepped
      exact .unavailable call target release request _ phase
    · cases stepped
      exact .escaped call target release request _ phase
  · cases stepped

theorem move_cancelRelease {call target : Nat} {release : KubernetesRelease}
    (stepped : before.cancelRelease call target release = some after) :
    Move setting before (.cancelRelease call target release) after := by
  unfold State.cancelRelease at stepped
  split at stepped
  · rename_i idle
    rcases Option.map_eq_some_iff.mp stepped with ⟨row, read, same⟩
    split at same
    · rename_i terminal
      cases same
      exact .settled call target release row idle read terminal
    · rename_i running
      cases same
      exact .cancelling call target release row idle read (Bool.eq_false_of_not_eq_true running)
  · cases stepped

theorem move_concludeCancel {call : Nat} {answer : Except PyException Bool}
    (stepped : before.concludeCancel call answer = some after) :
    Move setting before (.concludeCancel call answer) after := by
  unfold State.concludeCancel at stepped
  split at stepped
  · rename_i target operationId phase
    cases answer with
    | ok accepted =>
        cases stepped
        exact .cancelled call target operationId accepted phase
    | error error =>
        cases stepped
        exact .abandoned call target operationId error phase
  · cases stepped

theorem step_move {action : Action} (stepped : step setting before action = some after) :
    Move setting before action after := by
  cases action with
  | lockTarget call target intent =>
      simp only [step, State.lockTarget] at stepped
      split at stepped
      · rename_i enabled
        cases stepped
        exact .locked call target intent enabled.1 enabled.2
      · cases stepped
  | selectExisting call => exact move_selectExisting stepped
  | reopen call =>
      simp only [step, State.reopen] at stepped
      split at stepped
      · rename_i target intent existing phase
        cases stepped
        exact .reopened call target intent existing phase
      · cases stepped
  | refresh call =>
      simp only [step, State.refresh] at stepped
      split at stepped
      · rename_i target intent operationId phase
        rcases Option.map_eq_some_iff.mp stepped with ⟨release, read, rfl⟩
        exact .refreshed call target intent operationId release phase read
      · cases stepped
  | selectPrevious call =>
      simp only [step, State.selectPrevious] at stepped
      split at stepped
      · rename_i target intent phase
        cases stepped
        exact .searched call target intent phase
      · cases stepped
  | create call fresh => exact move_create stepped
  | commit call => exact move_commit stepped
  | record call outcome => exact move_record stepped
  | cancelRelease call target release => exact move_cancelRelease stepped
  | concludeCancel call answer => exact move_concludeCancel stepped
  | reload call =>
      simp only [step, State.reload] at stepped
      split at stepped
      · rename_i target operationId phase
        rcases Option.map_eq_some_iff.mp stepped with ⟨release, read, rfl⟩
        exact .reloaded call target operationId release phase read
      · cases stepped

end Moves

end Lifecycle
end ControlPlane
end DjangoOps
