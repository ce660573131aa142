import DjangoOps.ControlPlane.Release

namespace DjangoOps
namespace ControlPlane

open Protocol Gateway

/-!
# The release service of one target

Calls of `start_release` and `cancel_release` on one target run concurrently.
Every database statement is atomic, and the lock of the target row makes the
transaction of `start_release` one step.  The rows are listed newest first,
which is the order of every query.

The map `answers` is not part of the program.  It remembers of every operation
how its dispatches since its last opening ended.
-/

/-- Where a `start_release` call stands.  `dispatching` is outside its
transaction and waits for the backend. -/
inductive CallPhase
  | idle
  | dispatching (release : KubernetesRelease) (request : KubernetesReleaseRequest)
  | returned (operationId : String)
  | raised (operationId : String) (error : PyException)
  deriving DecidableEq

/-- `missing`: a dispatch ended without a result of the agent, and none has been
recorded.  `given`: a result of the agent has been recorded. -/
inductive Answer
  | waiting
  | missing
  | given
  deriving DecidableEq

namespace Service

/-- The rows of one target, how far every call has come, and for every operation id
whether a result of the agent is missing or has been recorded. -/
structure State where
  releases : List KubernetesRelease
  calls : Nat -> CallPhase
  answers : String -> Answer

def State.initial : State :=
  { releases := [], calls := fun _ => .idle, answers := fun _ => .waiting }

/-- The operation of a dispatch that has not ended. -/
def outstanding? : CallPhase -> Option String
  | .dispatching release _ => some release.operationId
  | _ => none

/-- The operation that a call has been answered with. -/
def operation? : CallPhase -> Option String
  | .idle => none
  | .dispatching release _ => some release.operationId
  | .returned operationId => some operationId
  | .raised operationId _ => some operationId

namespace State

def setCall (state : State) (call : Nat) (phase : CallPhase) : State :=
  { state with calls := Function.update state.calls call phase }

def setAnswer (state : State) (operationId : String) (answer : Answer) : State :=
  { state with answers := Function.update state.answers operationId answer }

/-- `filter(pk=release.pk, status__in=_ACTIVE).update(...)`. -/
def updateActive (state : State) (operationId : String)
    (change : KubernetesRelease -> KubernetesRelease) : State :=
  { state with
    releases := state.releases.map fun release =>
      if release.operationId = operationId ∧ release.status.active = true then change release
      else release }

/-- The row of an operation is active. -/
def isActive (state : State) (operationId : String) : Bool :=
  state.releases.any fun release =>
    decide (release.operationId = operationId) && release.status.active

/-- `existing` -/
def existing (config : ServiceConfig) (state : State) (intent : Intent) :
    Option KubernetesRelease :=
  state.releases.find? fun release => release.matchesIntent config intent && release.isOpen

/-- `previous` -/
def previous (state : State) : Option KubernetesRelease :=
  state.releases.find? fun release => decide (release.status = .succeeded)

/-- `filter(pk=existing.pk).update(status="validating", error_code="")`. -/
def reopen (state : State) (operationId : String) : State :=
  { state with
    releases := state.releases.map fun (release : KubernetesRelease) =>
      if release.operationId = operationId then release.reopen else release }

/-- The transaction of `start_release`, with the operation id that it draws.
A collision of ids violates the unique constraint. -/
def start (config : ServiceConfig) (state : State) (call : Nat) (intent : Intent)
    (operationId : String) : Option State :=
  if state.calls call = .idle then
    match state.existing config intent with
    | some release =>
        if release.status.active then some (state.setCall call (.returned release.operationId))
        else
          some (((state.reopen release.operationId).setCall call
            (.dispatching release.reopen (releaseRequest config intent release.reopen))).setAnswer
              release.operationId .waiting)
    | none =>
        if (state.releases.map KubernetesRelease.operationId).contains operationId then none
        else
          let release := KubernetesRelease.create config intent operationId state.previous
          some (({ state with releases := release :: state.releases }.setCall call
            (.dispatching release (releaseRequest config intent release))).setAnswer
              operationId .waiting)
  else none

/-- The memory of how the dispatches of an operation ended. -/
def recordAnswer (config : ServiceConfig) (state : State) (operationId : String) (course : Course) :
    Answer :=
  if course.authored config.target.agentId operationId then
    if state.isActive operationId then .given else state.answers operationId
  else if state.answers operationId = .given then .given
  else .missing

/-- `start_release` behind `self.backend.start(...)`. -/
def finish (config : ServiceConfig) (state : State) (call : Nat) (course : Course) : Option State :=
  match state.calls call with
  | .dispatching release _ =>
      let operationId := release.operationId
      let noted := state.setAnswer operationId (state.recordAnswer config operationId course)
      match runBackend config.target.agentId operationId course with
      | .ok result =>
          some ((noted.updateActive operationId fun current =>
            release.applyResult current result).setCall call (.returned operationId))
      | .error (.runtimeError _) =>
          some ((noted.updateActive operationId
            KubernetesRelease.applyUnavailable).setCall call (.returned operationId))
      | .error error => some (noted.setCall call (.raised operationId error))
  | _ => none

/-- `cancel_release`, whose backend answers `accepted`. -/
def cancelRelease (state : State) (operationId : String) (accepted : Bool) : State :=
  state.updateActive operationId (KubernetesRelease.applyCancel accepted)

end State

/-- A `start_release` that runs up to its dispatch, the end of a dispatch with whatever
the gateway has made of it, and a `cancel_release` with the answer of the gateway. -/
inductive Action
  | start (call : Nat) (intent : Intent) (operationId : String)
  | finish (call : Nat) (course : Course)
  | cancelRelease (operationId : String) (accepted : Bool)

def step (config : ServiceConfig) (state : State) : Action -> Option State
  | .start call intent operationId => state.start config call intent operationId
  | .finish call course => state.finish config call course
  | .cancelRelease operationId accepted => some (state.cancelRelease operationId accepted)

/-- The service of a target without releases. -/
def machine (config : ServiceConfig) : Transition.Machine State Action where
  initial := fun state => state = .initial
  step := step config

namespace State

variable (state : State)

@[simp] theorem calls_setAnswer (operationId : String) (answer : Answer) :
    (state.setAnswer operationId answer).calls = state.calls := rfl

theorem calls_setCall_self (call : Nat) (phase : CallPhase) :
    (state.setCall call phase).calls call = phase := Function.update_self _ _ _

theorem calls_setCall_ne {call other : Nat} (different : other ≠ call) (phase : CallPhase) :
    (state.setCall call phase).calls other = state.calls other :=
  Function.update_of_ne different _ _

theorem answers_setAnswer_self (operationId : String) (answer : Answer) :
    (state.setAnswer operationId answer).answers operationId = answer := Function.update_self _ _ _

theorem answers_setAnswer_ne {operationId other : String} (different : other ≠ operationId)
    (answer : Answer) : (state.setAnswer operationId answer).answers other = state.answers other :=
  Function.update_of_ne different _ _

/-- A conditional update writes the active row of its operation and no other. -/
theorem mem_updateActive {operationId : String}
    {change : KubernetesRelease -> KubernetesRelease} {release : KubernetesRelease} :
    release ∈ (state.updateActive operationId change).releases <->
      Exists fun earlier : KubernetesRelease => earlier ∈ state.releases ∧
        ((earlier.operationId = operationId ∧ earlier.status.active = true ∧
            change earlier = release) ∨
          (¬ (earlier.operationId = operationId ∧ earlier.status.active = true) ∧
            earlier = release)) := by
  unfold updateActive
  rw [List.mem_map]
  constructor
  · rintro ⟨earlier, listed, same⟩
    refine ⟨earlier, listed, ?_⟩
    split at same
    · rename_i own
      exact .inl ⟨own.1, own.2, same⟩
    · rename_i other
      exact .inr ⟨other, same⟩
  · rintro ⟨earlier, listed, ⟨own, active, same⟩ | ⟨other, same⟩⟩
    · exact ⟨earlier, listed, by rw [if_pos ⟨own, active⟩]; exact same⟩
    · exact ⟨earlier, listed, by rw [if_neg other]; exact same⟩

theorem isActive_iff {operationId : String} :
    state.isActive operationId = true <->
      Exists fun release : KubernetesRelease => release ∈ state.releases ∧
        release.operationId = operationId ∧ release.status.active = true := by
  unfold isActive
  rw [List.any_eq_true]
  simp only [Bool.and_eq_true, decide_eq_true_eq]

end State

/-! ## What one step can change -/

/-- What `start_release` compares of a row, and of its own arguments. -/
def identity (release : KubernetesRelease) : String × String × String :=
  (release.image, release.chartVersion, release.valuesDigest)

def intentIdentity (config : ServiceConfig) (intent : Intent) : String × String × String :=
  (intent.image, intent.chartVersion, config.valuesDigest intent.values)

theorem matchesIntent_iff {config : ServiceConfig} {intent : Intent}
    {release : KubernetesRelease} :
    release.matchesIntent config intent = true <->
      identity release = intentIdentity config intent := by
  unfold KubernetesRelease.matchesIntent identity intentIdentity
  rw [decide_eq_true_eq, Prod.mk.injEq, Prod.mk.injEq]

/-- The steps with what they do, and what they need. -/
inductive Move (config : ServiceConfig) (before : State) : Action -> State -> Prop
  | answered (call : Nat) (intent : Intent) (fresh : String) (release : KubernetesRelease)
      (idle : before.calls call = .idle) (found : before.existing config intent = some release)
      (active : release.status.active = true) :
      Move config before (.start call intent fresh)
        (before.setCall call (.returned release.operationId))
  | reopened (call : Nat) (intent : Intent) (fresh : String) (release : KubernetesRelease)
      (idle : before.calls call = .idle) (found : before.existing config intent = some release)
      (settled : release.status.active = false) :
      Move config before (.start call intent fresh)
        (((before.reopen release.operationId).setCall call
          (.dispatching release.reopen (releaseRequest config intent release.reopen))).setAnswer
            release.operationId .waiting)
  | created (call : Nat) (intent : Intent) (fresh : String)
      (idle : before.calls call = .idle) (missing : before.existing config intent = none)
      (unused : fresh ∉ before.releases.map KubernetesRelease.operationId) :
      Move config before (.start call intent fresh)
        (({ before with
            releases := .create config intent fresh before.previous :: before.releases }.setCall call
          (.dispatching (.create config intent fresh before.previous)
            (releaseRequest config intent
              (.create config intent fresh before.previous)))).setAnswer fresh .waiting)
  | recorded (call : Nat) (course : Course) (release : KubernetesRelease)
      (request : KubernetesReleaseRequest) (result : ReleaseResult)
      (dispatching : before.calls call = .dispatching release request)
      (outcome : runBackend config.target.agentId release.operationId course = .ok result) :
      Move config before (.finish call course)
        (((before.setAnswer release.operationId
            (before.recordAnswer config release.operationId course)).updateActive
              release.operationId fun current => release.applyResult current result).setCall call
          (.returned release.operationId))
  | unavailable (call : Nat) (course : Course) (release : KubernetesRelease)
      (request : KubernetesReleaseRequest) (message : String)
      (dispatching : before.calls call = .dispatching release request)
      (outcome : runBackend config.target.agentId release.operationId course =
        .error (.runtimeError message)) :
      Move config before (.finish call course)
        (((before.setAnswer release.operationId
            (before.recordAnswer config release.operationId course)).updateActive
              release.operationId KubernetesRelease.applyUnavailable).setCall call
          (.returned release.operationId))
  | escaped (call : Nat) (course : Course) (release : KubernetesRelease)
      (request : KubernetesReleaseRequest) (error : PyException)
      (dispatching : before.calls call = .dispatching release request)
      (outcome : runBackend config.target.agentId release.operationId course = .error error)
      (other : forall message, error ≠ .runtimeError message) :
      Move config before (.finish call course)
        ((before.setAnswer release.operationId
          (before.recordAnswer config release.operationId course)).setCall call
            (.raised release.operationId error))
  | cancelled (operationId : String) (accepted : Bool) :
      Move config before (.cancelRelease operationId accepted)
        (before.cancelRelease operationId accepted)

theorem step_move {config : ServiceConfig} {before after : State} {action : Action}
    (stepped : step config before action = some after) : Move config before action after := by
  cases action with
  | start call intent fresh =>
      simp only [step, State.start] at stepped
      split at stepped
      · rename_i idle
        cases found : before.existing config intent with
        | some release =>
            simp only [found] at stepped
            split at stepped
            · rename_i active
              cases stepped
              exact .answered call intent fresh release idle found active
            · rename_i settled
              cases stepped
              exact .reopened call intent fresh release idle found
                (Bool.eq_false_of_not_eq_true settled)
        | none =>
            simp only [found] at stepped
            split at stepped
            · cases stepped
            · rename_i unused
              cases stepped
              refine .created call intent fresh idle found fun member => unused ?_
              exact List.contains_iff_mem.mpr member
      · cases stepped
  | finish call course =>
      simp only [step, State.finish] at stepped
      cases phase : before.calls call with
      | dispatching release request =>
          simp only [phase] at stepped
          cases outcome : runBackend config.target.agentId release.operationId course with
          | ok result =>
              simp only [outcome] at stepped
              cases stepped
              exact .recorded call course release request result phase outcome
          | error error =>
              cases error with
              | runtimeError message =>
                  simp only [outcome] at stepped
                  cases stepped
                  exact .unavailable call course release request message phase outcome
              | _ =>
                  simp only [outcome] at stepped
                  cases stepped
                  exact .escaped call course release request _ phase outcome nofun
      | _ =>
          simp only [phase] at stepped
          cases stepped
  | cancelRelease operationId accepted =>
      simp only [step] at stepped
      cases stepped
      exact .cancelled operationId accepted

end Service

end ControlPlane
end DjangoOps
