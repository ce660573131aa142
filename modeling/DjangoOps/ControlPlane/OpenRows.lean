import DjangoOps.ControlPlane.FinalRows

namespace DjangoOps
namespace ControlPlane
namespace Lifecycle

open Protocol Gateway Mutex Service

/-!
# One open row for every identity

A start that finds an open row is answered with it.  What the call does from
then on is said by its phases: an active row is returned as it was read, and
another one is reopened and dispatched under its own operation id.
-/

/-- The phases of a start that has found an active row. -/
inductive Returns (target : Nat) (intent : Intent) (release : KubernetesRelease) : Phase -> Prop
  | committing : Returns target intent release
      (.starting target intent (.committing release false))
  | returned : Returns target intent release (.returned release)

/-- The phases of a start that has found a row to reopen. -/
inductive Redispatches (setting : Setting) (target : Nat) (intent : Intent)
    (operationId : String) : Phase -> Prop
  | found (existing : KubernetesRelease) (own : existing.operationId = operationId) :
      Redispatches setting target intent operationId (.starting target intent (.found existing))
  | reopened : Redispatches setting target intent operationId
      (.starting target intent (.reopened operationId))
  | committing (release : KubernetesRelease) (own : release.operationId = operationId) :
      Redispatches setting target intent operationId
        (.starting target intent (.committing release true))
  | dispatching (release : KubernetesRelease) (own : release.operationId = operationId) :
      Redispatches setting target intent operationId
        (.dispatching target release (releaseRequest (setting.service target) intent release))
  | reloading : Redispatches setting target intent operationId (.reloading target operationId)
  | returned (release : KubernetesRelease) (own : release.operationId = operationId) :
      Redispatches setting target intent operationId (.returned release)
  | raised (error : PyException) : Redispatches setting target intent operationId (.raised error)

/-- What `start_release` does for an identity with an open row: an active release is
returned as it is, and a failed one that can be recovered is dispatched again. -/
def Serves (setting : Setting) (target : Nat) (intent : Intent) (release : KubernetesRelease)
    (phase : Phase) : Prop :=
  if release.status.active then Returns target intent release phase
  else Redispatches setting target intent release.operationId phase

/-- How a statement moves its call. -/
inductive Follows (setting : Setting) : Phase -> Phase -> Prop
  | locked (target : Nat) (intent : Intent) :
      Follows setting .idle (.starting target intent .locked)
  | answered (target : Nat) (intent : Intent) (existing : KubernetesRelease) :
      Follows setting (.starting target intent .locked)
        (.starting target intent (.committing existing false))
  | found (target : Nat) (intent : Intent) (existing : KubernetesRelease) :
      Follows setting (.starting target intent .locked) (.starting target intent (.found existing))
  | missed (target : Nat) (intent : Intent) :
      Follows setting (.starting target intent .locked) (.starting target intent .absent)
  | reopened (target : Nat) (intent : Intent) (existing : KubernetesRelease) :
      Follows setting (.starting target intent (.found existing))
        (.starting target intent (.reopened existing.operationId))
  | refreshed (target : Nat) (intent : Intent) (release : KubernetesRelease) :
      Follows setting (.starting target intent (.reopened release.operationId))
        (.starting target intent (.committing release true))
  | searched (target : Nat) (intent : Intent) (previous : Option KubernetesRelease) :
      Follows setting (.starting target intent .absent)
        (.starting target intent (.creating previous))
  | created (target : Nat) (intent : Intent) (previous : Option KubernetesRelease)
      (release : KubernetesRelease) :
      Follows setting (.starting target intent (.creating previous))
        (.starting target intent (.committing release true))
  | dispatched (target : Nat) (intent : Intent) (release : KubernetesRelease) :
      Follows setting (.starting target intent (.committing release true))
        (.dispatching target release (releaseRequest (setting.service target) intent release))
  | kept (target : Nat) (intent : Intent) (release : KubernetesRelease) :
      Follows setting (.starting target intent (.committing release false)) (.returned release)
  | recorded (target : Nat) (release : KubernetesRelease) (request : KubernetesReleaseRequest) :
      Follows setting (.dispatching target release request)
        (.reloading target release.operationId)
  | escaped (target : Nat) (release : KubernetesRelease) (request : KubernetesReleaseRequest)
      (error : PyException) :
      Follows setting (.dispatching target release request) (.raised error)
  | settled (release : KubernetesRelease) : Follows setting .idle (.returned release)
  | cancelling (target : Nat) (operationId : String) :
      Follows setting .idle (.cancelling target operationId)
  | cancelled (target : Nat) (operationId : String) :
      Follows setting (.cancelling target operationId) (.reloading target operationId)
  | abandoned (target : Nat) (operationId : String) (error : PyException) :
      Follows setting (.cancelling target operationId) (.raised error)
  | reloaded (target : Nat) (release : KubernetesRelease) :
      Follows setting (.reloading target release.operationId) (.returned release)

section Phases

variable {setting : Setting} {before after : State} {action : Action} {target : Nat}
  {intent : Intent}

theorem follows_of_eq {earlier later first second : Phase}
    (follows : Follows setting first second) (same : earlier = first) (next : later = second) :
    Follows setting earlier later := by
  rwa [same, next]

theorem Move.follows (move : Move setting before action after) :
    Follows setting (before.calls action.call) (after.calls action.call) := by
  cases move with
  | locked call target intent idle free =>
      exact follows_of_eq (.locked target intent) idle (State.calls_enter_self _ _ _)
  | answered call target intent existing phase selected active =>
      exact follows_of_eq (.answered target intent existing) phase (State.calls_enter_self _ _ _)
  | found call target intent existing phase selected settled =>
      exact follows_of_eq (.found target intent existing) phase (State.calls_enter_self _ _ _)
  | missed call target intent phase missing =>
      exact follows_of_eq (.missed target intent) phase (State.calls_enter_self _ _ _)
  | reopened call target intent existing phase =>
      exact follows_of_eq (.reopened target intent existing) phase (State.calls_enter_self _ _ _)
  | refreshed call target intent operationId release phase read =>
      refine follows_of_eq (.refreshed target intent release) ?_ (State.calls_enter_self _ _ _)
      rw [(row?_eq_some read).2]
      exact phase
  | searched call target intent phase =>
      exact follows_of_eq (.searched target intent _) phase (State.calls_enter_self _ _ _)
  | created call target intent previous fresh phase unused =>
      exact follows_of_eq (.created target intent previous _) phase (State.calls_enter_self _ _ _)
  | dispatched call target intent release phase =>
      exact follows_of_eq (.dispatched target intent release) phase (State.calls_enter_self _ _ _)
  | kept call target intent release phase =>
      exact follows_of_eq (.kept target intent release) phase (State.calls_enter_self _ _ _)
  | recorded call target release request result phase =>
      exact follows_of_eq (.recorded target release request) phase (State.calls_enter_self _ _ _)
  | unavailable call target release request message phase =>
      exact follows_of_eq (.recorded target release request) phase (State.calls_enter_self _ _ _)
  | escaped call target release request error phase =>
      exact follows_of_eq (.escaped target release request error) phase
        (State.calls_enter_self _ _ _)
  | settled call target release row idle read terminal =>
      exact follows_of_eq (.settled _) idle (State.calls_enter_self _ _ _)
  | cancelling call target release row idle read running =>
      exact follows_of_eq (.cancelling target _) idle (State.calls_enter_self _ _ _)
  | cancelled call target operationId accepted phase =>
      exact follows_of_eq (.cancelled target operationId) phase (State.calls_enter_self _ _ _)
  | abandoned call target operationId error phase =>
      exact follows_of_eq (.abandoned target operationId error) phase
        (State.calls_enter_self _ _ _)
  | reloaded call target operationId release phase read =>
      refine follows_of_eq (.reloaded target release) ?_ (State.calls_enter_self _ _ _)
      rw [(row?_eq_some read).2]
      exact phase

theorem Returns.follow {release : KubernetesRelease} {earlier later : Phase}
    (returns : Returns target intent release earlier) (follows : Follows setting earlier later) :
    Returns target intent release later := by
  cases returns with
  | committing =>
      cases follows
      exact .returned
  | returned => cases follows

theorem Redispatches.follow {operationId : String} {earlier later : Phase}
    (redispatches : Redispatches setting target intent operationId earlier)
    (follows : Follows setting earlier later) :
    Redispatches setting target intent operationId later := by
  cases redispatches with
  | found existing own =>
      cases follows
      rw [own]
      exact .reopened
  | reopened =>
      cases follows with
      | refreshed _ _ release => exact .committing release rfl
  | committing release own =>
      cases follows
      exact .dispatching release own
  | dispatching release own =>
      cases follows with
      | recorded =>
          rw [own]
          exact .reloading
      | escaped _ _ _ error => exact .raised error
  | reloading =>
      cases follows with
      | reloaded _ release => exact .returned release rfl
  | returned => cases follows
  | raised => cases follows

theorem Serves.step {release : KubernetesRelease} {call : Nat}
    (serves : Serves setting target intent release (before.calls call))
    (move : Move setting before action after) :
    Serves setting target intent release (after.calls call) := by
  by_cases own : call = action.call
  · subst own
    unfold Serves at serves ⊢
    split
    · rename_i active
      rw [if_pos active] at serves
      exact serves.follow move.follows
    · rename_i settled
      rw [if_neg settled] at serves
      exact serves.follow move.follows
  · rwa [move.calls_ne own]

theorem Serves.run {release : KubernetesRelease} {call : Nat}
    (serves : Serves setting target intent release (before.calls call))
    (path : Relation.ReflTransGen ((machine setting).StepUnder fun _ _ => True) before after) :
    Serves setting target intent release (after.calls call) := by
  induction path with
  | refl => exact serves
  | tail earlier last inductionHypothesis =>
      rcases last with ⟨action, _, stepped⟩
      exact inductionHypothesis.step (step_move stepped)

end Phases

section Reachable

variable {setting : Setting} {state : State} {target : Nat} {intent : Intent}

/-- Rows of which two are equal when both are listed are one row. -/
theorem length_open_le (coherent : Coherent (state.table target))
    (key : String × String × String) :
    ((state.releases target).filter fun release =>
      decide (identity release = key) && release.isOpen).length ≤ 1 := by
  have distinct : ((state.releases target).filter fun release =>
      decide (identity release = key) && release.isOpen).Nodup :=
    (List.Nodup.of_map _ coherent.unique).filter _
  have equal : forall first, first ∈ (state.releases target).filter (fun release =>
      decide (identity release = key) && release.isOpen) ->
        forall second, second ∈ (state.releases target).filter (fun release =>
          decide (identity release = key) && release.isOpen) -> first = second := by
    intro first firstMember second secondMember
    rw [List.mem_filter, Bool.and_eq_true, decide_eq_true_eq] at firstMember secondMember
    exact coherent.single first firstMember.1 second secondMember.1
      (firstMember.2.1.trans secondMember.2.1.symm) firstMember.2.2 secondMember.2.2
  generalize (state.releases target).filter (fun release =>
    decide (identity release = key) && release.isOpen) = rows at distinct equal
  match rows with
  | [] => exact Nat.zero_le 1
  | [_] => exact Nat.le_refl 1
  | first :: second :: rest =>
      have same := equal first (.head _) second (.tail _ (.head _))
      subst same
      exact absurd (List.mem_cons_self) (List.nodup_cons.mp distinct).1

/-- The query of a start finds the open row of its identity. -/
theorem State.Sound.serves_of_select (sound : state.Sound setting) {call : Nat}
    {release : KubernetesRelease} (phase : state.calls call = .starting target intent .locked)
    (listed : release ∈ state.releases target)
    (same : identity release = intentIdentity (setting.service target) intent)
    (opened : release.isOpen = true) :
    Exists fun after : State => Lifecycle.step setting state (.selectExisting call) = some after ∧
      Serves setting target intent release (after.calls call) := by
  have found : (state.table target).existing (setting.service target) intent = some release :=
    (sound.coherent target).existing_of_open listed same opened
  unfold Serves
  simp only [Lifecycle.step, State.selectExisting, phase, found]
  by_cases active : release.status.active = true
  · refine ⟨_, if_pos active, ?_⟩
    rw [if_pos active, State.calls_enter_self]
    exact .committing
  · refine ⟨_, if_neg active, ?_⟩
    rw [if_neg active, State.calls_enter_self]
    exact .found release rfl

/-- The transaction of a start that serves an open row does not get stuck. -/
theorem State.Sound.enabled_of_serves (sound : state.Sound setting) {call : Nat}
    {release : KubernetesRelease} (serves : Serves setting target intent release (state.calls call))
    (locked : (state.calls call).holds = some target) :
    Exists fun action : Action =>
      action.call = call ∧ (Lifecycle.step setting state action).isSome := by
  have commits : forall row dispatch,
      state.calls call = .starting target intent (.committing row dispatch) ->
        Exists fun action : Action =>
          action.call = call ∧ (Lifecycle.step setting state action).isSome := by
    intro row dispatch phase
    refine ⟨.commit call, rfl, ?_⟩
    simp only [Lifecycle.step, State.commit, phase]
    split <;> rfl
  generalize current : state.calls call = phase at serves locked
  unfold Serves at serves
  split at serves
  · cases serves with
    | committing => exact commits _ _ current
    | returned => cases locked
  · cases serves with
    | found existing own =>
        refine ⟨.reopen call, rfl, ?_⟩
        simp only [Lifecycle.step, State.reopen, current]
        rfl
    | reopened =>
        rcases sound.staged call target intent _ current with ⟨row, listed, own, _⟩
        refine ⟨.refresh call, rfl, ?_⟩
        have read := sound.row?_of_mem target row listed
        rw [own] at read
        simp only [Lifecycle.step, State.refresh, current, read, Option.map_some, Option.isSome_some]
    | committing row own => exact commits _ _ current
    | dispatching => cases locked
    | reloading => cases locked
    | returned => cases locked
    | raised => cases locked

end Reachable

/-- A dispatch has failed, and a retry has locked the target. -/
def failedRun : List Action :=
  starting 0 7 "k8s-1" ++ [.record 0 (.error (.runtimeError "")), .reload 0,
    .lockTarget 1 7 sampleIntent]

def failedRow : KubernetesRelease := (sampleRelease "k8s-1").applyUnavailable

end Lifecycle
end ControlPlane
end DjangoOps
