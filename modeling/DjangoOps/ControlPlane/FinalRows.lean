import DjangoOps.ControlPlane.LifecycleSafety

namespace DjangoOps
namespace ControlPlane

/-!
# Releases that are over

A terminal row is written by nothing but the update that reopens it, and that
update reaches failed rows with a recoverable error code only.
-/

/-- The rows that are never reopened: a release that is over for another reason
than a recoverable failure. -/
def KubernetesRelease.final (release : KubernetesRelease) : Prop :=
  release.status = .succeeded ∨ release.status = .cancelled ∨ release.status = .rolledBack ∨
    release.status = .rollbackBlocked ∨
      (release.status = .failed ∧ release.errorCode ∉ recoverableErrors)

theorem KubernetesRelease.final_iff (release : KubernetesRelease) :
    release.final <-> release.isOpen = false := by
  unfold KubernetesRelease.final KubernetesRelease.isOpen
  cases release.status <;> simp [ReleaseStatus.active]

/-- An open row that is not active is a recoverable failure. -/
theorem KubernetesRelease.recoverable_of_open {release : KubernetesRelease}
    (opened : release.isOpen = true) (settled : release.status.active = false) :
    release.status = .failed ∧ release.errorCode ∈ recoverableErrors := by
  unfold KubernetesRelease.isOpen at opened
  rw [settled, Bool.false_or, Bool.and_eq_true, decide_eq_true_eq, decide_eq_true_eq] at opened
  exact opened

namespace Lifecycle

open Protocol Gateway Mutex Service

variable {setting : Setting} {before after : State} {action : Action}

/-- The row of an operation is the listed one that carries its id. -/
theorem State.Sound.row?_of_mem {state : State} (sound : state.Sound setting) (target : Nat)
    (release : KubernetesRelease) (listed : release ∈ state.releases target) :
    state.row? target release.operationId = some release := by
  cases read : state.row? target release.operationId with
  | none =>
      have refused := List.find?_eq_none.mp read release listed
      exact absurd (decide_eq_true rfl) refused
  | some other =>
      rcases row?_eq_some read with ⟨otherListed, own⟩
      rw [(sound.coherent target).eq_of_operationId otherListed listed own]

/-- What one statement does to a terminal row. -/
theorem State.Sound.terminal_step (sound : before.Sound setting)
    (rows : RowMove setting before action after) {target : Nat} {release : KubernetesRelease}
    (listed : release ∈ before.releases target) (terminal : release.status.terminal = true) :
    release ∈ after.releases target ∨
      (release.status = .failed ∧ release.errorCode ∈ recoverableErrors ∧
        (Exists fun intent : Intent => action = .reopen action.call ∧
          before.calls action.call = .starting target intent (.found release)) ∧
        release.reopen ∈ after.releases target) := by
  have settled : release.status.active = false := by
    rwa [ReleaseStatus.terminal_eq, Bool.not_eq_true'] at terminal
  cases rows with
  | unchanged rows index => exact .inl (rows ▸ listed)
  | conditional written operationId change rows revises index =>
      left
      rw [rows]
      by_cases same : target = written
      · subst same
        rw [Function.update_self]
        exact mem_updateActive_of_inactive listed settled
      · rwa [Function.update_of_ne same]
  | reopens written intent existing statement phase rows index =>
      rw [rows]
      by_cases same : target = written
      · subst same
        rw [Function.update_self]
        rcases sound.staged _ target intent _ phase with ⟨found, _, opened, _⟩
        by_cases own : release.operationId = existing.operationId
        · have equal := (sound.coherent target).eq_of_operationId found listed own.symm
          subst equal
          rcases KubernetesRelease.recoverable_of_open opened settled with ⟨failed, recoverable⟩
          exact .inr ⟨failed, recoverable, ⟨intent, statement, phase⟩,
            List.mem_map.mpr ⟨existing, listed, if_pos rfl⟩⟩
        · exact .inl (List.mem_map.mpr ⟨release, listed, if_neg own⟩)
      · rw [Function.update_of_ne same]
        exact .inl listed
  | creates written intent previous fresh statement phase unused rows index =>
      left
      rw [rows]
      by_cases same : target = written
      · subst same
        rw [Function.update_self]
        exact .tail _ listed
      · rwa [Function.update_of_ne same]

theorem State.Sound.final_step (sound : before.Sound setting)
    (rows : RowMove setting before action after) {target : Nat} {release : KubernetesRelease}
    (listed : release ∈ before.releases target) (final : release.final) :
    release ∈ after.releases target := by
  have terminal : release.status.terminal = true := by
    rcases final with same | same | same | same | ⟨same, _⟩ <;> rw [same] <;> rfl
  rcases sound.terminal_step rows listed terminal with kept | ⟨failed, recoverable, _, _⟩
  · exact kept
  · have opened := isOpen_of_recoverable release.errorCode failed rfl recoverable
    rw [release.final_iff.mp final] at opened
    cases opened

/-- The releases of every run are monotone.  One statement leaves a terminal row
as it is, or it is the update by which `start_release` reopens the failed row
with a recoverable error code that it has found.  A row that is over for
another reason is the same in every later state. -/
theorem releases_monotone (setting : Setting) (before : State)
    (reached : (machine setting).Reachable before) (target : Nat) (release : KubernetesRelease)
    (listed : before.row? target release.operationId = some release)
    (terminal : release.status.terminal = true) :
    (forall (action : Action) (after : State), step setting before action = some after ->
      after.row? target release.operationId = some release ∨
        (release.status = .failed ∧ release.errorCode ∈ recoverableErrors ∧
          (Exists fun call : Nat => Exists fun intent : Intent => action = .reopen call ∧
            before.calls call = .starting target intent (.found release)) ∧
          after.row? target release.operationId = some release.reopen)) ∧
      (release.final -> forall after : State,
        Relation.ReflTransGen ((machine setting).StepUnder fun _ _ => True) before after ->
          after.row? target release.operationId = some release) := by
  have sound := sound_of_reachable reached
  have member := (row?_eq_some listed).1
  refine ⟨?_, ?_⟩
  · intro action after stepped
    have move := step_move stepped
    have later := sound.step move
    rcases sound.terminal_step move.rows member terminal with
      kept | ⟨failed, recoverable, ⟨intent, statement, phase⟩, reopened⟩
    · exact .inl (later.row?_of_mem target release kept)
    · exact .inr ⟨failed, recoverable, ⟨action.call, intent, statement, phase⟩,
        later.row?_of_mem target release.reopen reopened⟩
  · intro final after path
    have kept : after.Sound setting ∧ release ∈ after.releases target := by
      induction path with
      | refl => exact ⟨sound, member⟩
      | tail earlier last inductionHypothesis =>
          rcases last with ⟨action, _, stepped⟩
          have move := step_move stepped
          exact ⟨inductionHypothesis.1.step move,
            inductionHypothesis.1.final_step move.rows inductionHypothesis.2 final⟩
    exact kept.1.row?_of_mem target release kept.2

/-! ## A sample -/

def sampleSetting : Setting where
  targets := fun _ => sampleService.target
  sha256 := sampleService.sha256

/-- The statements of a start that creates a row and dispatches it. -/
def starting (call target : Nat) (operationId : String) : List Action :=
  [.lockTarget call target sampleIntent, .selectExisting call, .selectPrevious call,
    .create call operationId, .commit call]

/-- The statements of a start that finds a row to reopen. -/
def retrying (call target : Nat) : List Action :=
  [.lockTarget call target sampleIntent, .selectExisting call, .reopen call, .refresh call,
    .commit call]

def succeededResult : ReleaseResult := ⟨"succeeded", some 4, none, "", ""⟩

/-- The first dispatch fails, a retry succeeds. -/
def retriedRun : List Action :=
  starting 0 7 "k8s-1" ++ [.record 0 (.error (.runtimeError "")), .reload 0] ++ retrying 1 7 ++
    [.record 1 (.ok succeededResult)]

def succeededRow : KubernetesRelease :=
  { sampleRelease "k8s-1" with status := .succeeded, helmRevision := some 4 }

/-- The retried release has succeeded, and stays as it is. -/
theorem releases_monotone_retried :
    Exists fun before : State => (machine sampleSetting).Reachable before ∧
      forall after : State,
        Relation.ReflTransGen ((machine sampleSetting).StepUnder fun _ _ => True) before after ->
          after.row? 7 "k8s-1" = some succeededRow := by
  rcases (machine sampleSetting).exists_reachableUnder_of_replay (fun _ _ => True) retriedRun
    .initial rfl (fun state => state.row? 7 "k8s-1" = some succeededRow)
    (by decide +kernel) with ⟨before, reached, tested⟩
  refine ⟨before, reached, ?_⟩
  exact (releases_monotone sampleSetting before reached 7 succeededRow (of_decide_eq_true tested)
    rfl).2 (.inl rfl)

end Lifecycle
end ControlPlane
end DjangoOps
