import DjangoOps.Cli.DeployOutcome

namespace DjangoOps
namespace Cli
namespace Deploy

open FaultyScript

/-!
# What a failed deployment restores

The restoration leads `current` back to where it led and starts the containers
from there.  It starts them with the Compose file of the new plan, so the
previous directory needs a file of that name, and it can move a link but not a
plain directory.
-/

/-- The containers that belong to `current`. -/
def served : Node -> Runtime
  | .link place => .running place
  | .directory => .running .current
  | _ => .stopped

/-- `current` leads where it led, its directory is there, and the containers run
from there, or are stopped when there was no release. -/
structure Restored (before after : Remote) : Prop where
  current : after.current = before.current
  present : forall place, before.current = .link place -> (after.files place).isSome = true
  runtime : after.runtime = served before.current

namespace Deployment

variable {deployment : Deployment} {faults : Step -> Fault Leftover} {remote : Remote}

/-- No transport fails in the recovery. -/
structure Quiet (faults : Step -> Fault Leftover) : Prop where
  restore : faults .restoreOrStopFailedRelease = .fine
  cleanup : faults .cleanupRelease = .fine

/-- The directory that `current` led to has a file under the name of the new
Compose file, or the containers of that directory run anyway. -/
def Restorable (deployment : Deployment) (remote : Remote) (runtime : Runtime) : Prop :=
  match remote.current with
  | .link place =>
      (place = deployment.release -> isReleaseId deployment.id.toList = false) ∧
        ((deployment.staged remote runtime).composes deployment place = true ∨
          runtime = .running place)
  | .directory => runtime = .running .current
  | _ =>
      (deployment.staged remote runtime).composes deployment deployment.release = true ∨
        runtime = .stopped

/-- What an interruption behind the capture has left. -/
structure LeftBehind (deployment : Deployment) (remote left : Remote) : Prop where
  previous : left.previous deployment.id = captured remote.current
  files : left.files = (deployment.staged remote left.runtime).files
  current : left.current = remote.current ∨
    (left.current = .link deployment.release ∧ remote.current ≠ .directory)

theorem LeftBehind.composes {left : Remote} (behind : LeftBehind deployment remote left)
    (place : Place) : left.composes deployment place =
      (deployment.staged remote left.runtime).composes deployment place := by
  unfold Remote.composes
  rw [behind.files]

theorem LeftBehind.replaceable {left : Remote} (behind : LeftBehind deployment remote left)
    (other : remote.current ≠ .directory) : left.current ≠ .directory := by
  rcases behind.current with same | ⟨moved, _⟩
  · rw [same]
    exact other
  · rw [moved]
    exact fun impossible => by cases impossible

theorem LeftBehind.restoredCurrent {left : Remote} (behind : LeftBehind deployment remote left)
    (plain : remote.current ≠ .file) :
    restoredCurrent deployment .fine left = remote.current := by
  unfold Deployment.restoredCurrent
  rw [behind.previous]
  have movable := behind.replaceable
  cases current : remote.current with
  | link place =>
      rw [current] at movable
      exact if_pos ⟨rfl, movable fun impossible => by cases impossible⟩
  | directory =>
      rcases behind.current with same | ⟨_, other⟩
      · rw [same, current]
        exact if_neg fun both => both.2 rfl
      · exact absurd current other
  | absent =>
      dsimp only [captured]
      rcases behind.current with same | ⟨moved, _⟩
      · rw [same, current]
        exact if_neg fun both => by cases both.1
      · exact if_pos ⟨moved, rfl⟩
  | file => exact absurd current plain

/-! ## The containers -/

/-- A restoration into a directory. -/
theorem restore_runtime_some {left : Remote} {place : Place}
    (saved : left.previous deployment.id = some place) :
    (deployment.attempt .restoreOrStopFailedRelease .fine left).1.runtime =
      if left.current ≠ .directory ∧ left.composes deployment place = true then .running place
      else left.runtime := by
  have script : deployment.commands left .restoreOrStopFailedRelease =
      [.linkRestore place, .moveRestore, .enter place, .up place] := by
    simp only [commands, saved]
  unfold attempt
  rw [script]
  unfold Remote.composes
  by_cases plain : left.current = .directory
  · simp [plain]
  · cases there : left.files place with
    | none => simp [plain, there]
    | some files =>
        by_cases listed : deployment.plan.composeFile ∈ files
        · simp [plain, there, Remote.composes, listed]
        · simp [plain, there, Remote.composes, listed]

/-- A restoration to nothing. -/
theorem restore_runtime_none {left : Remote} (saved : left.previous deployment.id = none) :
    (deployment.attempt .restoreOrStopFailedRelease .fine left).1.runtime =
      if left.composes deployment deployment.release = true then .stopped else left.runtime := by
  have script : deployment.commands left .restoreOrStopFailedRelease =
      (if left.current = .link deployment.release then [.clearCurrent] else []) ++
        [.enter deployment.release, .down deployment.release] := by
    simp only [commands, saved]
  unfold attempt
  rw [script]
  unfold Remote.composes
  by_cases own : left.current = .link deployment.release
  · cases there : left.files deployment.release with
    | none => simp [own, there]
    | some files =>
        by_cases listed : deployment.plan.composeFile ∈ files
        · simp [own, there, Remote.composes, listed]
        · simp [own, there, Remote.composes, listed]
  · cases there : left.files deployment.release with
    | none => simp [own, there]
    | some files =>
        by_cases listed : deployment.plan.composeFile ∈ files
        · simp [own, there, Remote.composes, listed]
        · simp [own, there, Remote.composes, listed]

/-! ## The whole recovery -/

/-- The states of `current` that the capture is made for. -/
structure Accepted (remote : Remote) : Prop where
  plain : remote.current ≠ .file
  present : forall place, remote.current = .link place -> (remote.files place).isSome = true

theorem restored_iff_of_recovered {left after : Remote} (quiet : Quiet faults)
    (accepted : Accepted remote) (behind : LeftBehind deployment remote left)
    (recovered : Recovered deployment faults left after) :
    Restored remote after <-> deployment.Restorable remote left.runtime := by
  have leads : after.current = remote.current := by
    rw [recovered.current, quiet.restore]
    exact behind.restoredCurrent accepted.plain
  have runs := recovered.runtime
  rw [quiet.restore] at runs
  have whole : Restored remote after <->
      (forall place, remote.current = .link place -> (after.files place).isSome = true) ∧
        after.runtime = served remote.current :=
    ⟨fun restored => ⟨restored.present, restored.runtime⟩, fun both => ⟨leads, both.1, both.2⟩⟩
  rw [whole]
  unfold Restorable
  cases current : remote.current with
  | link place =>
      have saved : left.previous deployment.id = some place := by
        rw [behind.previous, current]
        rfl
      have movable : left.current ≠ .directory := behind.replaceable (by rw [current]; simp)
      rw [restore_runtime_some saved, behind.composes] at runs
      have there : (after.files place).isSome = true <->
          (place = deployment.release -> isReleaseId deployment.id.toList = false) := by
        by_cases own : place = deployment.release
        · rw [own, recovered.own quiet.cleanup, behind.files]
          unfold staged
          dsimp only
          rw [Function.update_self]
          cases isReleaseId deployment.id.toList <;> simp
        · rw [recovered.files place own, behind.files]
          unfold staged
          dsimp only
          rw [Function.update_of_ne own]
          exact iff_of_true (accepted.present place current) fun same => absurd same own
      refine and_congr ?_ ?_
      · rw [← there]
        constructor
        · intro all
          exact all place rfl
        · rintro held _ ⟨⟩
          exact held
      · rw [runs]
        dsimp only [served]
        cases held : (deployment.staged remote left.runtime).composes deployment place with
        | true => rw [if_pos ⟨movable, rfl⟩]; simp
        | false => rw [if_neg fun both => by cases both.2]; simp
  | directory =>
      have saved : left.previous deployment.id = some .current := by
        rw [behind.previous, current]
        rfl
      have stays : left.current = .directory := by
        rcases behind.current with same | ⟨_, other⟩
        · rw [same, current]
        · exact absurd current other
      rw [restore_runtime_some saved, if_neg fun both => both.1 stays] at runs
      rw [runs]
      exact and_iff_right fun place impossible => by cases impossible
  | absent =>
      have saved : left.previous deployment.id = none := by
        rw [behind.previous, current]
        rfl
      rw [restore_runtime_none saved, behind.composes] at runs
      rw [runs]
      dsimp only [served]
      refine (and_iff_right fun place impossible => by cases impossible).trans ?_
      cases (deployment.staged remote left.runtime).composes deployment deployment.release <;> simp
  | file => exact absurd current accepted.plain

/-- A failed deployment restores what was there exactly when it was restorable
as the interruption has left the containers.  The recovery brings the project up
again under the Compose path of the new plan and then removes the directory of the
new release, so a former release that keeps its Compose file elsewhere, or that is
the one to be removed, is not what runs in the end. -/
theorem deploy_restored_iff (deployment : Deployment) (faults : Step -> Fault Leftover)
    (remote left : Remote) (quiet : Quiet faults) (accepted : Accepted remote)
    (captures : deployment.Captures faults remote)
    (stopped : deployment.interrupted faults forward remote = some left) :
    Restored remote (deployment.deploy faults remote).1 <->
      deployment.Restorable remote left.runtime := by
  have course := @deploy_course deployment faults remote
  rw [stopped] at course
  generalize deployment.deploy faults remote = outcome at course
  cases course with
  | upload files failed held =>
      rw [captures.upload] at failed
      cases failed
  | capture previous files held uploaded failed => exact absurd captures failed
  | staging runtime captures failed =>
      refine restored_iff_of_recovered quiet accepted ⟨?_, rfl, .inl rfl⟩ recover_staged
      exact Function.update_self _ _ _
  | activation pending prepares failed =>
      refine restored_iff_of_recovered quiet accepted ⟨?_, rfl, ?_⟩ recover_activated
      · exact Function.update_self _ _ _
      · unfold activated staged
        dsimp only
        by_cases moved : (faults .activateRelease).executes 2 = true ∧ remote.current ≠ .directory
        · rw [if_pos moved]
          exact .inr ⟨rfl, moved.2⟩
        · rw [if_neg moved]
          exact .inl rfl

end Deployment

/-! ## Another Compose path, and a plain directory -/

/-- The containers come up half-way. -/
def startFaults : Step -> Fault Leftover
  | .startRelease => .stop 3 ⟨[], .mixed⟩
  | _ => .fine

/-- The previous release bears another Compose file, or `current` is a directory
and no script is disturbed at all. -/
theorem other_compose_not_restored :
    ¬ Restored (sampleRemote ["docker-compose.yml"])
        (sampleDeployment.deploy startFaults (sampleRemote ["docker-compose.yml"])).1 ∧
      ¬ Restored { sampleRemote ["compose.yaml"] with current := .directory }
        (sampleDeployment.deploy (fun _ => .fine)
          { sampleRemote ["compose.yaml"] with current := .directory }).1 := by
  constructor
  · intro restored
    exact absurd restored.runtime (by decide +kernel)
  · intro restored
    exact absurd restored.runtime (by decide +kernel)

theorem deploy_restored_same_compose :
    Restored (sampleRemote ["compose.yaml"])
      (sampleDeployment.deploy startFaults (sampleRemote ["compose.yaml"])).1 := by
  have interrupted : (sampleDeployment.interrupted startFaults Deployment.forward
      (sampleRemote ["compose.yaml"])).map Remote.runtime = some .mixed := by decide +kernel
  rcases Option.map_eq_some_iff.mp interrupted with ⟨left, stopped, mixed⟩
  rw [sampleDeployment.deploy_restored_iff startFaults (sampleRemote ["compose.yaml"]) left
    ⟨rfl, rfl⟩ ⟨by decide, ?_⟩ ⟨rfl, rfl, by decide⟩ stopped, mixed]
  · exact ⟨fun same => absurd same (by decide), .inl (by decide +kernel)⟩
  · rintro place ⟨⟩
    rfl

end Deploy
end Cli
end DjangoOps
