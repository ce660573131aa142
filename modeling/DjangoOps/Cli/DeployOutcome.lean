import DjangoOps.Cli.Deploy

namespace DjangoOps
namespace Cli
namespace Deploy

open FaultyScript

/-!
# How a deployment leaves the remote side

A deployment that raises has run its recovery, which ends with the removal of
the release, whether or not `current` has been taken off it.  What is there
afterwards is read off the course of the deployment.
-/

namespace Deployment

variable {deployment : Deployment} {faults : Step -> Fault Leftover} {remote : Remote}

/-! ## What a recovery leaves -/

/-- What the removal of the release leaves. -/
structure Removed (deployment : Deployment) (fault : Fault Leftover) (before after : Remote) :
    Prop where
  removed : after.removed =
    if isReleaseId deployment.id.toList = true ∧ fault.executes 0 = true ∧
        (before.files deployment.release).isSome = true then
      deployment.id :: before.removed
    else before.removed
  files : forall place, place ≠ deployment.release -> after.files place = before.files place
  own : fault = .fine -> after.files deployment.release =
    if isReleaseId deployment.id.toList = true then none else before.files deployment.release

/-- What a whole recovery leaves. -/
structure Recovered (deployment : Deployment) (faults : Step -> Fault Leftover)
    (before after : Remote) : Prop extends
    Removed deployment (faults .cleanupRelease) before after where
  current : after.current =
    restoredCurrent deployment (faults .restoreOrStopFailedRelease) before
  runtime : after.runtime =
    (deployment.attempt .restoreOrStopFailedRelease (faults .restoreOrStopFailedRelease)
      before).1.runtime

theorem removed_cleanup {before : Remote} (same : before.files = remote.files)
    (kept : before.removed = remote.removed) :
    (deployment.recover faults [.cleanupRelease] before).current = before.current ∧
      (deployment.recover faults [.cleanupRelease] before).runtime = before.runtime ∧
      Removed deployment (faults .cleanupRelease) remote
        (deployment.recover faults [.cleanupRelease] before) := by
  rcases deployment.attempt_cleanup (faults .cleanupRelease) before with ⟨files, left, own⟩
  rw [recover, recover, left]
  refine ⟨rfl, rfl, ?_, ?_, ?_⟩
  · dsimp only
    rw [same, kept]
  · intro place other
    dsimp only
    rw [Function.update_of_ne other, same]
  · intro fine
    dsimp only
    rw [Function.update_self, own fine, same]

/-- The restoration and the removal, with clean-ups of pointers in between. -/
theorem recovered_of_left {left : Remote}
    (current : left.current =
      (deployment.attempt .restoreOrStopFailedRelease (faults .restoreOrStopFailedRelease)
        remote).1.current)
    (runtime : left.runtime =
      (deployment.attempt .restoreOrStopFailedRelease (faults .restoreOrStopFailedRelease)
        remote).1.runtime)
    (files : left.files = remote.files) (removed : left.removed = remote.removed) :
    Recovered deployment faults remote (deployment.recover faults [.cleanupRelease] left) := by
  have cleaned := @removed_cleanup deployment faults remote left files removed
  rcases deployment.attempt_restore (faults .restoreOrStopFailedRelease) remote with
    ⟨restore, own, restored⟩
  refine ⟨cleaned.2.2, ?_, ?_⟩
  · rw [cleaned.1, current, restored]
  · rw [cleaned.2.1, runtime]

theorem recover_staged : Recovered deployment faults remote
    (deployment.recover faults
      [.restoreOrStopFailedRelease, .cleanupPreviousPointer, .cleanupRelease] remote) := by
  rcases deployment.attempt_restore (faults .restoreOrStopFailedRelease) remote with
    ⟨restore, own, restored⟩
  rcases deployment.attempt_cleanupPrevious (faults .cleanupPreviousPointer)
    (deployment.attempt .restoreOrStopFailedRelease (faults .restoreOrStopFailedRelease)
      remote).1 with ⟨previous, spare, cleared⟩
  rw [recover, recover, cleared]
  apply recovered_of_left
  · rfl
  · rfl
  · rw [restored]
  · rw [restored]

theorem recover_activated : Recovered deployment faults remote
    (deployment.recover faults
      [.restoreOrStopFailedRelease, .cleanupPendingPointer, .cleanupPreviousPointer,
        .cleanupRelease] remote) := by
  rcases deployment.attempt_restore (faults .restoreOrStopFailedRelease) remote with
    ⟨restore, own, restored⟩
  rcases deployment.attempt_cleanupPending (faults .cleanupPendingPointer)
    (deployment.attempt .restoreOrStopFailedRelease (faults .restoreOrStopFailedRelease)
      remote).1 with ⟨pending, cleaned⟩
  rcases deployment.attempt_cleanupPrevious (faults .cleanupPreviousPointer)
    { (deployment.attempt .restoreOrStopFailedRelease (faults .restoreOrStopFailedRelease)
      remote).1 with pending := pending } with ⟨previous, spare, cleared⟩
  rw [recover, recover, recover, cleaned, cleared]
  apply recovered_of_left
  · rfl
  · rfl
  · rw [restored]
  · rw [restored]

/-! ## Where `current` leads -/

/-- Behind a recovery from a script in front of the activation. -/
theorem restoredCurrent_staged (fault : Fault Leftover) (runtime : Runtime) :
    restoredCurrent deployment fault (deployment.staged remote runtime) = remote.current := by
  unfold restoredCurrent staged
  dsimp only
  rw [Function.update_self]
  cases current : remote.current with
  | link place =>
      dsimp only [captured]
      split <;> rfl
  | directory =>
      dsimp only [captured]
      exact if_neg fun both => both.2 rfl
  | absent =>
      dsimp only [captured]
      exact if_neg fun both => by cases both.1
  | file =>
      dsimp only [captured]
      exact if_neg fun both => by cases both.1

/-- The command of the restoration that takes `current` off the release. -/
def withdrawal (remote : Remote) : Nat := if (captured remote.current).isSome then 1 else 0

/-- Behind a recovery from the activation. -/
theorem restoredCurrent_activated {fault own : Fault Leftover} {pending : Option Place} :
    restoredCurrent deployment own (deployment.activated fault remote pending) =
        .link deployment.release <->
      remote.current = .link deployment.release ∨
        (fault.executes 2 = true ∧ remote.current ≠ .directory ∧
          own.executes (withdrawal remote) = false) := by
  unfold restoredCurrent activated staged withdrawal
  dsimp only
  rw [Function.update_self]
  generalize own.executes = executes
  generalize fault.executes 2 = moved
  cases current : remote.current with
  | link place => cases moved <;> cases executed : executes 1 <;> simp [captured, executed]
  | directory => simp [captured]
  | absent => cases moved <;> cases executed : executes 0 <;> simp [captured, executed]
  | file => cases moved <;> cases executed : executes 0 <;> simp [captured, executed]

/-! ## No dangling `current` -/

end Deployment

/-- `current` does not lead to a release that has been removed, and to the
release that is returned, which is there. -/
structure Safe (outcome : Remote × Option String) : Prop where
  designates : forall id, id ∈ outcome.1.removed -> outcome.1.current ≠ .link (.release id)
  active : forall id, outcome.2 = some id -> outcome.1.current = .link (.release id) ∧
    (outcome.1.files (.release id)).isSome = true

namespace Deployment

variable {deployment : Deployment} {faults : Step -> Fault Leftover} {remote : Remote}

/-- The release is removed while `current` leads to it: `current` has led there
before, or the answer of the activation is lost and the restoration stops
before it has taken `current` off the release. -/
structure Strands (deployment : Deployment) (faults : Step -> Fault Leftover) (remote : Remote) :
    Prop where
  wellFormed : isReleaseId deployment.id.toList = true
  removes : (faults .cleanupRelease).executes 0 = true
  leads :
    (remote.current = .link deployment.release ∧
        ((remote.files deployment.release).isSome = true ∨
          (faults .uploadRelease).executes 0 = true) ∧
        ¬ (deployment.Prepares faults remote ∧ Activates faults remote)) ∨
      (deployment.Prepares faults remote ∧ remote.current ≠ .directory ∧
        faults .activateRelease = .lost ∧
        (faults .restoreOrStopFailedRelease).executes (withdrawal remote) = false)

/-- A deployment that raises behind a removal. -/
theorem safe_iff_of_removed {before after : Remote}
    (removed : Removed deployment (faults .cleanupRelease) before after)
    (fresh : before.removed = []) :
    Safe (after, none) <->
      ¬ ((isReleaseId deployment.id.toList = true ∧ (faults .cleanupRelease).executes 0 = true ∧
        (before.files deployment.release).isSome = true) ∧
          after.current = .link deployment.release) := by
  have listed := removed.removed
  rw [fresh] at listed
  by_cases gone : isReleaseId deployment.id.toList = true ∧
      (faults .cleanupRelease).executes 0 = true ∧
      (before.files deployment.release).isSome = true
  · rw [if_pos gone] at listed
    constructor
    · rintro safe ⟨_, leads⟩
      exact safe.designates deployment.id (by rw [listed]; exact List.mem_cons_self) leads
    · intro other
      refine ⟨?_, fun id impossible => by cases impossible⟩
      intro id member leads
      rw [listed, List.mem_singleton] at member
      rw [member] at leads
      exact other ⟨gone, leads⟩
  · rw [if_neg gone] at listed
    refine iff_of_true ⟨?_, fun id impossible => by cases impossible⟩ fun both => gone both.1
    intro id member
    rw [listed] at member
    cases member

/-- Without an activation, `current` is what it was. -/
theorem strands_iff_of_not_prepares (failed : ¬ deployment.Prepares faults remote) :
    deployment.Strands faults remote <->
      (isReleaseId deployment.id.toList = true ∧ (faults .cleanupRelease).executes 0 = true ∧
        ((remote.files deployment.release).isSome = true ∨
          (faults .uploadRelease).executes 0 = true)) ∧
        remote.current = .link deployment.release := by
  constructor
  · rintro ⟨wellFormed, removes, ⟨leads, there, _⟩ | ⟨prepares, _⟩⟩
    · exact ⟨⟨wellFormed, removes, there⟩, leads⟩
    · exact absurd prepares failed
  · rintro ⟨⟨wellFormed, removes, there⟩, leads⟩
    exact ⟨wellFormed, removes, .inl ⟨leads, there, fun both => failed both.1⟩⟩

theorem strands_iff_of_prepares (prepares : deployment.Prepares faults remote)
    (failed : ¬ Activates faults remote) :
    deployment.Strands faults remote <->
      (isReleaseId deployment.id.toList = true ∧ (faults .cleanupRelease).executes 0 = true) ∧
        (remote.current = .link deployment.release ∨
          ((faults .activateRelease).executes 2 = true ∧ remote.current ≠ .directory ∧
            (faults .restoreOrStopFailedRelease).executes (withdrawal remote) = false)) := by
  constructor
  · rintro ⟨wellFormed, removes, ⟨leads, _, _⟩ | ⟨_, other, lost, stays⟩⟩
    · exact ⟨⟨wellFormed, removes⟩, .inl leads⟩
    · exact ⟨⟨wellFormed, removes⟩, .inr ⟨(Fault.lost_iff.mp lost).1, other, stays⟩⟩
  · rintro ⟨⟨wellFormed, removes⟩, leads | ⟨moved, other, stays⟩⟩
    · refine ⟨wellFormed, removes, .inl ⟨leads, .inr ?_, fun both => failed both.2⟩⟩
      exact Fault.executes_of_passes (by decide) prepares.upload
    · refine ⟨wellFormed, removes, .inr ⟨prepares, other, Fault.lost_iff.mpr ⟨moved, ?_⟩, stays⟩⟩
      rw [← Bool.not_eq_true]
      intro passed
      exact failed ⟨passed, other⟩

/-- A deployment leaves no dangling `current` exactly when it does not strand it.
This covers every state of the remote side and every pattern of faults: each
script may be lost behind its completion or stopped in front of or within any of
its commands.  Only the record of what has been removed starts empty. -/
theorem deploy_safe_iff (deployment : Deployment) (faults : Step -> Fault Leftover)
    (remote : Remote) (fresh : remote.removed = []) :
    Safe (deployment.deploy faults remote) <-> ¬ deployment.Strands faults remote := by
  have course := @deploy_course deployment faults remote
  generalize deployment.interrupted faults forward remote = stopped at course
  generalize deployment.deploy faults remote = outcome at course
  cases course with
  | upload files failed held =>
      have cleaned := @removed_cleanup deployment faults _
        { remote with files := Function.update remote.files deployment.release files } rfl rfl
      rw [safe_iff_of_removed cleaned.2.2 fresh, cleaned.1, strands_iff_of_not_prepares]
      · dsimp only
        rw [Function.update_self, held]
      · intro prepares
        rw [prepares.upload] at failed
        cases failed
  | capture previous files held uploaded failed =>
      have cleaned := @removed_cleanup deployment faults _
        { remote with
          files := Function.update remote.files deployment.release files
          previous := Function.update remote.previous deployment.id previous } rfl rfl
      rw [safe_iff_of_removed cleaned.2.2 fresh, cleaned.1, strands_iff_of_not_prepares]
      · dsimp only
        rw [Function.update_self, held, Fault.executes_of_passes (by decide : 0 < 2) uploaded]
        simp only [or_true]
      · intro prepares
        exact failed prepares.toCaptures
  | staging runtime captures failed =>
      have recovered := @recover_staged deployment faults (deployment.staged remote runtime)
      rw [safe_iff_of_removed recovered.toRemoved fresh, recovered.current,
        restoredCurrent_staged, strands_iff_of_not_prepares failed]
      unfold staged
      dsimp only
      rw [Function.update_self, Fault.executes_of_passes (by decide : 0 < 2) captures.upload,
        Option.isSome_some]
      simp only [or_true]
  | activation pending prepares failed =>
      have recovered := @recover_activated deployment faults
        (deployment.activated (faults .activateRelease) remote pending)
      rw [safe_iff_of_removed recovered.toRemoved fresh, recovered.current,
        restoredCurrent_activated, strands_iff_of_prepares prepares failed]
      unfold activated staged
      dsimp only
      rw [Function.update_self, Option.isSome_some]
      simp only [and_true]
  | returned pending prepares activates =>
      rcases deployment.attempt_cleanupPrevious (faults .cleanupPreviousPointer)
        (deployment.activated (faults .activateRelease) remote pending) with
        ⟨previous, spare, cleared⟩
      rw [cleared]
      refine iff_of_true ?_ ?_
      · constructor
        · intro id member
          dsimp only [activated, staged] at member
          rw [fresh] at member
          cases member
        · rintro id ⟨⟩
          unfold activated staged
          dsimp only
          rw [if_pos ⟨Fault.executes_of_passes (by decide) activates.activation,
            activates.replaceable⟩]
          refine ⟨rfl, ?_⟩
          change (Function.update remote.files deployment.release _ deployment.release).isSome = true
          rw [Function.update_self]
          rfl
      · rintro ⟨_, _, ⟨_, _, other⟩ | ⟨_, _, lost, _⟩⟩
        · exact other ⟨prepares, activates⟩
        · have passed := activates.activation
          rw [lost] at passed
          cases passed

end Deployment

/-! ## A project with one release -/

def sampleDeployment : Deployment where
  plan :=
    { projectRoot := "/home/dev/shop", projectName := "shop"
      target :=
        { host := "server.example", user := "deploy", port := 22, remoteBase := "/srv/shop"
          identityFile := none }
      releaseId := "r20250102T030405Z-7", composeFile := "compose.yaml" }
  archive := ["compose.yaml", "manage.py"]

def samplePrevious : Place := .release "r20250101T000000Z-3"

/-- The previous release runs, and its directory holds these files. -/
def sampleRemote (files : List String) : Remote where
  current := .link samplePrevious
  pending := fun _ => none
  previous := fun _ => none
  restore := fun _ => none
  files := fun place => if place = samplePrevious then some files else none
  environment := true
  runtime := .running samplePrevious
  removed := []

/-- The answer of the activation is lost, and the restoration never starts. -/
def lostFaults : Step -> Fault Leftover
  | .activateRelease => .lost
  | .restoreOrStopFailedRelease => .stop 0 ⟨[], .mixed⟩
  | _ => .fine

theorem lost_activation_strands :
    ¬ Safe (sampleDeployment.deploy lostFaults (sampleRemote ["compose.yaml"])) := by
  intro safe
  exact safe.designates sampleDeployment.id (by decide +kernel) (by decide +kernel)

/-- The answer of the activation is lost, and the recovery works. -/
def recoveredFaults : Step -> Fault Leftover
  | .activateRelease => .lost
  | _ => .fine

/-- The deployment raises, and its release is removed behind the restoration
that has taken `current` off it. -/
theorem deploy_safe_recovered :
    (sampleDeployment.deploy recoveredFaults (sampleRemote ["compose.yaml"])).2 = none ∧
      Safe (sampleDeployment.deploy recoveredFaults (sampleRemote ["compose.yaml"])) := by
  refine ⟨by decide +kernel, ?_⟩
  rw [sampleDeployment.deploy_safe_iff _ _ rfl]
  rintro ⟨_, _, ⟨leads, _⟩ | ⟨_, _, _, stays⟩⟩
  · exact absurd leads (by decide)
  · cases stays

end Deploy
end Cli
end DjangoOps
