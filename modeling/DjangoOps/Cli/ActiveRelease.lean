import DjangoOps.Cli.RemoteBase
import DjangoOps.Cli.DeployOutcome

namespace DjangoOps
namespace Cli
namespace Deploy

open FaultyScript

/-!
# The release that the health check finds

A deployment links `current` to a path that starts with the base as it is
written.  The check `active_release` resolves the link and compares the result
with a pattern that starts with the base as it is written, too, but what
`readlink -f` prints is canonical.
-/

/-- `test -d "$release"` -/
def Remote.isDirectory (remote : Remote) : Bool :=
  match remote.current with
  | .link place => (remote.files place).isSome
  | .directory => true
  | _ => false

namespace Deployment

variable (deployment : Deployment)

/-- The text of a link to a place. -/
def spelling : Place -> String
  | .current => deployment.plan.currentPath
  | .release id => deployment.plan.target.remoteBase ++ "/releases/" ++ id
  | .other path => path

/-- `readlink -f -- {current}`, where no directory on the way is a link.  It
prints nothing for a link that leads to itself. -/
def readlink (remote : Remote) : List Char :=
  match remote.current with
  | .link .current => []
  | .link place => PosixPath.canonical (deployment.spelling place).toList
  | _ => PosixPath.canonical deployment.plan.currentPath.toList

/-- The check `active_release` of `_health_remote_command` emits `PASS`.  The
quoted base of the pattern stands for itself, and the star for any text. -/
def activeRelease (remote : Remote) : Bool :=
  (deployment.plan.target.remoteBase ++ "/releases/").toList.isPrefixOf
    (deployment.readlink remote) && remote.isDirectory

end Deployment

/-- Behind a deployment that returns, `current` leads to its release. -/
theorem active_of_returned {deployment : Deployment} {faults : Step -> Fault Leftover}
    {remote : Remote} {id : String} (returned : (deployment.deploy faults remote).2 = some id) :
    id = deployment.id ∧
      (deployment.deploy faults remote).1.current = .link deployment.release ∧
      ((deployment.deploy faults remote).1.files deployment.release).isSome = true := by
  have course := @Deployment.deploy_course deployment faults remote
  generalize deployment.interrupted faults Deployment.forward remote = stopped at course
  generalize deployment.deploy faults remote = outcome at course returned
  cases course with
  | returned pending prepares activates =>
      rcases deployment.attempt_cleanupPrevious (faults .cleanupPreviousPointer)
        (deployment.activated (faults .activateRelease) remote pending) with
        ⟨previous, spare, cleared⟩
      rw [cleared]
      unfold Deployment.activated Deployment.staged
      dsimp only
      rw [Function.update_self, if_pos ⟨Fault.executes_of_passes (by decide) activates.activation,
        activates.replaceable⟩]
      exact ⟨(Option.some.inj returned).symm, rfl, rfl⟩
  | _ => cases returned

/-- What stands behind the base in the path of a release. -/
def belowBase (id : List Char) : List Char := "releases".toList ++ '/' :: id

theorem names_belowBase {id : List Char} (plain : PlainName id) :
    PosixPath.names (belowBase id) = PosixPath.segments (belowBase id) ∧
      PosixPath.names (belowBase id) ≠ [] := by
  have releases : PlainName "releases".toList := ⟨by decide, by decide, by decide, by decide⟩
  unfold belowBase
  rw [PosixPath.names_append, PosixPath.segments_append, releases.names, plain.names,
    PosixPath.segments_of_solid releases.solid, PosixPath.segments_of_solid plain.solid]
  exact ⟨rfl, List.cons_ne_nil _ _⟩

/-- The path of a release, resolved, starts with the base exactly when the base
is canonical. -/
theorem starts_canonical_iff {base id : List Char} (plain : PlainName id)
    (absolute : base.head? = some '/') (written : base ≠ ['/']) :
    base ++ "/releases/".toList <+: PosixPath.canonical (base ++ '/' :: belowBase id) <->
      PosixPath.canonical base = base := by
  rcases names_belowBase plain with ⟨named, some⟩
  constructor
  · intro starts
    refine PosixPath.canonical_of_starts absolute ?_ (List.IsPrefix.trans ?_ starts)
    · rw [PosixPath.names_append]
      exact fun none => some (List.append_eq_nil_iff.mp none).2
    · exact ⟨"releases/".toList, List.append_assoc _ _ _⟩
  · intro spelled
    rw [PosixPath.canonical_below named written spelled]
    exact ⟨id, List.append_assoc _ _ _⟩

/-- The health check finds what a deployment has activated exactly when the base
is spelled canonically: it looks for the base, as it is written, at the front of
the path that `current` resolves to.  Between the two anything may happen but to
the link and the release itself. -/
theorem active_release_iff (deployment : Deployment) (faults : Step -> Fault Leftover)
    (remote later : Remote) (isFile : String -> Bool) (host user : String) (port : Int)
    (remoteBase : String) (identityFile : Option String) (yearWidth : Nat) (now : Moment)
    (pid : Nat)
    (created : DeploymentTarget.create isFile host user port remoteBase identityFile =
      .ok deployment.plan.target)
    (drawn : deployment.plan.releaseId = releaseId yearWidth now pid)
    (returned : (deployment.deploy faults remote).2 = some deployment.plan.releaseId)
    (current : later.current = (deployment.deploy faults remote).1.current)
    (files : later.files deployment.release =
      (deployment.deploy faults remote).1.files deployment.release) :
    deployment.activeRelease later = true <->
      PosixPath.canonical remoteBase.toList = remoteBase.toList := by
  rcases DeploymentTarget.create_ok created with ⟨base, accepted⟩
  rcases validateRemoteBase_ok accepted with ⟨_, absolute, _, other⟩
  rcases active_of_returned returned with ⟨_, leads, there⟩
  rw [leads] at current
  rw [← files] at there
  have plain := plainName_releaseId yearWidth now pid
  rw [← drawn] at plain
  have written : remoteBase.toList ≠ ['/'] := fun same => other (String.toList_inj.mp same)
  have resolved : deployment.readlink later =
      PosixPath.canonical (remoteBase.toList ++ '/' :: belowBase deployment.id.toList) := by
    unfold Deployment.readlink
    rw [current]
    change PosixPath.canonical (deployment.plan.target.remoteBase ++ "/releases/" ++
      deployment.id).toList = _
    rw [base, String.toList_append, String.toList_append, List.append_assoc]
    rfl
  have directory : later.isDirectory = true := by
    unfold Remote.isDirectory
    rw [current]
    exact there
  unfold Deployment.activeRelease
  rw [resolved, directory, Bool.and_true, List.isPrefixOf_iff_prefix, base, String.toList_append]
  exact starts_canonical_iff plain absolute written

/-- The sample, deployed to a base with a slash at its end. -/
def slashDeployment : Deployment :=
  { sampleDeployment with
    plan :=
      { sampleDeployment.plan with
        target := { sampleDeployment.plan.target with remoteBase := "/srv/shop/" } } }

theorem slash_not_recognised :
    DeploymentTarget.create (fun _ => false) "server.example" "deploy" 22 "/srv/shop/" none =
        .ok slashDeployment.plan.target ∧
      (slashDeployment.deploy (fun _ => .fine) (sampleRemote ["compose.yaml"])).2 =
        some slashDeployment.plan.releaseId ∧
      slashDeployment.activeRelease
        (slashDeployment.deploy (fun _ => .fine) (sampleRemote ["compose.yaml"])).1 = false := by
  refine ⟨rfl, ?_, ?_⟩
  · decide +kernel
  · decide +kernel

theorem active_release_recognised :
    sampleDeployment.activeRelease
      (sampleDeployment.deploy (fun _ => .fine) (sampleRemote ["compose.yaml"])).1 = true := by
  refine (active_release_iff sampleDeployment (fun _ => .fine) (sampleRemote ["compose.yaml"]) _
    (fun _ => false) "server.example" "deploy" 22 "/srv/shop" none 4 ⟨2025, 1, 2, 3, 4, 5⟩ 7 rfl
    (by decide +kernel) (by decide +kernel) rfl rfl).mpr ?_
  decide +kernel

end Deploy
end Cli
end DjangoOps
