import DjangoOps.Cli.Target
import DjangoOps.Foundation.FaultyScript

namespace DjangoOps
namespace Cli
namespace Deploy

open FaultyScript

/-!
# The remote side of a deployment

The files and links below the base directory of a target, and what the commands
of a deployment do to them.  The private links of a deployment bear the id of
its release; nothing else makes them, and so they are links or not there.

Of Compose it is assumed that `up` makes the containers of the project those of
the directory it is run in, without orphans of services that only another
release declares, and that `down` removes them.
-/

/-- A place that a link can lead to: `current` itself as a plain directory, the
directory of a release, or a path elsewhere. -/
inductive Place
  | current
  | release (id : String)
  | other (path : String)
  deriving DecidableEq

inductive Node
  | absent
  | file
  | directory
  | link (place : Place)
  deriving DecidableEq

/-- The Compose project: stopped, started from one place, or in between. -/
inductive Runtime
  | stopped
  | running (place : Place)
  | mixed
  deriving DecidableEq

/-- A directory that exists has files.  `removed` records the releases whose
directory has been removed. -/
structure Remote where
  current : Node
  pending : String -> Option Place
  previous : String -> Option Place
  restore : String -> Option Place
  files : Place -> Option (List String)
  environment : Bool
  runtime : Runtime
  removed : List String

/-- What a command that fails half-way leaves of files and containers. -/
structure Leftover where
  files : List String
  runtime : Runtime
  deriving DecidableEq

/-- A plan with the names of the files in its archive. -/
structure Deployment where
  plan : DeploymentPlan
  archive : List String

namespace Deployment

variable (deployment : Deployment)

def id : String := deployment.plan.releaseId

/-- `plan.release_dir` as a place. -/
def release : Place := .release deployment.id

end Deployment

/-- A command of a remote script. -/
inductive Action
  /-- `mkdir -p {release}` -/
  | makeRelease
  /-- `tar -xzf - -C {release}` -/
  | extract
  /-- `previous_target=$(readlink -f -- {current}); test -n "$previous_target"` -/
  | resolveCurrent
  /-- `ln -sfn -- "$previous_target" {previous}` -/
  | linkPrevious (place : Place)
  /-- `rm -f -- {previous}` -/
  | clearPrevious
  /-- `test -f {shared_env}` -/
  | testEnvironment
  /-- `ln -sfn {shared_env} {release}/.env` -/
  | linkEnvironment
  /-- `cd` -/
  | enter (place : Place)
  /-- `{compose} up -d --build` -/
  | up (place : Place)
  /-- `{compose} exec -T web ...` -/
  | exec (place : Place)
  /-- `{compose} down` -/
  | down (place : Place)
  /-- `mkdir -p {base}/releases {base}/shared` -/
  | makeShared
  /-- `ln -sfn {release} {pending}` -/
  | linkPending
  /-- `mv -Tf {pending} {current}` -/
  | movePending
  /-- `ln -sfn -- "$previous_target" {restore}` -/
  | linkRestore (place : Place)
  /-- `mv -Tf {restore} {current}` -/
  | moveRestore
  /-- `rm -f -- {current}` -/
  | clearCurrent
  /-- `rm -f -- {pending}` -/
  | removePending
  /-- `rm -f -- {previous} {restore}` -/
  | removePointers
  /-- `rm -rf -- {release}` -/
  | removeRelease
  deriving DecidableEq

namespace Remote

variable (remote : Remote)

/-- `mv -Tf` of a link onto `current`, which must not be a directory. -/
@[simp] def point (source : Option Place) : Option Remote :=
  match source with
  | none => none
  | some place =>
      if remote.current = .directory then none else some { remote with current := .link place }

/-- The directory holds the Compose file of the plan. -/
def composes (deployment : Deployment) (place : Place) : Bool :=
  decide (deployment.plan.composeFile ∈ (remote.files place).getD [])

/-- The effect of a command that succeeds; without a value it fails. -/
@[simp] def apply (deployment : Deployment) : Action -> Remote -> Option Remote
  | .makeRelease, remote =>
      some { remote with
        files := Function.update remote.files deployment.release
          (some ((remote.files deployment.release).getD [])) }
  | .extract, remote =>
      (remote.files deployment.release).map fun files =>
        { remote with
          files := Function.update remote.files deployment.release
            (some (deployment.archive ++ files)) }
  | .resolveCurrent, remote => if remote.current = .link .current then none else some remote
  | .linkPrevious place, remote =>
      some { remote with previous := Function.update remote.previous deployment.id (some place) }
  | .clearPrevious, remote =>
      some { remote with previous := Function.update remote.previous deployment.id none }
  | .testEnvironment, remote => if remote.environment then some remote else none
  | .linkEnvironment, remote =>
      if (remote.files deployment.release).isSome then some remote else none
  | .enter place, remote => if (remote.files place).isSome then some remote else none
  | .up place, remote =>
      if remote.composes deployment place then some { remote with runtime := .running place }
      else none
  | .exec place, remote => if remote.composes deployment place then some remote else none
  | .down place, remote =>
      if remote.composes deployment place then some { remote with runtime := .stopped } else none
  | .makeShared, remote => some remote
  | .linkPending, remote =>
      some { remote with
        pending := Function.update remote.pending deployment.id (some deployment.release) }
  | .movePending, remote =>
      (remote.point (remote.pending deployment.id)).map fun moved =>
        { moved with pending := Function.update moved.pending deployment.id none }
  | .linkRestore place, remote =>
      some { remote with restore := Function.update remote.restore deployment.id (some place) }
  | .moveRestore, remote =>
      (remote.point (remote.restore deployment.id)).map fun moved =>
        { moved with restore := Function.update moved.restore deployment.id none }
  | .clearCurrent, remote =>
      if remote.current = .directory then none else some { remote with current := .absent }
  | .removePending, remote =>
      some { remote with pending := Function.update remote.pending deployment.id none }
  | .removePointers, remote =>
      some { remote with
        previous := Function.update remote.previous deployment.id none
        restore := Function.update remote.restore deployment.id none }
  | .removeRelease, remote =>
      some { remote with
        files := Function.update remote.files deployment.release none
        removed := if (remote.files deployment.release).isSome then deployment.id :: remote.removed
          else remote.removed }

/-- What a command leaves that fails half-way. -/
@[simp] def partly (deployment : Deployment) : Action -> Leftover -> Remote -> Remote
  | .extract, left, remote =>
      { remote with
        files := Function.update remote.files deployment.release
          ((remote.files deployment.release).map fun _ => left.files) }
  | .removeRelease, left, remote =>
      { remote with
        files := Function.update remote.files deployment.release
          ((remote.files deployment.release).map fun _ => left.files) }
  | .up _, left, remote => { remote with runtime := left.runtime }
  | .exec _, left, remote => { remote with runtime := left.runtime }
  | .down _, left, remote => { remote with runtime := left.runtime }
  | _, _, remote => remote

end Remote

namespace Deployment

@[simp] def semantics (deployment : Deployment) : Semantics Remote Action Leftover where
  apply := Remote.apply deployment
  partly := Remote.partly deployment

end Deployment

/-! ## Commands that touch the containers only -/

def Action.onContainers : Action -> Bool
  | .testEnvironment => true
  | .linkEnvironment => true
  | .enter _ => true
  | .up _ => true
  | .exec _ => true
  | .down _ => true
  | _ => false

namespace Remote

variable {deployment : Deployment}

theorem isSome_of_composes {remote : Remote} {place : Place}
    (held : remote.composes deployment place = true) : (remote.files place).isSome = true := by
  unfold composes at held
  cases files : remote.files place with
  | some _ => rfl
  | none =>
      rw [files] at held
      exact absurd held (by simp)

theorem apply_onContainers {action : Action} (touches : action.onContainers = true)
    {before after : Remote} (stepped : before.apply deployment action = some after) :
    after = { before with runtime := after.runtime } := by
  have guarded {condition : Prop} [Decidable condition] {made : Remote}
      (same : made = { before with runtime := made.runtime })
      (kept : (if condition then some made else none) = some after) :
      after = { before with runtime := after.runtime } := by
    split at kept
    · cases kept
      exact same
    · cases kept
  cases action with
  | testEnvironment => exact guarded rfl stepped
  | linkEnvironment => exact guarded rfl stepped
  | enter place => exact guarded rfl stepped
  | up place => exact guarded rfl stepped
  | exec place => exact guarded rfl stepped
  | down place => exact guarded rfl stepped
  | _ => cases touches

theorem partly_onContainers {action : Action} (touches : action.onContainers = true)
    (left : Leftover) (before : Remote) :
    before.partly deployment action left =
      { before with runtime := (before.partly deployment action left).runtime } := by
  cases action with
  | testEnvironment | linkEnvironment | enter | up | exec | down => rfl
  | _ => cases touches

end Remote

end Deploy
end Cli
end DjangoOps
