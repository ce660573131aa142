import DjangoOps.Cli.Remote

namespace DjangoOps
namespace Cli
namespace Deploy

open FaultyScript

/-!
# A deployment

`deploy_project` runs one remote script after the other.  A script that fails
is answered with the scripts of an exception handler, whose own failures are
ignored.
-/

/-- `_RELEASE_RE.fullmatch` -/
def isReleaseId (text : List Char) : Bool :=
  let date := (text.drop 1).take 8
  let time := (text.drop 10).take 6
  let process := text.drop 18
  decide (text.take 1 = ['r']) && decide (date.length = 8) && date.all Char.isDigit &&
    decide ((text.drop 9).take 1 = ['T']) && decide (time.length = 6) && time.all Char.isDigit &&
    decide ((text.drop 16).take 2 = ['Z', '-']) && decide (process ≠ []) &&
    process.all Char.isDigit

/-- The remote scripts, under the names of their functions. -/
inductive Step
  | uploadRelease
  | capturePreviousCurrent
  | startRelease
  | migrationPreflight
  | runMigrations
  | activateRelease
  | restoreOrStopFailedRelease
  | cleanupPendingPointer
  | cleanupPreviousPointer
  | cleanupRelease
  deriving DecidableEq

namespace Deployment

variable (deployment : Deployment)

/-- What `_capture_previous_current` saves. -/
def captured : Node -> Option Place
  | .link place => some place
  | .directory => some .current
  | _ => none

/-- The clean-up functions return at once when the id has another form. -/
def guarded (actions : List Action) : List Action :=
  if isReleaseId deployment.id.toList then actions else []

/-- The commands of a script.  Its tests are made before anything is changed. -/
def commands (remote : Remote) : Step -> List Action
  | .uploadRelease => [.makeRelease, .extract]
  | .capturePreviousCurrent =>
      match captured remote.current with
      | some place => [.resolveCurrent, .linkPrevious place]
      | none => [.clearPrevious]
  | .startRelease =>
      [.testEnvironment, .linkEnvironment, .enter deployment.release, .up deployment.release]
  | .migrationPreflight => [.enter deployment.release, .exec deployment.release]
  | .runMigrations => [.enter deployment.release, .exec deployment.release]
  | .activateRelease => [.makeShared, .linkPending, .movePending]
  | .restoreOrStopFailedRelease =>
      match remote.previous deployment.id with
      | some place => [.linkRestore place, .moveRestore, .enter place, .up place]
      | none =>
          (if remote.current = .link deployment.release then [.clearCurrent] else []) ++
            [.enter deployment.release, .down deployment.release]
  | .cleanupPendingPointer => deployment.guarded [.removePending]
  | .cleanupPreviousPointer => deployment.guarded [.removePointers]
  | .cleanupRelease => deployment.guarded [.removeRelease]

/-- One remote script: the state behind it, and whether `_run_ssh` returns. -/
def attempt (step : Step) (fault : Fault Leftover) (remote : Remote) : Remote × Bool :=
  deployment.semantics.run (deployment.commands remote step) fault remote

/-- The scripts of the exception handler of a script. -/
def recovery : Step -> List Step
  | .uploadRelease => [.cleanupRelease]
  | .capturePreviousCurrent => [.cleanupRelease]
  | .startRelease => [.restoreOrStopFailedRelease, .cleanupPreviousPointer, .cleanupRelease]
  | .migrationPreflight => [.restoreOrStopFailedRelease, .cleanupPreviousPointer, .cleanupRelease]
  | .runMigrations => [.restoreOrStopFailedRelease, .cleanupPreviousPointer, .cleanupRelease]
  | .activateRelease =>
      [.restoreOrStopFailedRelease, .cleanupPendingPointer, .cleanupPreviousPointer,
        .cleanupRelease]
  | _ => []

/-- Scripts whose failures are ignored. -/
def recover (faults : Step -> Fault Leftover) : List Step -> Remote -> Remote
  | [], remote => remote
  | step :: rest, remote => recover faults rest (deployment.attempt step (faults step) remote).1

/-- The scripts in front of the return; the value is the id, if it is returned. -/
def proceed (faults : Step -> Fault Leftover) : List Step -> Remote -> Remote × Option String
  | [], remote =>
      ((deployment.attempt .cleanupPreviousPointer (faults .cleanupPreviousPointer) remote).1,
        some deployment.id)
  | step :: rest, remote =>
      let tried := deployment.attempt step (faults step) remote
      if tried.2 then proceed faults rest tried.1
      else (deployment.recover faults (recovery step) tried.1, none)

/-- `deploy_project`, from the upload on; each script has its fault. -/
def deploy (faults : Step -> Fault Leftover) (remote : Remote) : Remote × Option String :=
  deployment.proceed faults
    [.uploadRelease, .capturePreviousCurrent, .startRelease, .migrationPreflight, .runMigrations,
      .activateRelease] remote

end Deployment

/-! ## What a script changes -/

namespace Deployment

variable {deployment : Deployment}

/-- The upload makes the directory and fills it. -/
theorem attempt_upload (fault : Fault Leftover) (remote : Remote) :
    Exists fun files : Option (List String) =>
      deployment.attempt .uploadRelease fault remote =
          ({ remote with files := Function.update remote.files deployment.release files },
            fault.passes 2) ∧
        (files.isSome = true <-> (remote.files deployment.release).isSome = true ∨
          fault.executes 0 = true) ∧
        (fault.passes 2 = true ->
          files = some (deployment.archive ++ (remote.files deployment.release).getD [])) := by
  let files := deployment.archive ++ (remote.files deployment.release).getD []
  unfold attempt
  rcases fault with _ | _ | ⟨_ | _ | index, left⟩
  · exact ⟨some files, by simp [commands, files]⟩
  · exact ⟨some files, by simp [commands, files]⟩
  · exact ⟨remote.files deployment.release, by simp [commands]⟩
  · exact ⟨some left.files, by simp [commands]⟩
  · exact ⟨some files, by simp [commands, files]⟩

/-- The pointer to the previous release is made or removed. -/
theorem attempt_capture (fault : Fault Leftover) (remote : Remote) :
    Exists fun previous : Option Place =>
      deployment.attempt .capturePreviousCurrent fault remote =
          ({ remote with
              previous := Function.update remote.previous deployment.id previous },
            fault.passes (if (captured remote.current).isSome then 2 else 1) &&
              decide (remote.current ≠ .link .current)) ∧
        ((deployment.attempt .capturePreviousCurrent fault remote).2 = true ->
          previous = captured remote.current) := by
  rcases remote with ⟨current, pending, saved, restore, files, environment, runtime, removed⟩
  unfold attempt
  cases current with
  | absent =>
      rcases fault with _ | _ | ⟨_ | index, left⟩
      · exact ⟨none, by simp [commands, captured]⟩
      · exact ⟨none, by simp [commands, captured]⟩
      · exact ⟨saved deployment.id, by simp [commands, captured]⟩
      · exact ⟨none, by simp [commands, captured]⟩
  | file =>
      rcases fault with _ | _ | ⟨_ | index, left⟩
      · exact ⟨none, by simp [commands, captured]⟩
      · exact ⟨none, by simp [commands, captured]⟩
      · exact ⟨saved deployment.id, by simp [commands, captured]⟩
      · exact ⟨none, by simp [commands, captured]⟩
  | directory =>
      rcases fault with _ | _ | ⟨_ | _ | index, left⟩
      · exact ⟨some .current, by simp [commands, captured]⟩
      · exact ⟨some .current, by simp [commands, captured]⟩
      · exact ⟨saved deployment.id, by simp [commands, captured]⟩
      · exact ⟨saved deployment.id, by simp [commands, captured]⟩
      · exact ⟨some .current, by simp [commands, captured]⟩
  | link place =>
      by_cases loop : place = .current
      · refine ⟨saved deployment.id, ?_⟩
        rcases fault with _ | _ | ⟨_ | _ | index, left⟩
        all_goals simp [commands, captured, loop]
      · rcases fault with _ | _ | ⟨_ | _ | index, left⟩
        · exact ⟨some place, by simp [commands, captured, loop]⟩
        · exact ⟨some place, by simp [commands, captured, loop]⟩
        · exact ⟨saved deployment.id, by simp [commands, captured]⟩
        · exact ⟨saved deployment.id, by simp [commands, captured, loop]⟩
        · exact ⟨some place, by simp [commands, captured, loop]⟩

theorem run_onContainers {actions : List Action} (all : actions.all Action.onContainers = true)
    (fault : Fault Leftover) (remote : Remote) :
    (deployment.semantics.run actions fault remote).1 =
      { remote with runtime := (deployment.semantics.run actions fault remote).1.runtime } := by
  refine @Semantics.run_invariant _ _ _ deployment.semantics
    (fun after => after = { remote with runtime := after.runtime }) _ ?_ ?_ fault remote rfl
  · intro action listed before after same stepped
    have touched := Remote.apply_onContainers (List.all_eq_true.mp all action listed) stepped
    rw [same] at touched
    exact touched
  · intro action listed left before same
    refine (Remote.partly_onContainers (List.all_eq_true.mp all action listed) left before).trans ?_
    exact congrArg (fun reached : Remote =>
      { reached with runtime := (before.partly deployment action left).runtime }) same

theorem follow_start (remote : Remote) :
    deployment.semantics.follow (deployment.commands remote .startRelease) remote =
      if remote.environment = true ∧ remote.composes deployment deployment.release = true then
        some { remote with runtime := .running deployment.release }
      else none := by
  cases environment : remote.environment with
  | false => simp [commands, environment]
  | true =>
      cases there : (remote.files deployment.release).isSome with
      | true =>
          cases held : remote.composes deployment deployment.release with
          | true => simp [commands, environment, there, held]
          | false => simp [commands, environment, there, held]
      | false =>
          have held : remote.composes deployment deployment.release = false := by
            rw [Bool.eq_false_iff]
            intro held
            rw [Remote.isSome_of_composes held] at there
            cases there
          simp [commands, environment, there, held]

/-- The start touches the containers only. -/
theorem attempt_start (fault : Fault Leftover) (remote : Remote) :
    Exists fun runtime : Runtime =>
      (deployment.attempt .startRelease fault remote).1 = { remote with runtime := runtime } ∧
        ((deployment.attempt .startRelease fault remote).2 = true <->
          fault.passes 4 = true ∧ remote.environment = true ∧
            remote.composes deployment deployment.release = true) ∧
        ((deployment.attempt .startRelease fault remote).2 = true ->
          runtime = .running deployment.release) := by
  refine ⟨_, run_onContainers rfl fault remote, ?_, ?_⟩
  · unfold attempt
    rw [Semantics.run_succeeded, follow_start]
    refine and_congr Iff.rfl ?_
    by_cases ready : remote.environment = true ∧
        remote.composes deployment deployment.release = true
    · rw [if_pos ready]
      exact iff_of_true rfl ready
    · rw [if_neg ready]
      exact iff_of_false Bool.false_ne_true ready
  · intro succeeded
    have followed := Semantics.follow_of_succeeded succeeded
    rw [follow_start] at followed
    split at followed
    · exact congrArg Remote.runtime (Option.some.inj followed).symm
    · cases followed

theorem follow_exec (remote : Remote) :
    deployment.semantics.follow [.enter deployment.release, .exec deployment.release] remote =
      if remote.composes deployment deployment.release = true then some remote else none := by
  cases there : (remote.files deployment.release).isSome with
  | true => simp [there]
  | false =>
      have held : remote.composes deployment deployment.release = false := by
        rw [Bool.eq_false_iff]
        intro held
        rw [Remote.isSome_of_composes held] at there
        cases there
      simp [there, held]

/-- So does a command in the web container. -/
theorem attempt_exec {step : Step} {remote : Remote}
    (script : deployment.commands remote step =
      [.enter deployment.release, .exec deployment.release]) (fault : Fault Leftover) :
    Exists fun runtime : Runtime =>
      (deployment.attempt step fault remote).1 = { remote with runtime := runtime } ∧
        ((deployment.attempt step fault remote).2 = true <->
          fault.passes 2 = true ∧ remote.composes deployment deployment.release = true) ∧
        ((deployment.attempt step fault remote).2 = true -> runtime = remote.runtime) := by
  unfold attempt
  rw [script]
  refine ⟨_, run_onContainers rfl fault remote, ?_, ?_⟩
  · rw [Semantics.run_succeeded, follow_exec]
    refine and_congr Iff.rfl ?_
    by_cases held : remote.composes deployment deployment.release = true
    · rw [if_pos held]
      exact iff_of_true rfl held
    · rw [if_neg held]
      exact iff_of_false Bool.false_ne_true held
  · intro succeeded
    have followed := Semantics.follow_of_succeeded succeeded
    rw [follow_exec] at followed
    split at followed
    · exact congrArg Remote.runtime (Option.some.inj followed).symm
    · cases followed

/-- The activation moves `current` unless it is a plain directory. -/
theorem attempt_activate (fault : Fault Leftover) (remote : Remote) :
    Exists fun pending : Option Place =>
      deployment.attempt .activateRelease fault remote =
        ({ remote with
            current :=
              if fault.executes 2 = true ∧ remote.current ≠ .directory then
                .link deployment.release
              else remote.current
            pending := Function.update remote.pending deployment.id pending },
          fault.passes 3 && decide (remote.current ≠ .directory)) := by
  rcases remote with ⟨current, pending, saved, restore, files, environment, runtime, removed⟩
  unfold attempt
  by_cases plain : current = .directory
  · rcases fault with _ | _ | ⟨_ | _ | _ | index, left⟩
    · exact ⟨some deployment.release, by simp [commands, plain]⟩
    · exact ⟨some deployment.release, by simp [commands, plain]⟩
    · exact ⟨pending deployment.id, by simp [commands, plain]⟩
    · exact ⟨pending deployment.id, by simp [commands, plain]⟩
    · exact ⟨some deployment.release, by simp [commands, plain]⟩
    · exact ⟨some deployment.release, by simp [commands, plain]⟩
  · rcases fault with _ | _ | ⟨_ | _ | _ | index, left⟩
    · exact ⟨none, by simp [commands, plain]⟩
    · exact ⟨none, by simp [commands, plain]⟩
    · exact ⟨pending deployment.id, by simp [commands, plain]⟩
    · exact ⟨pending deployment.id, by simp [commands, plain]⟩
    · exact ⟨some deployment.release, by simp [commands, plain]⟩
    · exact ⟨none, by simp [commands, plain]⟩

/-- Where `current` is behind the restoration. -/
def restoredCurrent (deployment : Deployment) (fault : Fault Leftover) (remote : Remote) : Node :=
  match remote.previous deployment.id with
  | some place =>
      if fault.executes 1 = true ∧ remote.current ≠ .directory then .link place else remote.current
  | none =>
      if remote.current = .link deployment.release ∧ fault.executes 0 = true then .absent
      else remote.current

/-- The restoration moves `current`, or clears it, and then turns to the containers. -/
theorem attempt_restore (fault : Fault Leftover) (remote : Remote) :
    Exists fun restore : Option Place => Exists fun runtime : Runtime =>
      (deployment.attempt .restoreOrStopFailedRelease fault remote).1 =
        { remote with
          current := restoredCurrent deployment fault remote
          restore := Function.update remote.restore deployment.id restore
          runtime := runtime } := by
  cases saved : remote.previous deployment.id with
  | some place =>
      have script : deployment.commands remote .restoreOrStopFailedRelease =
          [.linkRestore place, .moveRestore, .enter place, .up place] := by
        simp only [commands, saved]
      unfold attempt restoredCurrent
      rw [script, saved]
      dsimp only
      cases first : fault.executes 0 with
      | false =>
          rcases Fault.eq_stop first with ⟨left, rfl⟩
          exact ⟨remote.restore deployment.id, remote.runtime, by simp⟩
      | true =>
          let linked : Remote :=
            { remote with restore := Function.update remote.restore deployment.id (some place) }
          rw [Semantics.run_cons_some first (rfl : _ = some linked)]
          cases second : fault.executes 1 with
          | false =>
              rw [← Fault.later_executes] at second
              rcases Fault.eq_stop second with ⟨left, same⟩
              rw [same]
              exact ⟨some place, remote.runtime, by simp [linked]⟩
          | true =>
              rw [← Fault.later_executes] at second
              by_cases plain : remote.current = .directory
              · rw [Semantics.run_cons_none second (by simp [linked, plain])]
                exact ⟨some place, remote.runtime, by simp [linked, plain]⟩
              · let moved : Remote :=
                  { linked with
                    current := .link place
                    restore := Function.update linked.restore deployment.id none }
                have stepped : deployment.semantics.apply .moveRestore linked = some moved := by
                  simp [linked, moved, plain]
                rw [Semantics.run_cons_some second stepped]
                refine ⟨none, (deployment.semantics.run [.enter place, .up place]
                  fault.later.later moved).1.runtime, ?_⟩
                rw [run_onContainers rfl fault.later.later moved]
                simp only [moved, linked, plain, Function.update_idem, ne_eq, not_false_eq_true,
                  and_self, if_true]
  | none =>
      have script : deployment.commands remote .restoreOrStopFailedRelease =
          (if remote.current = .link deployment.release then [.clearCurrent] else []) ++
            [.enter deployment.release, .down deployment.release] := by
        simp only [commands, saved]
      unfold attempt restoredCurrent
      rw [script, saved]
      dsimp only
      by_cases own : remote.current = .link deployment.release
      · rw [if_pos own, List.singleton_append]
        cases first : fault.executes 0 with
        | false =>
            rcases Fault.eq_stop first with ⟨left, rfl⟩
            exact ⟨remote.restore deployment.id, remote.runtime, by simp⟩
        | true =>
            have stepped : deployment.semantics.apply .clearCurrent remote =
                some { remote with current := .absent } := by simp [own]
            rw [Semantics.run_cons_some first stepped]
            refine ⟨remote.restore deployment.id, (deployment.semantics.run
              [.enter deployment.release, .down deployment.release] fault.later
              { remote with current := .absent }).1.runtime, ?_⟩
            rw [run_onContainers rfl fault.later, if_pos ⟨own, rfl⟩, Function.update_eq_self]
      · rw [if_neg own, List.nil_append, if_neg fun both => own both.1]
        refine ⟨remote.restore deployment.id, (deployment.semantics.run
          [.enter deployment.release, .down deployment.release] fault remote).1.runtime, ?_⟩
        rw [Function.update_eq_self]
        exact run_onContainers rfl fault remote

/-- The clean-ups of the pointers leave everything else. -/
theorem attempt_cleanupPending (fault : Fault Leftover) (remote : Remote) :
    Exists fun pending : String -> Option Place =>
      (deployment.attempt .cleanupPendingPointer fault remote).1 =
        { remote with pending := pending } := by
  unfold attempt commands guarded
  dsimp only
  split
  · rcases fault with _ | _ | ⟨_ | index, left⟩
    all_goals exact ⟨_, rfl⟩
  · exact ⟨remote.pending, rfl⟩

theorem attempt_cleanupPrevious (fault : Fault Leftover) (remote : Remote) :
    Exists fun previous : String -> Option Place => Exists fun restore : String -> Option Place =>
      (deployment.attempt .cleanupPreviousPointer fault remote).1 =
        { remote with previous := previous, restore := restore } := by
  unfold attempt commands guarded
  dsimp only
  split
  · rcases fault with _ | _ | ⟨_ | index, left⟩
    all_goals exact ⟨_, _, rfl⟩
  · exact ⟨remote.previous, remote.restore, rfl⟩

/-- The removal of a release. -/
theorem attempt_cleanup (fault : Fault Leftover) (remote : Remote) :
    Exists fun files : Option (List String) =>
      (deployment.attempt .cleanupRelease fault remote).1 =
        { remote with
          files := Function.update remote.files deployment.release files
          removed :=
            if isReleaseId deployment.id.toList = true ∧ fault.executes 0 = true ∧
                (remote.files deployment.release).isSome = true then
              deployment.id :: remote.removed
            else remote.removed } ∧
        (fault = .fine -> files =
          if isReleaseId deployment.id.toList = true then none
          else remote.files deployment.release) := by
  unfold attempt commands guarded
  dsimp only
  cases form : isReleaseId deployment.id.toList with
  | false => exact ⟨remote.files deployment.release, by simp⟩
  | true =>
      rcases fault with _ | _ | ⟨_ | index, left⟩
      · exact ⟨none, by simp⟩
      · exact ⟨none, by simp⟩
      · exact ⟨(remote.files deployment.release).map fun _ => left.files, by simp⟩
      · exact ⟨none, by simp⟩

/-! ## The courses of a deployment -/

/-- The scripts in front of the return. -/
def forward : List Step :=
  [.uploadRelease, .capturePreviousCurrent, .startRelease, .migrationPreflight, .runMigrations,
    .activateRelease]

/-- The state in which the recovery starts, if one of the scripts fails, with whatever
this script has done by then. -/
def interrupted (deployment : Deployment) (faults : Step -> Fault Leftover) :
    List Step -> Remote -> Option Remote
  | [], _ => none
  | step :: rest, remote =>
      let tried := deployment.attempt step (faults step) remote
      if tried.2 then interrupted deployment faults rest tried.1 else some tried.1

/-- What the upload and the capture need to pass: no fault strikes their commands, and
`current` does not lead to itself. -/
structure Captures (deployment : Deployment) (faults : Step -> Fault Leftover) (remote : Remote) :
    Prop where
  upload : (faults .uploadRelease).passes 2 = true
  capture : (faults .capturePreviousCurrent).passes
    (if (captured remote.current).isSome then 2 else 1) = true
  resolves : remote.current ≠ .link .current

/-- What all scripts in front of the activation need. -/
structure Prepares (deployment : Deployment) (faults : Step -> Fault Leftover) (remote : Remote) :
    Prop extends Captures deployment faults remote where
  start : (faults .startRelease).passes 4 = true
  environment : remote.environment = true
  compose : deployment.plan.composeFile ∈
    deployment.archive ++ (remote.files deployment.release).getD []
  preflight : (faults .migrationPreflight).passes 2 = true
  migrations : (faults .runMigrations).passes 2 = true

/-- What the activation needs. -/
structure Activates (faults : Step -> Fault Leftover) (remote : Remote) : Prop where
  activation : (faults .activateRelease).passes 3 = true
  replaceable : remote.current ≠ .directory

/-- The state behind the upload and the capture, and with other containers. -/
def staged (deployment : Deployment) (remote : Remote) (runtime : Runtime) : Remote :=
  { remote with
    files := Function.update remote.files deployment.release
      (some (deployment.archive ++ (remote.files deployment.release).getD []))
    previous := Function.update remote.previous deployment.id (captured remote.current)
    runtime := runtime }

/-- The state behind an activation that may have failed. -/
def activated (deployment : Deployment) (fault : Fault Leftover) (remote : Remote)
    (pending : Option Place) : Remote :=
  { deployment.staged remote (.running deployment.release) with
    current :=
      if fault.executes 2 = true ∧ remote.current ≠ .directory then .link deployment.release
      else remote.current
    pending := Function.update remote.pending deployment.id pending }

/-- How a deployment goes: where it is interrupted, and how it ends. -/
inductive Course (deployment : Deployment) (faults : Step -> Fault Leftover) (remote : Remote) :
    Option Remote -> Remote × Option String -> Prop
  | upload (files : Option (List String)) (failed : (faults .uploadRelease).passes 2 = false)
      (held : files.isSome = true <-> (remote.files deployment.release).isSome = true ∨
        (faults .uploadRelease).executes 0 = true) :
      Course deployment faults remote
        (some { remote with files := Function.update remote.files deployment.release files })
        (deployment.recover faults [.cleanupRelease]
          { remote with files := Function.update remote.files deployment.release files }, none)
  | capture (previous : Option Place) (files : Option (List String)) (held : files.isSome = true)
      (uploaded : (faults .uploadRelease).passes 2 = true)
      (failed : ¬ deployment.Captures faults remote) :
      Course deployment faults remote
        (some { remote with
          files := Function.update remote.files deployment.release files
          previous := Function.update remote.previous deployment.id previous })
        (deployment.recover faults [.cleanupRelease]
          { remote with
            files := Function.update remote.files deployment.release files
            previous := Function.update remote.previous deployment.id previous }, none)
  | staging (runtime : Runtime) (captures : deployment.Captures faults remote)
      (failed : ¬ deployment.Prepares faults remote) :
      Course deployment faults remote (some (deployment.staged remote runtime))
        (deployment.recover faults
          [.restoreOrStopFailedRelease, .cleanupPreviousPointer, .cleanupRelease]
          (deployment.staged remote runtime), none)
  | activation (pending : Option Place) (prepares : deployment.Prepares faults remote)
      (failed : ¬ Activates faults remote) :
      Course deployment faults remote
        (some (deployment.activated (faults .activateRelease) remote pending))
        (deployment.recover faults
          [.restoreOrStopFailedRelease, .cleanupPendingPointer, .cleanupPreviousPointer,
            .cleanupRelease]
          (deployment.activated (faults .activateRelease) remote pending), none)
  | returned (pending : Option Place) (prepares : deployment.Prepares faults remote)
      (activates : Activates faults remote) :
      Course deployment faults remote none
        ((deployment.attempt .cleanupPreviousPointer (faults .cleanupPreviousPointer)
          (deployment.activated (faults .activateRelease) remote pending)).1, some deployment.id)

section Course

variable {faults : Step -> Fault Leftover} {remote : Remote}

theorem steps_of_succeeded {step : Step} {rest : List Step} {before next : Remote}
    (tried : deployment.attempt step (faults step) before = (next, true)) :
    deployment.interrupted faults (step :: rest) before = deployment.interrupted faults rest next ∧
      deployment.proceed faults (step :: rest) before = deployment.proceed faults rest next := by
  constructor
  · rw [interrupted, tried]
    rfl
  · rw [proceed, tried]
    rfl

theorem steps_of_failed {step : Step} {rest : List Step} {before next : Remote}
    (tried : deployment.attempt step (faults step) before = (next, false)) :
    deployment.interrupted faults (step :: rest) before = some next ∧
      deployment.proceed faults (step :: rest) before =
        (deployment.recover faults (recovery step) next, none) := by
  constructor
  · rw [interrupted, tried]
    rfl
  · rw [proceed, tried]
    rfl

theorem composes_staged {runtime : Runtime} :
    (deployment.staged remote runtime).composes deployment deployment.release = true <->
      deployment.plan.composeFile ∈
        deployment.archive ++ (remote.files deployment.release).getD [] := by
  unfold Remote.composes staged
  dsimp only
  rw [decide_eq_true_eq, Function.update_self, Option.getD_some]

theorem course_of_activation (prepares : deployment.Prepares faults remote) :
    deployment.Course faults remote
      (deployment.interrupted faults [.activateRelease]
        (deployment.staged remote (.running deployment.release)))
      (deployment.proceed faults [.activateRelease]
        (deployment.staged remote (.running deployment.release))) := by
  rcases deployment.attempt_activate (faults .activateRelease)
    (deployment.staged remote (.running deployment.release)) with ⟨pending, tried⟩
  cases ended : (faults .activateRelease).passes 3 &&
      decide ((deployment.staged remote (.running deployment.release)).current ≠ .directory) with
  | false =>
      rw [ended] at tried
      have course := @steps_of_failed deployment faults .activateRelease [] _ _ tried
      rw [course.1, course.2]
      refine .activation pending prepares fun activates => ?_
      rw [activates.activation, Bool.true_and, decide_eq_false_iff_not] at ended
      exact ended activates.replaceable
  | true =>
      rw [ended] at tried
      have course := @steps_of_succeeded deployment faults .activateRelease [] _ _ tried
      rw [course.1, course.2]
      rw [Bool.and_eq_true, decide_eq_true_eq] at ended
      exact .returned pending prepares ⟨ended.1, ended.2⟩

/-- A command in the web container, in front of the rest of a course. -/
theorem course_of_exec {step : Step} {rest : List Step}
    (script : forall before, deployment.commands before step =
      [.enter deployment.release, .exec deployment.release])
    (recovers : recovery step =
      [.restoreOrStopFailedRelease, .cleanupPreviousPointer, .cleanupRelease])
    (captures : deployment.Captures faults remote)
    (needed : deployment.Prepares faults remote -> (faults step).passes 2 = true)
    {runtime : Runtime}
    (next : (faults step).passes 2 = true -> deployment.Course faults remote
      (deployment.interrupted faults rest (deployment.staged remote runtime))
      (deployment.proceed faults rest (deployment.staged remote runtime))) :
    deployment.Course faults remote
      (deployment.interrupted faults (step :: rest) (deployment.staged remote runtime))
      (deployment.proceed faults (step :: rest) (deployment.staged remote runtime)) := by
  rcases deployment.attempt_exec (script (deployment.staged remote runtime)) (faults step) with
    ⟨later, left, succeeds, same⟩
  cases ended : (deployment.attempt step (faults step) (deployment.staged remote runtime)).2 with
  | false =>
      have course := @steps_of_failed deployment faults step rest _ _ (Prod.ext left ended)
      rw [course.1, course.2, recovers]
      refine .staging later captures fun prepares => ?_
      rw [← Bool.not_eq_true, succeeds] at ended
      exact ended ⟨needed prepares, composes_staged.mpr prepares.compose⟩
  | true =>
      have course := @steps_of_succeeded deployment faults step rest _ _ (Prod.ext left ended)
      rw [course.1, course.2, same ended]
      exact next (succeeds.mp ended).1

theorem course_of_start (captures : deployment.Captures faults remote) (runtime : Runtime) :
    deployment.Course faults remote
      (deployment.interrupted faults
        [.startRelease, .migrationPreflight, .runMigrations, .activateRelease]
        (deployment.staged remote runtime))
      (deployment.proceed faults
        [.startRelease, .migrationPreflight, .runMigrations, .activateRelease]
        (deployment.staged remote runtime)) := by
  rcases deployment.attempt_start (faults .startRelease) (deployment.staged remote runtime) with
    ⟨later, left, succeeds, same⟩
  cases ended : (deployment.attempt .startRelease (faults .startRelease)
      (deployment.staged remote runtime)).2 with
  | false =>
      have course := @steps_of_failed deployment faults .startRelease
        [.migrationPreflight, .runMigrations, .activateRelease] _ _ (Prod.ext left ended)
      rw [course.1, course.2]
      refine .staging later captures fun prepares => ?_
      rw [← Bool.not_eq_true, succeeds] at ended
      exact ended ⟨prepares.start, prepares.environment, composes_staged.mpr prepares.compose⟩
  | true =>
      have course := @steps_of_succeeded deployment faults .startRelease
        [.migrationPreflight, .runMigrations, .activateRelease] _ _ (Prod.ext left ended)
      rw [course.1, course.2, same ended]
      rcases succeeds.mp ended with ⟨start, environment, held⟩
      refine course_of_exec (fun _ => rfl) rfl captures (fun prepares => prepares.preflight) ?_
      intro preflight
      refine course_of_exec (fun _ => rfl) rfl captures (fun prepares => prepares.migrations) ?_
      intro migrations
      exact course_of_activation
        ⟨captures, start, environment, composes_staged.mp held, preflight, migrations⟩

theorem deploy_course : deployment.Course faults remote
    (deployment.interrupted faults forward remote) (deployment.deploy faults remote) := by
  rcases deployment.attempt_upload (faults .uploadRelease) remote with ⟨files, tried, held, whole⟩
  unfold deploy forward
  cases uploaded : (faults .uploadRelease).passes 2 with
  | false =>
      rw [uploaded] at tried
      have course := @steps_of_failed deployment faults .uploadRelease
        [.capturePreviousCurrent, .startRelease, .migrationPreflight, .runMigrations,
          .activateRelease] _ _ tried
      rw [course.1, course.2]
      exact .upload files uploaded held
  | true =>
      rw [uploaded] at tried
      have course := @steps_of_succeeded deployment faults .uploadRelease
        [.capturePreviousCurrent, .startRelease, .migrationPreflight, .runMigrations,
          .activateRelease] _ _ tried
      rw [course.1, course.2, whole uploaded]
      rcases deployment.attempt_capture (faults .capturePreviousCurrent)
        { remote with
          files := Function.update remote.files deployment.release
            (some (deployment.archive ++ (remote.files deployment.release).getD [])) } with
        ⟨previous, tried, saved⟩
      dsimp only at tried saved
      cases ended : (faults .capturePreviousCurrent).passes
          (if (captured remote.current).isSome then 2 else 1) &&
            decide (remote.current ≠ .link .current) with
      | false =>
          rw [ended] at tried
          have course := @steps_of_failed deployment faults .capturePreviousCurrent
            [.startRelease, .migrationPreflight, .runMigrations, .activateRelease] _ _ tried
          rw [course.1, course.2]
          refine .capture previous _ rfl uploaded fun captures => ?_
          rw [captures.capture, Bool.true_and, decide_eq_false_iff_not] at ended
          exact ended captures.resolves
      | true =>
          rw [tried] at saved
          rw [ended] at tried saved
          have course := @steps_of_succeeded deployment faults .capturePreviousCurrent
            [.startRelease, .migrationPreflight, .runMigrations, .activateRelease] _ _ tried
          rw [course.1, course.2, saved rfl]
          rw [Bool.and_eq_true, decide_eq_true_eq] at ended
          exact course_of_start ⟨uploaded, ended.1, ended.2⟩ remote.runtime

end Course

end Deployment

end Deploy
end Cli
end DjangoOps
