import Mathlib.Data.List.Infix
import DjangoOps.Cli.DeployOutcome
import DjangoOps.Foundation.Transition

namespace DjangoOps
namespace Cli
namespace Deploy

open FaultyScript

/-!
# Two deployments at the same time

Two runs of `deploy_project` with one base, whose remote scripts come in any
order.  A run captures `current` early and restores it much later, without a
lock and, when it has captured something, without a look at what `current` has
become.
-/

inductive Side
  | left
  | right
  deriving DecidableEq

def Side.other : Side -> Side
  | .left => .right
  | .right => .left

/-- Where a run stands: in front of these scripts, or in front of these scripts
of an exception handler, behind which it raises. -/
inductive Progress
  | forward (steps : List Step)
  | recovering (steps : List Step)
  | returned
  deriving DecidableEq

namespace Progress

/-- The activation has succeeded. -/
def activated : Progress -> Bool
  | .forward [] => true
  | .returned => true
  | _ => false

/-- The upload has succeeded, and no script has failed. -/
def uploaded : Progress -> Bool
  | .forward steps => decide (.uploadRelease ∉ steps)
  | .recovering _ => false
  | .returned => true

end Progress

/-- The next remote script of a run. -/
def Deployment.advance (deployment : Deployment) (fault : Fault Leftover) (remote : Remote) :
    Progress -> Option (Remote × Progress)
  | .forward [] =>
      some ((deployment.attempt .cleanupPreviousPointer fault remote).1, .returned)
  | .forward (step :: rest) =>
      let tried := deployment.attempt step fault remote
      some (tried.1, if tried.2 then .forward rest else .recovering (Deployment.recovery step))
  | .recovering [] => none
  | .recovering (step :: rest) =>
      some ((deployment.attempt step fault remote).1, .recovering rest)
  | .returned => none

/-- The remote host, and how far the runs of the two sides have come. -/
structure Pair where
  remote : Remote
  progress : Side -> Progress

namespace Pair

def step (deployment : Side -> Deployment) (pair : Pair) (action : Side × Fault Leftover) :
    Option Pair :=
  ((deployment action.1).advance action.2 pair.remote (pair.progress action.1)).map fun next =>
    { remote := next.1, progress := Function.update pair.progress action.1 next.2 }

def machine (deployment : Side -> Deployment) :
    Transition.Machine Pair (Side × Fault Leftover) where
  initial := fun pair => pair.progress = fun _ => .forward Deployment.forward
  step := step deployment

/-- Once the other run has activated its release, a lost activation has captured
that release, and a restoration leads to it and takes `current` off the own one. -/
def Respects (deployment : Side -> Deployment) (pair : Pair) (action : Side × Fault Leftover) :
    Prop :=
  (pair.progress action.1.other).activated = true ->
    match pair.progress action.1, pair.remote.previous (deployment action.1).id with
    | .forward (.activateRelease :: _), captured =>
        action.2.executes 2 = true -> action.2.passes 3 = true ∨
          captured = some (deployment action.1.other).release
    | .recovering (.restoreOrStopFailedRelease :: _), some place =>
        (pair.remote.current = .link (deployment action.1).release ->
          action.2.executes 1 = true) ∧
        (action.2.executes 1 = true -> place = (deployment action.1.other).release)
    | _, _ => True

instance (deployment : Side -> Deployment) (pair : Pair) (action : Side × Fault Leftover) :
    Decidable (Respects deployment pair action) := by
  unfold Respects
  split <;> infer_instance

end Pair

/-! ## What the scripts of one run leave to the other -/

/-- The action moves or clears `current`. -/
def Action.movesCurrent : Action -> Bool
  | .movePending => true
  | .moveRestore => true
  | .clearCurrent => true
  | _ => false

namespace Deployment

variable {deployment : Deployment}

theorem point_eq_some {remote after : Remote} {source : Option Place}
    (pointed : remote.point source = some after) :
    after = { remote with current := after.current } := by
  cases source with
  | none => cases pointed
  | some place =>
      unfold Remote.point at pointed
      dsimp only at pointed
      split at pointed
      · cases pointed
      · cases pointed
        rfl

/-- What an action changes: of the releases and the pointers those of its own
id, and `current` if it moves it. -/
structure Effect (deployment : Deployment) (action : Action) (before after : Remote) : Prop where
  files : forall place : Place, place ≠ deployment.release ->
    after.files place = before.files place
  previous : forall id : String, id ≠ deployment.id -> after.previous id = before.previous id
  current : action.movesCurrent = false -> after.current = before.current
  own : action ≠ .removeRelease -> (before.files deployment.release).isSome = true ->
    (after.files deployment.release).isSome = true

theorem Effect.refl (action : Action) (remote : Remote) :
    Effect deployment action remote remote :=
  ⟨fun _ _ => rfl, fun _ _ => rfl, fun _ => rfl, fun _ there => there⟩

theorem apply_effect {action : Action} {before after : Remote}
    (stepped : before.apply deployment action = some after) :
    Effect deployment action before after := by
  have same := @Effect.refl deployment action before
  have onContainers (touches : action.onContainers = true) :
      Effect deployment action before after := by
    rw [Remote.apply_onContainers touches stepped]
    exact { same with }
  cases action with
  | testEnvironment | linkEnvironment | enter | up | exec | down => exact onContainers rfl
  | makeShared | linkPending | linkRestore | removePending =>
      cases stepped
      exact { same with }
  | makeRelease =>
      cases stepped
      refine { same with files := ?_, own := ?_ }
      · exact fun place apart => Function.update_of_ne apart _ _
      · intro _ _
        simp only [Function.update_self, Option.isSome_some]
  | extract =>
      rcases Option.map_eq_some_iff.mp stepped with ⟨files, _, rfl⟩
      refine { same with files := ?_, own := ?_ }
      · exact fun place apart => Function.update_of_ne apart _ _
      · intro _ _
        simp only [Function.update_self, Option.isSome_some]
  | removeRelease =>
      cases stepped
      refine { same with files := ?_, own := fun other => absurd rfl other }
      exact fun place apart => Function.update_of_ne apart _ _
  | linkPrevious | clearPrevious | removePointers =>
      cases stepped
      exact { same with previous := fun id foreign => Function.update_of_ne foreign _ _ }
  | movePending | moveRestore =>
      rcases Option.map_eq_some_iff.mp stepped with ⟨moved, pointed, rfl⟩
      rw [point_eq_some pointed]
      exact { same with current := fun still => by cases still }
  | resolveCurrent =>
      simp only [Remote.apply] at stepped
      split at stepped
      · cases stepped
      · cases stepped
        exact same
  | clearCurrent =>
      simp only [Remote.apply] at stepped
      split at stepped
      · cases stepped
      · cases stepped
        exact { same with current := fun still => by cases still }

/-- The same of what an action leaves that fails half-way. -/
theorem partly_effect (action : Action) (left : Leftover) (before : Remote) :
    Effect deployment action before (before.partly deployment action left) := by
  have same := @Effect.refl deployment action before
  cases action with
  | removeRelease =>
      refine { same with files := ?_, own := fun other => absurd rfl other }
      exact fun place apart => Function.update_of_ne apart _ _
  | extract =>
      refine { same with files := ?_, own := ?_ }
      · exact fun place apart => Function.update_of_ne apart _ _
      · intro _ there
        simp only [Remote.partly, Function.update_self, Option.isSome_map]
        exact there
  | _ => exact { same with }

/-- A script leaves the other releases and the pointers of other ids alone. -/
theorem attempt_foreign {place : Place} {id : String} (apart : place ≠ deployment.release)
    (foreign : id ≠ deployment.id) (step : Step) (fault : Fault Leftover) (remote : Remote) :
    (deployment.attempt step fault remote).1.files place = remote.files place ∧
      (deployment.attempt step fault remote).1.previous id = remote.previous id := by
  refine @Semantics.run_invariant _ _ _ deployment.semantics (fun after =>
    after.files place = remote.files place ∧ after.previous id = remote.previous id) _ ?_ ?_
    fault remote ⟨rfl, rfl⟩
  · intro action _ before after same stepped
    have effect := apply_effect stepped
    exact ⟨(effect.files place apart).trans same.1, (effect.previous id foreign).trans same.2⟩
  · intro action _ left before same
    have effect := @partly_effect deployment action left before
    exact ⟨(effect.files place apart).trans same.1, (effect.previous id foreign).trans same.2⟩

/-- Only the activation and the restoration touch `current`. -/
theorem attempt_current {step : Step} (other : step ≠ .activateRelease)
    (different : step ≠ .restoreOrStopFailedRelease) (fault : Fault Leftover) (remote : Remote) :
    (deployment.attempt step fault remote).1.current = remote.current := by
  have still : forall action, action ∈ deployment.commands remote step ->
      action.movesCurrent = false := by
    have guarded : forall action, action.movesCurrent = false ->
        forall listed, listed ∈ deployment.guarded [action] -> listed.movesCurrent = false := by
      intro action own listed member
      unfold Deployment.guarded at member
      split at member
      · rw [List.mem_singleton.mp member]
        exact own
      · cases member
    intro action listed
    cases step with
    | activateRelease => exact absurd rfl other
    | restoreOrStopFailedRelease => exact absurd rfl different
    | cleanupPendingPointer => exact guarded _ rfl _ listed
    | cleanupPreviousPointer => exact guarded _ rfl _ listed
    | cleanupRelease => exact guarded _ rfl _ listed
    | capturePreviousCurrent =>
        unfold commands at listed
        cases saved : captured remote.current <;> rw [saved] at listed <;>
          simp only [List.mem_cons, List.not_mem_nil, or_false] at listed
        · rw [listed]
          rfl
        · rcases listed with rfl | rfl <;> rfl
    | uploadRelease | startRelease | migrationPreflight | runMigrations =>
        simp only [commands, List.mem_cons, List.not_mem_nil, or_false] at listed
        rcases listed with rfl | rfl | rfl | rfl <;> rfl
  refine @Semantics.run_frame _ _ _ deployment.semantics _ Remote.current _ ?_ ?_ fault remote
  · exact fun action listed before after stepped =>
      (apply_effect stepped).current (still action listed)
  · exact fun action listed left before =>
      (partly_effect action left before).current (still action listed)

/-- Only the removal of the release takes its directory away. -/
theorem attempt_own {step : Step} (other : step ≠ .cleanupRelease) (fault : Fault Leftover)
    {remote : Remote} (there : (remote.files deployment.release).isSome = true) :
    ((deployment.attempt step fault remote).1.files deployment.release).isSome = true := by
  have keeps : forall action, action ∈ deployment.commands remote step ->
      action ≠ .removeRelease := by
    rintro action listed rfl
    cases step with
    | cleanupRelease => exact other rfl
    | capturePreviousCurrent =>
        unfold commands at listed
        cases saved : captured remote.current <;> simp [saved] at listed
    | restoreOrStopFailedRelease =>
        unfold commands at listed
        cases saved : remote.previous deployment.id <;> simp [saved] at listed
    | cleanupPendingPointer | cleanupPreviousPointer =>
        unfold commands guarded at listed
        dsimp only at listed
        split at listed <;> simp at listed
    | _ => simp [commands] at listed
  refine @Semantics.run_invariant _ _ _ deployment.semantics (fun after =>
    (after.files deployment.release).isSome = true) _ ?_ ?_ fault remote there
  · intro action listed before after here stepped
    exact (apply_effect stepped).own (keeps action listed) here
  · intro action listed left before here
    exact (partly_effect action left before).own (keeps action listed) here

/-- What one script of a run makes of its progress. -/
inductive Advanced (deployment : Deployment) (fault : Fault Leftover) (remote : Remote) :
    Progress -> Remote -> Progress -> Prop
  | finished : Advanced deployment fault remote (.forward [])
      (deployment.attempt .cleanupPreviousPointer fault remote).1 .returned
  | passed (step : Step) (rest : List Step)
      (succeeded : (deployment.attempt step fault remote).2 = true) :
      Advanced deployment fault remote (.forward (step :: rest))
        (deployment.attempt step fault remote).1 (.forward rest)
  | failed (step : Step) (rest : List Step)
      (failed : (deployment.attempt step fault remote).2 = false) :
      Advanced deployment fault remote (.forward (step :: rest))
        (deployment.attempt step fault remote).1 (.recovering (recovery step))
  | recovered (step : Step) (rest : List Step) :
      Advanced deployment fault remote (.recovering (step :: rest))
        (deployment.attempt step fault remote).1 (.recovering rest)

theorem advanced_of_advance {fault : Fault Leftover} {remote after : Remote}
    {progress next : Progress}
    (advanced : deployment.advance fault remote progress = some (after, next)) :
    Advanced deployment fault remote progress after next := by
  cases progress with
  | returned => cases advanced
  | forward steps =>
      cases steps with
      | nil =>
          cases advanced
          exact .finished
      | cons step rest =>
          cases advanced
          cases ended : (deployment.attempt step fault remote).2 with
          | true => exact .passed step rest ended
          | false => exact .failed step rest ended
  | recovering steps =>
      cases steps with
      | nil => cases advanced
      | cons step rest =>
          cases advanced
          exact .recovered step rest

end Deployment

namespace Pair

variable {deployment : Side -> Deployment} {pair : Pair}

/-! ## One run alone -/

section Alone

variable {side : Side} {faults : Step -> Fault Leftover}

/-- A step of this run leads here. -/
def Alone (deployment : Side -> Deployment) (side : Side) (before after : Pair) : Prop :=
  Relation.ReflTransGen
    ((machine deployment).StepUnder fun _ action => action.1 = side) before after

theorem alone_of_advance {fault : Fault Leftover} {after : Pair} {remote : Remote}
    {progress : Progress} (advanced : (deployment side).advance fault pair.remote
      (pair.progress side) = some (remote, progress))
    (later : Alone deployment side
      { remote := remote, progress := Function.update pair.progress side progress } after) :
    Alone deployment side pair after := by
  refine .head ⟨(side, fault), rfl, ?_⟩ later
  change Option.map _ ((deployment side).advance fault pair.remote (pair.progress side)) = _
  rw [advanced]
  rfl

theorem recover_alone {steps : List Step} (stands : pair.progress side = .recovering steps) :
    Alone deployment side pair
      { remote := (deployment side).recover faults steps pair.remote
        progress := Function.update pair.progress side (.recovering []) } := by
  induction steps generalizing pair with
  | nil =>
      rw [← stands, Function.update_eq_self]
      exact .refl
  | cons step rest inductionHypothesis =>
      have advanced : (deployment side).advance (faults step) pair.remote (pair.progress side) =
          some (((deployment side).attempt step (faults step) pair.remote).1,
            .recovering rest) := by
        rw [stands]
        rfl
      apply alone_of_advance advanced
      have later := @inductionHypothesis
        { remote := ((deployment side).attempt step (faults step) pair.remote).1
          progress := Function.update pair.progress side (.recovering rest) }
        (Function.update_self _ _ _)
      rw [Function.update_idem] at later
      exact later

theorem proceed_alone {steps : List Step} (stands : pair.progress side = .forward steps) :
    Alone deployment side pair
      { remote := ((deployment side).proceed faults steps pair.remote).1
        progress := Function.update pair.progress side
          (if ((deployment side).proceed faults steps pair.remote).2.isSome then .returned
          else .recovering []) } := by
  induction steps generalizing pair with
  | nil => exact alone_of_advance (by rw [stands]; rfl) .refl
  | cons step rest inductionHypothesis =>
      have advanced : (deployment side).advance (faults step) pair.remote (pair.progress side) =
          some (((deployment side).attempt step (faults step) pair.remote).1,
            if ((deployment side).attempt step (faults step) pair.remote).2 then .forward rest
            else .recovering (Deployment.recovery step)) := by
        rw [stands]
        rfl
      apply alone_of_advance advanced
      rw [Deployment.proceed]
      cases ended : ((deployment side).attempt step (faults step) pair.remote).2 with
      | true =>
          have later := @inductionHypothesis
            { remote := ((deployment side).attempt step (faults step) pair.remote).1
              progress := Function.update pair.progress side (.forward rest) }
            (Function.update_self _ _ _)
          rw [Function.update_idem] at later
          exact later
      | false =>
          have later := @recover_alone deployment
            { remote := ((deployment side).attempt step (faults step) pair.remote).1
              progress :=
                Function.update pair.progress side (.recovering (Deployment.recovery step)) }
            side faults _ (Function.update_self _ _ _)
          rw [Function.update_idem] at later
          exact later

/-- While the other run rests, a run is `deploy_project`. -/
theorem deploy_alone (stands : pair.progress side = .forward Deployment.forward) :
    Alone deployment side pair
      { remote := ((deployment side).deploy faults pair.remote).1
        progress := Function.update pair.progress side
          (if ((deployment side).deploy faults pair.remote).2.isSome then .returned
          else .recovering []) } :=
  proceed_alone stands

end Alone

/-! ## What every run keeps -/

/-- The other release is current, and a restoration is to take it back. -/
structure Withdrawing (deployment : Side -> Deployment) (pair : Pair) (side : Side) : Prop where
  stands : Exists fun rest : List Step =>
    pair.progress side = .recovering (.restoreOrStopFailedRelease :: rest)
  current : pair.remote.current = .link (deployment side).release
  captured : pair.remote.previous (deployment side).id = some (deployment side.other).release

structure Sound (deployment : Side -> Deployment) (pair : Pair) : Prop where
  ordered : forall side steps, pair.progress side = .forward steps ->
    steps <:+ Deployment.forward
  recovers : forall side steps, pair.progress side = .recovering steps ->
    .activateRelease ∉ steps
  staged : forall side, (pair.progress side).uploaded = true ->
    (pair.remote.files (deployment side).release).isSome = true
  active : forall side, (pair.progress side).activated = true ->
    (pair.progress side.other).activated = false ->
    pair.remote.current = .link (deployment side).release ∨ Withdrawing deployment pair side.other

theorem release_ne (distinct : (deployment .left).id ≠ (deployment .right).id) (side : Side) :
    (deployment side).id ≠ (deployment side.other).id ∧
      (deployment side).release ≠ (deployment side.other).release := by
  have ids : (deployment side).id ≠ (deployment side.other).id := by
    cases side with
    | left => exact distinct
    | right => exact distinct.symm
  exact ⟨ids, fun same => ids (Place.release.inj same)⟩

theorem other_ne (side : Side) : side.other ≠ side := by
  cases side <;> decide

theorem other_other (side : Side) : side.other.other = side := by
  cases side <;> rfl

/-- A run that is not over follows its scripts in order. -/
theorem step_of_suffix {step : Step} {rest : List Step}
    (ordered : step :: rest <:+ Deployment.forward) :
    step ≠ .cleanupRelease ∧ step ≠ .restoreOrStopFailedRelease ∧
      (step = .uploadRelease -> .uploadRelease ∉ rest) ∧
      (rest = [] <-> step = .activateRelease) := by
  have listed : step :: rest ∈ Deployment.forward.tails := (List.mem_tails _ _).mpr ordered
  simp only [Deployment.forward, List.tails, List.mem_cons, List.cons.injEq, List.not_mem_nil,
    or_false, reduceCtorEq] at listed
  rcases listed with ⟨rfl, rfl⟩ | ⟨rfl, rfl⟩ | ⟨rfl, rfl⟩ | ⟨rfl, rfl⟩ | ⟨rfl, rfl⟩ | ⟨rfl, rfl⟩ <;>
    decide

theorem recovery_plain (step : Step) : .activateRelease ∉ Deployment.recovery step := by
  cases step <;> decide

section Step

variable (sound : Sound deployment pair) {side : Side} {fault : Fault Leftover}
  {after : Remote} {next : Progress}

include sound

/-- The directory of a run that has uploaded its release. -/
theorem Sound.staged_self
    (advanced : (deployment side).Advanced fault pair.remote (pair.progress side) after next)
    (uploaded : next.uploaded = true) :
    (after.files (deployment side).release).isSome = true := by
  generalize before : pair.progress side = progress at advanced
  cases advanced with
  | finished =>
      exact Deployment.attempt_own (by decide) fault (sound.staged side (by rw [before]; rfl))
  | passed step rest succeeded =>
      have place := step_of_suffix (sound.ordered side _ before)
      have absent : .uploadRelease ∉ rest := of_decide_eq_true uploaded
      by_cases first : step = .uploadRelease
      · subst first
        rcases (deployment side).attempt_upload fault pair.remote with ⟨files, tried, _, whole⟩
        rw [tried] at succeeded ⊢
        rw [whole succeeded]
        simp only [Function.update_self, Option.isSome_some]
      · refine Deployment.attempt_own place.1 fault (sound.staged side ?_)
        rw [before]
        refine decide_eq_true ?_
        rw [List.mem_cons, not_or]
        exact ⟨fun same => first same.symm, absent⟩
  | failed => cases uploaded
  | recovered => cases uploaded

/-- The step that activates a release makes it current. -/
theorem Sound.active_self
    (advanced : (deployment side).Advanced fault pair.remote (pair.progress side) after next)
    (active : next.activated = true) :
    (pair.progress side).activated = true ∧ next = .returned ∧
        after.current = pair.remote.current ∨
      after.current = .link (deployment side).release := by
  generalize before : pair.progress side = progress at advanced
  cases advanced with
  | finished => exact .inl ⟨rfl, rfl, Deployment.attempt_current (by decide) (by decide) fault _⟩
  | passed step rest succeeded =>
      cases rest with
      | cons => cases active
      | nil =>
          have last := (step_of_suffix (sound.ordered side _ before)).2.2.2.mp rfl
          subst last
          rcases (deployment side).attempt_activate fault pair.remote with ⟨pending, tried⟩
          rw [tried] at succeeded ⊢
          rw [Bool.and_eq_true, decide_eq_true_eq] at succeeded
          exact .inr (if_pos
            ⟨Fault.executes_of_passes (by decide) succeeded.1, succeeded.2⟩)
  | failed => cases active
  | recovered => cases active

/-- While the other release is active, it stays current, or the own one has been
made current by a lost activation and is about to be taken back. -/
theorem Sound.active_other
    (distinct : (deployment .left).id ≠ (deployment .right).id)
    (allowed : Respects deployment pair (side, fault))
    (advanced : (deployment side).Advanced fault pair.remote (pair.progress side) after next)
    (active : (pair.progress side.other).activated = true) (passive : next.activated = false) :
    after.current = .link (deployment side.other).release ∨
      (Exists fun rest : List Step => next = .recovering (.restoreOrStopFailedRelease :: rest)) ∧
        after.current = .link (deployment side).release ∧
        after.previous (deployment side).id = some (deployment side.other).release := by
  have holds := sound.active side.other active
  rw [other_other] at holds
  have respects := allowed active
  dsimp only at respects
  have apart := (release_ne distinct side).2
  generalize before : pair.progress side = progress at advanced
  rw [before] at respects holds
  cases advanced with
  | finished => cases passive
  | passed step rest succeeded =>
      have place := step_of_suffix (sound.ordered side _ before)
      have other : step ≠ .activateRelease := by
        intro same
        rw [place.2.2.2.mpr same] at passive
        cases passive
      rcases holds rfl with current | withdrawing
      · exact .inl ((Deployment.attempt_current other place.2.1 fault _).trans current)
      · rcases withdrawing.stands with ⟨_, stands⟩
        cases before.symm.trans stands
  | failed step rest failed =>
      have place := step_of_suffix (sound.ordered side _ before)
      have begun : Progress.activated (.forward (step :: rest)) = false := rfl
      rcases holds begun with current | withdrawing
      · by_cases activation : step = .activateRelease
        · subst activation
          rcases (deployment side).attempt_activate fault pair.remote with ⟨pending, tried⟩
          rw [tried] at failed ⊢
          have plain : pair.remote.current ≠ .directory := by
            rw [current]
            exact fun impossible => by cases impossible
          rw [decide_eq_true plain, Bool.and_true] at failed
          dsimp only at failed
          by_cases moved : fault.executes 2 = true
          · have captured := (respects moved).resolve_left fun passed => by
              rw [failed] at passed
              cases passed
            exact .inr ⟨⟨_, rfl⟩, if_pos ⟨moved, plain⟩, captured⟩
          · exact .inl ((if_neg fun both => moved both.1).trans current)
        · exact .inl ((Deployment.attempt_current activation place.2.1 fault _).trans current)
      · rcases withdrawing.stands with ⟨_, stands⟩
        cases before.symm.trans stands
  | recovered step rest =>
      have plain : step ≠ .activateRelease := by
        rintro rfl
        exact sound.recovers side _ before (.head _)
      refine .inl ?_
      by_cases restoration : step = .restoreOrStopFailedRelease
      · subst restoration
        rcases (deployment side).attempt_restore fault pair.remote with ⟨restore, runtime, left⟩
        rw [left]
        change Deployment.restoredCurrent (deployment side) fault pair.remote = _
        unfold Deployment.restoredCurrent
        cases saved : pair.remote.previous (deployment side).id with
        | none =>
            rcases holds rfl with current | withdrawing
            · rw [current]
              refine if_neg fun both => apart ?_
              exact (Node.link.inj both.1).symm
            · rw [withdrawing.captured] at saved
              cases saved
        | some place =>
            rw [saved] at respects
            rcases respects with ⟨takes, leads⟩
            dsimp only
            rcases holds rfl with current | withdrawing
            · by_cases moved : fault.executes 1 = true ∧ pair.remote.current ≠ .directory
              · rw [if_pos moved, leads moved.1]
              · rw [if_neg moved, current]
            · have executed := takes withdrawing.current
              rw [if_pos ⟨executed, by rw [withdrawing.current]; simp⟩, leads executed]
      · rcases holds rfl with current | withdrawing
        · exact (Deployment.attempt_current plain restoration fault _).trans current
        · rcases withdrawing.stands with ⟨_, stands⟩
          have same := before.symm.trans stands
          injection same with steps
          exact absurd (List.cons.inj steps).1 restoration

/-- What one script of either run preserves. -/
theorem Sound.step (distinct : (deployment .left).id ≠ (deployment .right).id)
    (allowed : Respects deployment pair (side, fault)) {later : Pair}
    (stepped : pair.step deployment (side, fault) = some later) : Sound deployment later := by
  rcases Option.map_eq_some_iff.mp stepped with ⟨⟨after, next⟩, taken, rfl⟩
  have advanced := Deployment.advanced_of_advance taken
  rcases release_ne distinct side with ⟨ids, releases⟩
  have foreign : after.files (deployment side.other).release =
        pair.remote.files (deployment side.other).release ∧
      after.previous (deployment side.other).id =
        pair.remote.previous (deployment side.other).id := by
    generalize pair.progress side = progress at advanced
    cases advanced <;> exact Deployment.attempt_foreign releases.symm ids.symm _ _ _
  have own : Function.update pair.progress side next side = next := Function.update_self _ _ _
  have kept : Function.update pair.progress side next side.other = pair.progress side.other :=
    Function.update_of_ne (other_ne side) _ _
  have split {property : Side -> Prop} (here : property side) (there : property side.other) :
      forall each, property each := by
    intro each
    by_cases same : each = side
    · rw [same]
      exact here
    · have : each = side.other := by
        cases each <;> cases side <;> first | rfl | exact absurd rfl same
      rw [this]
      exact there
  refine ⟨split ?_ ?_, split ?_ ?_, split ?_ ?_, split ?_ ?_⟩
  all_goals dsimp only
  · rw [own]
    rintro steps rfl
    generalize before : pair.progress side = progress at advanced
    cases advanced with
    | passed step => exact (List.suffix_cons step steps).trans (sound.ordered side _ before)
  · rw [kept]
    exact sound.ordered side.other
  · rw [own]
    rintro steps rfl
    generalize before : pair.progress side = progress at advanced
    cases advanced with
    | failed step => exact recovery_plain step
    | recovered step => exact fun listed => sound.recovers side _ before (.tail _ listed)
  · rw [kept]
    exact sound.recovers side.other
  · rw [own]
    exact sound.staged_self advanced
  · rw [kept, foreign.1]
    exact sound.staged side.other
  · rw [own, kept]
    intro active passive
    rcases sound.active_self advanced active with ⟨earlier, _, current⟩ | current
    · rcases sound.active side earlier passive with leads | withdrawing
      · exact .inl (current.trans leads)
      · refine .inr ⟨?_, current.trans withdrawing.current, ?_⟩
        · rcases withdrawing.stands with ⟨rest, stands⟩
          exact ⟨rest, kept.trans stands⟩
        · exact foreign.2.trans withdrawing.captured
    · exact .inl current
  · rw [other_other, own, kept]
    intro active passive
    rcases sound.active_other distinct allowed advanced active passive with
      current | ⟨⟨rest, stands⟩, current, captured⟩
    · exact .inl current
    · exact .inr ⟨⟨rest, own.trans stands⟩, current, captured⟩

end Step

theorem sound_of_reachable (distinct : (deployment .left).id ≠ (deployment .right).id)
    (reached : (machine deployment).ReachableUnder (Respects deployment) pair) :
    Sound deployment pair := by
  refine reached.invariant ?_ ?_
  · intro start initial
    have fresh : start.progress = fun _ => .forward Deployment.forward := initial
    refine ⟨?_, ?_, ?_, ?_⟩
    · intro side steps stands
      rw [fresh] at stands
      cases stands
      exact List.suffix_refl _
    · intro side steps stands
      rw [fresh] at stands
      cases stands
    · intro side uploaded
      have empty : (Progress.forward Deployment.forward).uploaded = false := by decide
      rw [fresh] at uploaded
      cases empty.symm.trans uploaded
    · intro side active
      rw [fresh] at active
      cases active
  · rintro before ⟨side, fault⟩ after _ sound allowed stepped
    exact sound.step distinct allowed stepped

/-- When one run returns and the other raises, the release of the first one is
current and there.  The two runs may interleave in every way and fail at every
command, as long as every step keeps to the condition: a run that restores what it
has captured must not undo the release that the other one has activated since. -/
theorem deployments_apart (distinct : (deployment .left).id ≠ (deployment .right).id)
    (reached : (machine deployment).ReachableUnder (Respects deployment) pair) (side : Side)
    (returned : pair.progress side = .returned)
    (raised : pair.progress side.other = .recovering []) :
    pair.remote.current = .link (deployment side).release ∧
      (pair.remote.files (deployment side).release).isSome = true := by
  have sound := sound_of_reachable distinct reached
  refine ⟨?_, sound.staged side (by rw [returned]; rfl)⟩
  rcases sound.active side (by rw [returned]; rfl) (by rw [raised]; rfl) with current | withdrawing
  · exact current
  · rcases withdrawing.stands with ⟨rest, stands⟩
    cases raised.symm.trans stands

end Pair

/-! ## Two releases of one project -/

def sampleOther : Deployment :=
  { sampleDeployment with
    plan := { sampleDeployment.plan with releaseId := "r20250102T030406Z-8" } }

def samplePair : Side -> Deployment
  | .left => sampleDeployment
  | .right => sampleOther

def sampleStart : Pair where
  remote := sampleRemote ["compose.yaml"]
  progress := fun _ => .forward Deployment.forward

/-- The left run passes through all its scripts. -/
def undisturbed : List (Side × Fault Leftover) := List.replicate 7 (.left, .fine)

/-- The containers of the right run do not come up, and its recovery works. -/
def failing : List (Side × Fault Leftover) :=
  [(.right, .stop 3 ⟨[], .mixed⟩), (.right, .fine), (.right, .fine), (.right, .fine)]

/-- The left run returned and the right one raised. -/
def Pair.oneSucceeded (pair : Pair) : Bool :=
  decide (pair.progress .left = .returned) && decide (pair.progress .right = .recovering [])

/-- The right run has captured the previous release before the left one has
activated its own, and restores it behind that. -/
theorem restoration_undoes : Exists fun pair : Pair =>
    (Pair.machine samplePair).Reachable pair ∧ pair.oneSucceeded = true ∧
      pair.remote.current ≠ .link (samplePair .left).release := by
  rcases (Pair.machine samplePair).exists_reachableUnder_of_replay (fun _ _ => True)
    ([(.right, .fine), (.right, .fine)] ++ undisturbed ++ failing) sampleStart rfl
    (fun pair => pair.oneSucceeded &&
      decide (pair.remote.current ≠ .link (samplePair .left).release)) (by decide +kernel) with
    ⟨pair, reached, tested⟩
  rw [Bool.and_eq_true, decide_eq_true_eq] at tested
  exact ⟨pair, reached, tested⟩

/-- The right run captures the release that the left one has activated. -/
theorem deployments_apart_later : Exists fun pair : Pair =>
    pair.oneSucceeded = true ∧ pair.remote.current = .link (samplePair .left).release ∧
      (pair.remote.files (samplePair .left).release).isSome = true := by
  rcases (Pair.machine samplePair).exists_reachableUnder_of_replay (Pair.Respects samplePair)
    (undisturbed ++ [(.right, .fine), (.right, .fine)] ++ failing) sampleStart rfl
    Pair.oneSucceeded (by decide +kernel) with ⟨pair, reached, tested⟩
  have ended := tested
  unfold Pair.oneSucceeded at ended
  rw [Bool.and_eq_true, decide_eq_true_eq, decide_eq_true_eq] at ended
  exact ⟨pair, tested,
    Pair.deployments_apart (by decide) reached .left ended.1 ended.2⟩

end Deploy
end Cli
end DjangoOps
