import Mathlib.Data.List.Basic

namespace DjangoOps
namespace FaultyScript

universe u v w

/-!
# Scripts that may fail

A script executes its actions one after the other and gives up at the first one
that fails.  An action fails by itself when it does not apply, or because of a
fault from outside, which may leave a part of its effect.  The caller of the
script hears whether it has succeeded; the answer of a script that has done
everything may be lost.
-/

variable {State : Type u} {Action : Type v} {Left : Type w}

/-- What happens to a script from outside: nothing, the loss of its answer, or
the failure of the action with the given index. -/
inductive Fault (Left : Type w)
  | fine
  | lost
  | stop (index : Nat) (left : Left)
  deriving DecidableEq

/-- The fault behind the first action. -/
@[simp] def Fault.later : Fault Left -> Fault Left
  | .stop index left => .stop (index - 1) left
  | fault => fault

/-- A script of so many actions succeeds, if all of them apply. -/
@[simp] def Fault.passes : Fault Left -> Nat -> Bool
  | .fine, _ => true
  | .lost, _ => false
  | .stop index _, length => decide (length ≤ index)

/-- The action with the given index is executed, if those before it apply. -/
@[simp] def Fault.executes : Fault Left -> Nat -> Bool
  | .stop index _, position => decide (position < index)
  | _, _ => true

theorem Fault.later_executes (fault : Fault Left) (position : Nat) :
    fault.later.executes position = fault.executes (position + 1) := by
  cases fault with
  | fine => rfl
  | lost => rfl
  | stop index left =>
      rw [Fault.later, Fault.executes, Fault.executes, decide_eq_decide]
      omega

/-- A script whose first action is not executed. -/
theorem Fault.eq_stop {fault : Fault Left} (stopped : fault.executes 0 = false) :
    Exists fun left : Left => fault = .stop 0 left := by
  cases fault with
  | fine => cases stopped
  | lost => cases stopped
  | stop index left =>
      have first : ¬ 0 < index := of_decide_eq_false stopped
      exact ⟨left, by rw [Nat.eq_zero_of_not_pos first]⟩

/-- A script that passes has executed all its actions. -/
theorem Fault.executes_of_passes {fault : Fault Left} {position length : Nat}
    (inside : position < length) (passed : fault.passes length = true) :
    fault.executes position = true := by
  cases fault with
  | fine => rfl
  | lost => rfl
  | stop index left =>
      rw [passes, decide_eq_true_eq] at passed
      exact decide_eq_true (Nat.lt_of_lt_of_le inside passed)

/-- A script that has executed its last action and still does not pass. -/
theorem Fault.lost_iff {fault : Fault Left} {last : Nat} :
    fault = .lost <-> fault.executes last = true ∧ fault.passes (last + 1) = false := by
  cases fault with
  | fine => exact iff_of_false (fun impossible => by cases impossible) fun both => by cases both.2
  | lost => exact iff_of_true rfl ⟨rfl, rfl⟩
  | stop index left =>
      refine iff_of_false (fun impossible => by cases impossible) ?_
      rw [executes, passes, decide_eq_true_eq, decide_eq_false_iff_not]
      omega

/-- The effect of an action, and what is left of one that fails. -/
structure Semantics (State : Type u) (Action : Type v) (Left : Type w) where
  apply : Action -> State -> Option State
  partly : Action -> Left -> State -> State

namespace Semantics

variable (semantics : Semantics State Action Left)

/-- The state behind a script, and whether its caller hears of a success. -/
@[simp] def run : List Action -> Fault Left -> State -> State × Bool
  | [], fault, state => (state, fault.passes 0)
  | action :: rest, fault, state =>
      match fault with
      | .stop 0 left => (semantics.partly action left state, false)
      | fault =>
          match semantics.apply action state with
          | none => (state, false)
          | some next => run rest fault.later next

/-- All actions apply. -/
@[simp] def follow : List Action -> State -> Option State
  | [], state => some state
  | action :: rest, state => (semantics.apply action state).bind (follow rest)

variable {semantics}

theorem run_cons {action : Action} {rest : List Action} {fault : Fault Left} {state : State}
    (executed : fault.executes 0 = true) :
    semantics.run (action :: rest) fault state =
      match semantics.apply action state with
      | none => (state, false)
      | some next => semantics.run rest fault.later next := by
  cases fault with
  | fine => rfl
  | lost => rfl
  | stop index left =>
      cases index with
      | zero => cases executed
      | succ index => rfl

theorem run_cons_some {action : Action} {rest : List Action} {fault : Fault Left}
    {state next : State} (executed : fault.executes 0 = true)
    (applied : semantics.apply action state = some next) :
    semantics.run (action :: rest) fault state = semantics.run rest fault.later next := by
  rw [run_cons executed, applied]

theorem run_cons_none {action : Action} {rest : List Action} {fault : Fault Left}
    {state : State} (executed : fault.executes 0 = true)
    (refused : semantics.apply action state = none) :
    semantics.run (action :: rest) fault state = (state, false) := by
  rw [run_cons executed, refused]

/-- What every action keeps, a script keeps. -/
theorem run_invariant {invariant : State -> Prop} {actions : List Action}
    (applied : forall action, action ∈ actions -> forall before after, invariant before ->
      semantics.apply action before = some after -> invariant after)
    (failed : forall action, action ∈ actions -> forall left before, invariant before ->
      invariant (semantics.partly action left before))
    (fault : Fault Left) {state : State} (base : invariant state) :
    invariant (semantics.run actions fault state).1 := by
  induction actions generalizing fault state with
  | nil => exact base
  | cons action rest inductionHypothesis =>
      cases executed : fault.executes 0 with
      | false =>
          rcases Fault.eq_stop executed with ⟨left, rfl⟩
          exact failed action List.mem_cons_self left state base
      | true =>
          rw [run_cons executed]
          cases stepped : semantics.apply action state with
          | none => exact base
          | some next =>
              exact inductionHypothesis
                (fun other listed => applied other (List.mem_cons_of_mem _ listed))
                (fun other listed => failed other (List.mem_cons_of_mem _ listed)) fault.later
                (applied action List.mem_cons_self state next base stepped)

/-- What no action changes, a script does not change. -/
theorem run_frame {Value : Type*} (observe : State -> Value) {actions : List Action}
    (applied : forall action, action ∈ actions -> forall before after,
      semantics.apply action before = some after -> observe after = observe before)
    (failed : forall action, action ∈ actions -> forall left before,
      observe (semantics.partly action left before) = observe before)
    (fault : Fault Left) (state : State) :
    observe (semantics.run actions fault state).1 = observe state := by
  refine @run_invariant State Action Left semantics (fun reached => observe reached = observe state)
    actions ?_ ?_ fault state rfl
  · intro action listed before after same stepped
    exact (applied action listed before after stepped).trans same
  · intro action listed left before same
    exact (failed action listed left before).trans same

/-- A script succeeds when the fault lets it pass and all actions apply. -/
theorem run_succeeds {actions : List Action} {fault : Fault Left} {state after : State} :
    semantics.run actions fault state = (after, true) <->
      fault.passes actions.length = true ∧ semantics.follow actions state = some after := by
  induction actions generalizing fault state with
  | nil =>
      rw [run, follow, Prod.mk.injEq, Option.some.injEq]
      exact And.comm
  | cons action rest inductionHypothesis =>
      have later : fault.executes 0 = true ->
          (fault.passes (rest.length + 1) = true <-> fault.later.passes rest.length = true) := by
        cases fault with
        | fine => exact fun _ => Iff.rfl
        | lost => exact fun _ => Iff.rfl
        | stop index left =>
            intro executed
            have behind : 0 < index := of_decide_eq_true executed
            rw [Fault.later, Fault.passes, Fault.passes, decide_eq_true_eq, decide_eq_true_eq]
            omega
      cases executed : fault.executes 0 with
      | false =>
          rcases Fault.eq_stop executed with ⟨left, rfl⟩
          refine ⟨fun impossible => ?_, fun facts => ?_⟩
          · cases (Prod.mk.inj impossible).2
          · cases facts.1
      | true =>
          rw [run_cons executed, List.length_cons, later executed, follow]
          cases stepped : semantics.apply action state with
          | none =>
              refine ⟨fun impossible => ?_, fun facts => ?_⟩
              · cases (Prod.mk.inj impossible).2
              · cases facts.2
          | some next => exact inductionHypothesis

theorem run_succeeded {actions : List Action} {fault : Fault Left} {state : State} :
    (semantics.run actions fault state).2 = true <->
      fault.passes actions.length = true ∧ (semantics.follow actions state).isSome = true := by
  rw [Option.isSome_iff_exists]
  constructor
  · intro succeeded
    have facts := run_succeeds.mp (Prod.ext rfl succeeded :
      semantics.run actions fault state = ((semantics.run actions fault state).1, true))
    exact ⟨facts.1, _, facts.2⟩
  · rintro ⟨passed, after, followed⟩
    rw [run_succeeds.mpr ⟨passed, followed⟩]

theorem follow_of_succeeded {actions : List Action} {fault : Fault Left} {state : State}
    (succeeded : (semantics.run actions fault state).2 = true) :
    semantics.follow actions state = some (semantics.run actions fault state).1 :=
  (run_succeeds.mp (Prod.ext rfl succeeded)).2

end Semantics
end FaultyScript
end DjangoOps
