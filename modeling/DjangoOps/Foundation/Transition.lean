import Mathlib.Logic.Relation

namespace DjangoOps
namespace Transition

universe u v

/-!
# Guarded runs of executable machines

A machine is a partial step function together with its initial states.  The
step function is total data, so a finite list of actions can be replayed by
the kernel; reachability is a proposition about it.  A guard restricts the
actions that a run may take, by a condition on the state each one is taken
in.  A safety result under a guard says what every run keeps whose steps all
meet it, and the trivial guard gives the unrestricted runs.
-/

/-- An executable labelled machine.  `step` returns no state exactly when the
action is not enabled. -/
structure Machine (State : Type u) (Action : Type v) where
  initial : State -> Prop
  step : State -> Action -> Option State

namespace Machine

variable {State : Type u} {Action : Type v}

/-- One enabled step whose action meets the guard in the state it leaves. -/
def StepUnder (machine : Machine State Action) (guard : State -> Action -> Prop)
    (before after : State) : Prop :=
  Exists fun action : Action => guard before action ∧ machine.step before action = some after

/-- The states of the runs whose steps all meet the guard. -/
def ReachableUnder (machine : Machine State Action) (guard : State -> Action -> Prop)
    (state : State) : Prop :=
  Exists fun start : State => machine.initial start ∧
    Relation.ReflTransGen (machine.StepUnder guard) start state

/-- The states of all runs. -/
def Reachable (machine : Machine State Action) (state : State) : Prop :=
  machine.ReachableUnder (fun _ _ => True) state

theorem ReachableUnder.start {machine : Machine State Action} {guard : State -> Action -> Prop}
    {state : State} (initial : machine.initial state) : machine.ReachableUnder guard state :=
  ⟨state, initial, .refl⟩

theorem ReachableUnder.next {machine : Machine State Action} {guard : State -> Action -> Prop}
    {before after : State} (reached : machine.ReachableUnder guard before) (action : Action)
    (allowed : guard before action) (stepped : machine.step before action = some after) :
    machine.ReachableUnder guard after := by
  rcases reached with ⟨start, initial, path⟩
  exact ⟨start, initial, path.tail ⟨action, allowed, stepped⟩⟩

/-- The induction principle of guarded runs.  The step case may use that its
source is itself reachable, so invariants can be proved one on top of another. -/
theorem ReachableUnder.invariant {machine : Machine State Action}
    {guard : State -> Action -> Prop} {invariant : State -> Prop}
    (base : forall state, machine.initial state -> invariant state)
    (keep : forall before action after, machine.ReachableUnder guard before ->
      invariant before -> guard before action -> machine.step before action = some after ->
      invariant after)
    {state : State} (reached : machine.ReachableUnder guard state) : invariant state := by
  rcases reached with ⟨start, initial, path⟩
  induction path with
  | refl => exact base start initial
  | tail earlier last inductionHypothesis =>
      rcases last with ⟨action, allowed, stepped⟩
      exact keep _ action _ ⟨start, initial, earlier⟩ inductionHypothesis allowed stepped

theorem ReachableUnder.mono {machine : Machine State Action}
    {strong weak : State -> Action -> Prop}
    (weaker : forall state action, strong state action -> weak state action)
    {state : State} (reached : machine.ReachableUnder strong state) :
    machine.ReachableUnder weak state := by
  rcases reached with ⟨start, initial, path⟩
  refine ⟨start, initial, path.lift id ?_⟩
  rintro source target ⟨action, allowed, stepped⟩
  exact ⟨action, weaker source action allowed, stepped⟩

/-- Forget the guard. -/
theorem ReachableUnder.reachable {machine : Machine State Action}
    {guard : State -> Action -> Prop} {state : State}
    (reached : machine.ReachableUnder guard state) : machine.Reachable state :=
  reached.mono fun _ _ _ => trivial

/-! ## Replaying a list of actions -/

/-- Replay actions in order, refusing the first one that is not enabled or
does not meet the guard. -/
def replay (machine : Machine State Action) (guard : State -> Action -> Prop)
    [forall state action, Decidable (guard state action)] :
    State -> List Action -> Option State
  | state, [] => some state
  | state, action :: rest =>
      if guard state action then
        (machine.step state action).bind fun next => machine.replay guard next rest
      else none

/-- A successful replay is a guarded run. -/
theorem reachableUnder_of_replay {machine : Machine State Action}
    {guard : State -> Action -> Prop} [forall state action, Decidable (guard state action)]
    (actions : List Action) {before after : State}
    (reached : machine.ReachableUnder guard before)
    (replayed : machine.replay guard before actions = some after) :
    machine.ReachableUnder guard after := by
  induction actions generalizing before with
  | nil =>
      cases replayed
      exact reached
  | cons action rest inductionHypothesis =>
      by_cases allowed : guard before action
      · rw [replay, if_pos allowed] at replayed
        rcases Option.bind_eq_some_iff.mp replayed with ⟨next, stepped, remaining⟩
        exact inductionHypothesis (reached.next action allowed stepped) remaining
      · rw [replay, if_neg allowed] at replayed
        cases replayed

/-- A replay whose last state passes a Boolean test exhibits a reachable state
with the tested property. -/
theorem exists_reachableUnder_of_replay (machine : Machine State Action)
    (guard : State -> Action -> Prop) [forall state action, Decidable (guard state action)]
    (actions : List Action) (start : State) (initial : machine.initial start)
    (test : State -> Bool)
    (passed : (machine.replay guard start actions).map test = some true) :
    Exists fun state : State => machine.ReachableUnder guard state ∧ test state = true := by
  rcases Option.map_eq_some_iff.mp passed with ⟨state, replayed, tested⟩
  exact ⟨state, reachableUnder_of_replay actions (.start initial) replayed, tested⟩

end Machine
end Transition
end DjangoOps
