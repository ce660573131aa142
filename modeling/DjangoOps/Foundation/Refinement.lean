import DjangoOps.Foundation.Transition
import Mathlib.Data.List.Induction

namespace DjangoOps
namespace Transition

universe u v w t

/-!
# What runs show, and refinement

A run shows the events of its steps in order; a step may show none.  A machine
whose actions are the events says what may be shown.  When every step of a
concrete machine is matched by a replay of the events that it shows, every run
of the concrete machine shows a run of the other one.
-/

namespace Machine

variable {State : Type u} {Action : Type v} {Event : Type w} {Spec : Type t}

/-- The runs whose steps meet the guard, with what they show. -/
inductive Trace (machine : Machine State Action) (guard : State -> Action -> Prop)
    (shows : State -> Action -> List Event) : List Event -> State -> Prop
  | start {state : State} (initial : machine.initial state) : Trace machine guard shows [] state
  | next {events : List Event} {before after : State} {action : Action}
      (earlier : Trace machine guard shows events before) (allowed : guard before action)
      (stepped : machine.step before action = some after) :
      Trace machine guard shows (events ++ shows before action) after

/-- Every run shows something. -/
theorem ReachableUnder.trace {machine : Machine State Action} {guard : State -> Action -> Prop}
    (shows : State -> Action -> List Event) {state : State}
    (reached : machine.ReachableUnder guard state) :
    Exists fun events : List Event => Trace machine guard shows events state := by
  rcases reached with ⟨start, initial, path⟩
  induction path with
  | refl => exact ⟨[], .start initial⟩
  | tail _ last inductionHypothesis =>
      rcases inductionHypothesis with ⟨events, run⟩
      rcases last with ⟨action, allowed, stepped⟩
      exact ⟨_, run.next allowed stepped⟩

/-- The induction principle of runs with what they show. -/
theorem Trace.invariant {machine : Machine State Action} {guard : State -> Action -> Prop}
    {shows : State -> Action -> List Event} {keeps : List Event -> State -> Prop}
    (base : forall state, machine.initial state -> keeps [] state)
    (keep : forall events before action after, Trace machine guard shows events before ->
      keeps events before -> guard before action -> machine.step before action = some after ->
      keeps (events ++ shows before action) after)
    {events : List Event} {state : State} (run : Trace machine guard shows events state) :
    keeps events state := by
  induction run with
  | start initial => exact base _ initial
  | next earlier allowed stepped inductionHypothesis =>
      exact keep _ _ _ _ earlier inductionHypothesis allowed stepped

/-! ## Recording a list of actions -/

/-- Replay actions in order and collect what they show. -/
def record (machine : Machine State Action) (guard : State -> Action -> Prop)
    [forall state action, Decidable (guard state action)] (shows : State -> Action -> List Event) :
    List Event -> State -> List Action -> Option (List Event × State)
  | events, state, [] => some (events, state)
  | events, state, action :: rest =>
      if guard state action then
        (machine.step state action).bind fun next =>
          machine.record guard shows (events ++ shows state action) next rest
      else none

theorem trace_of_record {machine : Machine State Action} {guard : State -> Action -> Prop}
    [forall state action, Decidable (guard state action)] {shows : State -> Action -> List Event}
    (actions : List Action) {events : List Event} {state : State} {last : List Event × State}
    (run : Trace machine guard shows events state)
    (recorded : machine.record guard shows events state actions = some last) :
    Trace machine guard shows last.1 last.2 := by
  induction actions generalizing events state with
  | nil =>
      cases recorded
      exact run
  | cons action rest inductionHypothesis =>
      by_cases allowed : guard state action
      · rw [record, if_pos allowed] at recorded
        rcases Option.bind_eq_some_iff.mp recorded with ⟨next, stepped, remaining⟩
        exact inductionHypothesis (run.next allowed stepped) remaining
      · rw [record, if_neg allowed] at recorded
        cases recorded

/-- A recording whose end passes a Boolean test exhibits a run with the tested
property. -/
theorem exists_trace_of_record (machine : Machine State Action)
    (guard : State -> Action -> Prop) [forall state action, Decidable (guard state action)]
    (shows : State -> Action -> List Event) (actions : List Action) (start : State)
    (initial : machine.initial start) (test : List Event × State -> Bool)
    (passed : (machine.record guard shows [] start actions).map test = some true) :
    Exists fun last : List Event × State =>
      Trace machine guard shows last.1 last.2 ∧ test last = true := by
  rcases Option.map_eq_some_iff.mp passed with ⟨last, recorded, tested⟩
  exact ⟨last, trace_of_record actions (.start initial) recorded, tested⟩

/-! ## Replaying what was shown -/

/-- Perform actions in order; there is no state behind one that is not enabled. -/
def perform (machine : Machine State Action) (state : State) (actions : List Action) :
    Option State :=
  actions.foldlM machine.step state

theorem perform_append (machine : Machine State Action) (state : State)
    (first second : List Action) :
    machine.perform state (first ++ second) =
      (machine.perform state first).bind fun middle => machine.perform middle second := by
  unfold perform
  rw [List.foldlM_append]
  rfl

theorem perform_one (machine : Machine State Action) (state : State) (action : Action) :
    machine.perform state [action] = machine.step state action := by
  unfold perform
  rw [List.foldlM_cons]
  exact bind_pure _

/-- The induction principle of performed actions, from the last one backwards. -/
theorem perform_invariant {machine : Machine State Action} {start : State}
    {keeps : List Action -> State -> Prop} (base : keeps [] start)
    (keep : forall actions before action after, keeps actions before ->
      machine.step before action = some after -> keeps (actions ++ [action]) after)
    {actions : List Action} {state : State}
    (performed : machine.perform start actions = some state) : keeps actions state := by
  induction actions using List.reverseRecOn generalizing state with
  | nil =>
      cases performed
      exact base
  | append_singleton actions action inductionHypothesis =>
      rw [perform_append] at performed
      rcases Option.bind_eq_some_iff.mp performed with ⟨before, earlier, last⟩
      rw [perform_one] at last
      exact keep actions before action state (inductionHypothesis earlier) last

theorem reachable_of_perform {machine : Machine State Action} {start state : State}
    {actions : List Action} (initial : machine.initial start)
    (performed : machine.perform start actions = some state) : machine.Reachable state := by
  refine @perform_invariant _ _ machine start (fun _ state => machine.Reachable state)
    (.start initial) ?_ actions state performed
  intro _ before action after reached stepped
  exact reached.next action trivial stepped

/-! ## Refinement -/

/-- A relation between the states of two machines that every step of the first
one keeps, when the second one performs what the step shows. -/
structure Refinement (concrete : Machine State Action) (guard : State -> Action -> Prop)
    (shows : State -> Action -> List Event) (abstract : Machine Spec Event) where
  related : State -> Spec -> Prop
  start : forall state, concrete.initial state ->
    Exists fun spec : Spec => abstract.initial spec ∧ related state spec
  step : forall before action after spec, guard before action ->
    concrete.step before action = some after -> related before spec ->
    Exists fun next : Spec => abstract.perform spec (shows before action) = some next ∧
      related after next

/-- What a run shows is performed by the abstract machine, and the states that
the two end in are related. -/
theorem Refinement.performs {concrete : Machine State Action}
    {guard : State -> Action -> Prop} {shows : State -> Action -> List Event}
    {abstract : Machine Spec Event} (refinement : Refinement concrete guard shows abstract)
    {events : List Event} {state : State} (run : Trace concrete guard shows events state) :
    Exists fun begin : Spec => abstract.initial begin ∧ Exists fun spec : Spec =>
      abstract.perform begin events = some spec ∧ refinement.related state spec := by
  induction run with
  | start initial =>
      rcases refinement.start _ initial with ⟨spec, begins, related⟩
      exact ⟨spec, begins, spec, rfl, related⟩
  | next earlier allowed stepped inductionHypothesis =>
      rcases inductionHypothesis with ⟨begin, begins, spec, performed, related⟩
      rcases refinement.step _ _ _ spec allowed stepped related with ⟨next, shown, kept⟩
      refine ⟨begin, begins, next, ?_, kept⟩
      rw [perform_append, performed]
      exact shown

/-- When the refinement is equality, the states that are reached are reached by
the abstract machine. -/
theorem Refinement.reachable {Action Event : Type v} {concrete : Machine State Action}
    {shows : State -> Action -> List Event} {abstract : Machine State Event}
    (refinement : Refinement concrete (fun _ _ => True) shows abstract)
    (same : refinement.related = Eq) {state : State} (reached : concrete.Reachable state) :
    abstract.Reachable state := by
  rcases reached.trace shows with ⟨events, run⟩
  rcases refinement.performs run with ⟨begin, begins, spec, performed, related⟩
  rw [same] at related
  rw [related]
  exact reachable_of_perform begins performed

end Machine
end Transition
end DjangoOps
