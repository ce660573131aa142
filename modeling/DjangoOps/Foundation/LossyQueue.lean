import DjangoOps.Foundation.Refinement
import Mathlib.Data.List.Basic

namespace DjangoOps
namespace LossyQueue

universe u v

open Transition

/-!
# A queue that rather loses than waits

Items are offered to a queue of bounded length.  One that finds room is
accepted, one that finds none is dropped.  A single consumer takes the oldest
item and settles it, with a verdict, before it takes the next one.

Whatever has been accepted has been settled, is with the consumer or waits, in
the order in which it came.
-/

structure State (Item : Type u) where
  waiting : List Item
  taken : Option Item
  deriving DecidableEq

/-- An item is accepted or dropped, and an accepted one is taken and then settled. -/
inductive Event (Item : Type u) (Verdict : Type v)
  | accept (item : Item)
  | drop (item : Item)
  | take (item : Item)
  | settle (item : Item) (verdict : Verdict)
  deriving DecidableEq

section

variable {Item : Type u} {Verdict : Type v}

/-- The item of an acceptance. -/
def Event.accepted? : Event Item Verdict -> Option Item
  | .accept item => some item
  | _ => none

def Event.dropped? : Event Item Verdict -> Option Item
  | .drop item => some item
  | _ => none

def Event.taken? : Event Item Verdict -> Option Item
  | .take item => some item
  | _ => none

def Event.settled? : Event Item Verdict -> Option (Item × Verdict)
  | .settle item verdict => some (item, verdict)
  | _ => none

def accepted (events : List (Event Item Verdict)) : List Item :=
  events.filterMap Event.accepted?

def dropped (events : List (Event Item Verdict)) : List Item :=
  events.filterMap Event.dropped?

def taken (events : List (Event Item Verdict)) : List Item :=
  events.filterMap Event.taken?

def settled (events : List (Event Item Verdict)) : List (Item × Verdict) :=
  events.filterMap Event.settled?

@[simp] theorem accepted_append (first second : List (Event Item Verdict)) :
    accepted (first ++ second) = accepted first ++ accepted second :=
  List.filterMap_append

@[simp] theorem dropped_append (first second : List (Event Item Verdict)) :
    dropped (first ++ second) = dropped first ++ dropped second :=
  List.filterMap_append

@[simp] theorem taken_append (first second : List (Event Item Verdict)) :
    taken (first ++ second) = taken first ++ taken second :=
  List.filterMap_append

@[simp] theorem settled_append (first second : List (Event Item Verdict)) :
    settled (first ++ second) = settled first ++ settled second :=
  List.filterMap_append

end

variable {Item : Type u} [DecidableEq Item] {Verdict : Type v}

def step (capacity : Nat) (state : State Item) : Event Item Verdict -> Option (State Item)
  | .accept item =>
      if state.waiting.length < capacity then
        some { state with waiting := state.waiting ++ [item] }
      else none
  | .drop _ => if state.waiting.length < capacity then none else some state
  | .take item =>
      if state.taken = none ∧ state.waiting.head? = some item then
        some { waiting := state.waiting.tail, taken := some item }
      else none
  | .settle item _ => if state.taken = some item then some { state with taken := none } else none

def initial : State Item := ⟨[], none⟩

def machine (capacity : Nat) : Machine (State Item) (Event Item Verdict) where
  initial := fun state => state = initial
  step := step capacity

/-- Where the items are behind a sequence of events. -/
structure Placed (capacity : Nat) (events : List (Event Item Verdict)) (state : State Item) :
    Prop where
  order : accepted events =
    (settled events).map Prod.fst ++ (state.taken.toList ++ state.waiting)
  takes : taken events = (settled events).map Prod.fst ++ state.taken.toList
  bound : state.waiting.length ≤ capacity

theorem Placed.step {capacity : Nat} {events : List (Event Item Verdict)}
    {before after : State Item} {event : Event Item Verdict}
    (placed : Placed capacity events before)
    (stepped : LossyQueue.step capacity before event = some after) :
    Placed capacity (events ++ [event]) after := by
  rcases placed with ⟨order, takes, bound⟩
  cases event with
  | accept item =>
      simp only [LossyQueue.step, Option.ite_none_right_eq_some, Option.some.injEq] at stepped
      rcases stepped with ⟨room, rfl⟩
      refine ⟨?_, ?_, ?_⟩
      · rw [accepted_append, settled_append, order]
        change _ ++ [item] = List.map Prod.fst (settled events ++ []) ++ _
        simp only [List.append_nil, List.append_assoc]
      · rw [taken_append, settled_append, takes]
        change _ ++ [] = List.map Prod.fst (settled events ++ []) ++ _
        simp only [List.append_nil]
      · simp only [List.length_append, List.length_singleton]
        omega
  | drop item =>
      simp only [LossyQueue.step, Option.ite_none_left_eq_some, Option.some.injEq] at stepped
      rcases stepped with ⟨_, rfl⟩
      refine ⟨?_, ?_, bound⟩
      · rw [accepted_append, settled_append, order]
        change _ ++ [] = List.map Prod.fst (settled events ++ []) ++ _
        simp only [List.append_nil]
      · rw [taken_append, settled_append, takes]
        change _ ++ [] = List.map Prod.fst (settled events ++ []) ++ _
        simp only [List.append_nil]
  | take item =>
      simp only [LossyQueue.step, Option.ite_none_right_eq_some, Option.some.injEq] at stepped
      rcases stepped with ⟨⟨free, first⟩, rfl⟩
      have parts : before.waiting = item :: before.waiting.tail :=
        List.eq_cons_of_mem_head? (Option.mem_def.mpr first)
      rw [free] at order takes
      refine ⟨?_, ?_, ?_⟩
      · rw [accepted_append, settled_append, order, parts]
        change _ ++ [] = List.map Prod.fst (settled events ++ []) ++ ([item] ++ _)
        simp only [List.append_nil, Option.toList_none, List.nil_append, List.tail_cons,
          List.singleton_append]
      · rw [taken_append, settled_append, takes]
        change _ ++ [item] = List.map Prod.fst (settled events ++ []) ++ [item]
        simp only [List.append_nil, Option.toList_none]
      · rw [List.length_tail]
        omega
  | settle item verdict =>
      simp only [LossyQueue.step, Option.ite_none_right_eq_some, Option.some.injEq] at stepped
      rcases stepped with ⟨held, rfl⟩
      rw [held] at order takes
      refine ⟨?_, ?_, bound⟩
      · rw [accepted_append, settled_append, order]
        change _ ++ [] = List.map Prod.fst (settled events ++ [(item, verdict)]) ++ ([] ++ _)
        simp only [List.append_nil, List.nil_append, List.map_append, List.map_cons,
          List.map_nil, Option.toList_some, List.append_assoc]
      · rw [taken_append, settled_append, takes]
        change _ ++ [] = List.map Prod.fst (settled events ++ [(item, verdict)]) ++ []
        simp only [List.append_nil, List.map_append, List.map_cons, List.map_nil,
          Option.toList_some]

/-- Nothing that has been accepted is lost, doubled or overtaken. -/
theorem placed_of_performed {capacity : Nat} {events : List (Event Item Verdict)}
    {state : State Item} (performed : (machine capacity).perform initial events = some state) :
    Placed capacity events state := by
  refine Machine.perform_invariant ?_ ?_ performed
  · exact ⟨rfl, rfl, Nat.zero_le _⟩
  · intro earlier before event after placed stepped
    exact placed.step stepped

/-- An item is dropped only when as many as there is room for have been accepted
and not yet been taken. -/
theorem full_of_drop {capacity : Nat} {front back : List (Event Item Verdict)} {item : Item}
    {state : State Item}
    (performed : (machine capacity).perform initial (front ++ .drop item :: back) = some state) :
    (accepted front).length = (taken front).length + capacity := by
  rw [Machine.perform_append] at performed
  rcases Option.bind_eq_some_iff.mp performed with ⟨middle, first, rest⟩
  rw [← List.singleton_append, Machine.perform_append] at rest
  rcases Option.bind_eq_some_iff.mp rest with ⟨next, dropped, _⟩
  rw [Machine.perform_one] at dropped
  change (if middle.waiting.length < capacity then none else some middle) = some next at dropped
  have full := (Option.ite_none_left_eq_some.mp dropped).1
  rcases placed_of_performed first with ⟨order, takes, bound⟩
  rw [order, takes]
  simp only [List.length_append]
  omega

end LossyQueue
end DjangoOps
