import Mathlib.Data.List.Basic

namespace DjangoOps
namespace NumberedStream

universe u

/-!
# Numbered streams with a final item

A stream of items carries numbers that start at a fixed value and grow by one,
up to its first final item.  What follows a final item is never read, so it
may carry any number.  The definition is by recursion on the list, and the
lemmas tell how the two conditions behave when an item is appended.
-/

variable {Item : Type u} (number : Item -> Nat) (final : Item -> Bool)

/-- No item of the list is final. -/
def Open (items : List Item) : Prop := forall item, item ∈ items -> final item = false

/-- The numbers count up from `start` until the first final item. -/
def Numbered : Nat -> List Item -> Prop
  | _, [] => True
  | start, item :: rest => number item = start ∧ (final item = false -> Numbered (start + 1) rest)

variable {number final}

theorem open_nil : Open final ([] : List Item) := fun _ impossible => nomatch impossible

theorem open_append {left right : List Item} :
    Open final (left ++ right) <-> Open final left ∧ Open final right := by
  constructor
  · intro both
    exact ⟨fun item member => both item (List.mem_append.mpr (.inl member)),
      fun item member => both item (List.mem_append.mpr (.inr member))⟩
  · rintro ⟨first, second⟩ item member
    rcases List.mem_append.mp member with inLeft | inRight
    · exact first item inLeft
    · exact second item inRight

theorem open_singleton {item : Item} : Open final [item] <-> final item = false := by
  constructor
  · intro single
    exact single item (List.mem_singleton.mpr rfl)
  · intro notFinal other member
    rw [List.mem_singleton.mp member]
    exact notFinal

theorem open_dropLast {items : List Item} (opened : Open final items) :
    Open final items.dropLast :=
  fun item member => opened item (List.dropLast_subset items member)

/-- An appended item must carry the next number, unless the stream is over. -/
theorem numbered_append {start : Nat} {items : List Item} {item : Item} :
    Numbered number final start (items ++ [item]) <->
      Numbered number final start items ∧
        (Open final items -> number item = start + items.length) := by
  induction items generalizing start with
  | nil =>
      constructor
      · intro single
        exact ⟨trivial, fun _ => single.1⟩
      · rintro ⟨_, next⟩
        exact ⟨next open_nil, fun _ => trivial⟩
  | cons head tail inductionHypothesis =>
      constructor
      · rintro ⟨first, rest⟩
        refine ⟨⟨first, fun notFinal => (inductionHypothesis.mp (rest notFinal)).1⟩, ?_⟩
        intro opened
        have notFinal : final head = false := opened head (.head _)
        have next := (inductionHypothesis.mp (rest notFinal)).2
          fun other member => opened other (.tail _ member)
        rw [next, List.length_cons]
        omega
      · rintro ⟨⟨first, rest⟩, next⟩
        refine ⟨first, fun notFinal => inductionHypothesis.mpr ⟨rest notFinal, ?_⟩⟩
        intro opened
        have whole : Open final (head :: tail) := by
          intro other member
          rcases List.mem_cons.mp member with same | inTail
          · rw [same]
            exact notFinal
          · exact opened other inTail
        rw [next whole, List.length_cons]
        omega

/-- A prefix of a numbered stream is numbered. -/
theorem numbered_of_append {start : Nat} {left right : List Item}
    (numbered : Numbered number final start (left ++ right)) :
    Numbered number final start left := by
  induction left generalizing start with
  | nil => exact trivial
  | cons head tail inductionHypothesis =>
      exact ⟨numbered.1, fun notFinal => inductionHypothesis (numbered.2 notFinal)⟩

/-- What a reader sees that stops at the first final item. -/
theorem map_number_of_numbered {start : Nat} {items : List Item}
    (numbered : Numbered number final start items) (opened : Open final items.dropLast) :
    items.map number = List.range' start items.length := by
  induction items generalizing start with
  | nil => rfl
  | cons head tail inductionHypothesis =>
      rw [List.map_cons, List.length_cons, List.range'_succ, numbered.1]
      cases tail with
      | nil => rfl
      | cons second rest =>
          have notFinal : final head = false := opened head (.head _)
          rw [inductionHypothesis (numbered.2 notFinal)
            fun other member => opened other (.tail _ member)]

end NumberedStream
end DjangoOps
