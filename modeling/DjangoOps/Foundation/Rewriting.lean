import Mathlib.Data.List.TakeDrop

namespace DjangoOps
namespace Rewriting

/-!
# Files that are written in steps

A file is absent or holds items.  A call that writes it takes steps, and a call
that fails has taken the first of them.
-/

variable {α : Type}

inductive FileStep (α : Type)
  | truncate
  | append (item : α)
  deriving DecidableEq

/-- An opening for writing makes an absent file. -/
def FileStep.apply : FileStep α -> Option (List α) -> Option (List α)
  | .truncate, _ => some []
  | .append item, file => file.map fun items => items ++ [item]

def run (steps : List (FileStep α)) (file : Option (List α)) : Option (List α) :=
  steps.foldl (fun now step => step.apply now) file

/-- The steps that replace what a file holds. -/
def rewrite (items : List α) : List (FileStep α) := .truncate :: items.map .append

theorem run_map_append (items before : List α) :
    run (items.map .append) (some before) = some (before ++ items) := by
  induction items generalizing before with
  | nil =>
      rw [List.append_nil]
      rfl
  | cons item rest inductionHypothesis =>
      change run (rest.map .append) (some (before ++ [item])) = _
      rw [inductionHypothesis, List.append_assoc, List.singleton_append]

theorem run_rewrite (items : List α) (file : Option (List α)) :
    run (rewrite items) file = some items :=
  run_map_append items []

/-- Between its opening and its end a rewriting leaves an initial part. -/
theorem run_take_rewrite (reached : Nat) (items : List α) (file : Option (List α)) :
    run ((rewrite items).take (reached + 1)) file = some (items.take reached) := by
  unfold rewrite
  rw [List.take_succ_cons, ← List.map_take]
  exact run_rewrite (items.take reached) file

theorem take_rewrite_eq {count : Nat} {items : List α} :
    (rewrite items).take count = rewrite items <-> items.length < count := by
  have longer : (rewrite items).length = items.length + 1 := by
    unfold rewrite
    rw [List.length_cons, List.length_map]
  rw [List.take_eq_self_iff, longer, Nat.succ_le_iff]

end Rewriting
end DjangoOps
