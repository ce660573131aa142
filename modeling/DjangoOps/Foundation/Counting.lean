import Mathlib.Data.List.Basic
import Mathlib.Data.Nat.Cast.Basic
import Mathlib.Tactic.Common

namespace DjangoOps

universe u

/-!
# Counters

A counter is a dictionary from keys to numbers in which a missing key counts
as zero.  What is added to one key is added to its total.  The second part
counts the items of a list that is changed at one index.
-/

abbrev Counter (Key : Type u) : Type u := List (Key × Nat)

namespace Counter

variable {Key : Type u} [DecidableEq Key]

def get (counter : Counter Key) (key : Key) : Nat :=
  ((counter.find? fun entry => decide (entry.1 = key)).map Prod.snd).getD 0

/-- Write a number, in its place when the key is there. -/
def set (counter : Counter Key) (key : Key) (value : Nat) : Counter Key :=
  match counter with
  | [] => [(key, value)]
  | entry :: rest =>
      if entry.1 = key then (key, value) :: rest else entry :: set rest key value

def add (counter : Counter Key) (key : Key) (amount : Nat) : Counter Key :=
  counter.set key (counter.get key + amount)

def total (counter : Counter Key) : Nat := (counter.map Prod.snd).sum

theorem get_cons_self (key : Key) (value : Nat) (rest : Counter Key) :
    get ((key, value) :: rest) key = value := by
  simp only [get, List.find?_cons, decide_true, Option.map_some, Option.getD_some]

theorem get_cons_ne {entry : Key × Nat} {key : Key} (different : entry.1 ≠ key)
    (rest : Counter Key) : get (entry :: rest) key = get rest key := by
  simp only [get, List.find?_cons, decide_eq_false different]

theorem get_set_self (counter : Counter Key) (key : Key) (value : Nat) :
    (counter.set key value).get key = value := by
  induction counter with
  | nil => exact get_cons_self key value []
  | cons entry rest inductionHypothesis =>
      rw [set]
      by_cases same : entry.1 = key
      · rw [if_pos same]
        exact get_cons_self key value rest
      · rw [if_neg same, get_cons_ne same]
        exact inductionHypothesis

theorem get_set_ne (counter : Counter Key) {key other : Key} (different : key ≠ other)
    (value : Nat) : (counter.set key value).get other = counter.get other := by
  induction counter with
  | nil => exact get_cons_ne different []
  | cons entry rest inductionHypothesis =>
      rw [set]
      by_cases same : entry.1 = key
      · rw [if_pos same]
        exact (get_cons_ne different rest).trans (get_cons_ne (same ▸ different) rest).symm
      · rw [if_neg same]
        by_cases found : entry.1 = other
        · rw [← found]
          exact (get_cons_self entry.1 entry.2 _).trans (get_cons_self entry.1 entry.2 rest).symm
        · rw [get_cons_ne found, get_cons_ne found, inductionHypothesis]

theorem get_add (counter : Counter Key) (key other : Key) (amount : Nat) :
    (counter.add key amount).get other =
      counter.get other + if key = other then amount else 0 := by
  unfold add
  by_cases same : key = other
  · rw [if_pos same, ← same, get_set_self]
  · rw [if_neg same, get_set_ne counter same, Nat.add_zero]

theorem total_set (counter : Counter Key) (key : Key) (value : Nat) :
    (counter.set key value).total + counter.get key = counter.total + value := by
  induction counter with
  | nil =>
      change value + 0 + 0 = 0 + value
      omega
  | cons entry rest inductionHypothesis =>
      rw [set]
      by_cases same : entry.1 = key
      · rw [if_pos same]
        have own : get (entry :: rest) key = entry.2 := same ▸ get_cons_self entry.1 entry.2 rest
        rw [own]
        simp only [total, List.map_cons, List.sum_cons]
        omega
      · rw [if_neg same, get_cons_ne same]
        simp only [total, List.map_cons, List.sum_cons] at inductionHypothesis ⊢
        omega

theorem total_add (counter : Counter Key) (key : Key) (amount : Nat) :
    (counter.add key amount).total = counter.total + amount := by
  have changed := total_set counter key (counter.get key + amount)
  unfold add
  omega

/-! ### Keys -/

def keys (counter : Counter Key) : List Key := counter.map Prod.fst

theorem mem_keys_set {counter : Counter Key} {key other : Key} {value : Nat}
    (listed : other ∈ (counter.set key value).keys) : other = key ∨ other ∈ counter.keys := by
  induction counter with
  | nil => exact Or.inl (List.mem_singleton.mp listed)
  | cons entry rest inductionHypothesis =>
      rw [set] at listed
      by_cases same : entry.1 = key
      · rw [if_pos same] at listed
        exact (List.mem_cons.mp listed).imp id (List.mem_cons_of_mem _)
      · rw [if_neg same] at listed
        rcases List.mem_cons.mp listed with own | later
        · exact Or.inr (own ▸ List.mem_cons_self)
        · exact (inductionHypothesis later).imp id (List.mem_cons_of_mem _)

theorem nodup_keys_set {counter : Counter Key} (distinct : counter.keys.Nodup) (key : Key)
    (value : Nat) : (counter.set key value).keys.Nodup := by
  induction counter with
  | nil => exact List.pairwise_singleton _ key
  | cons entry rest inductionHypothesis =>
      have parts := List.nodup_cons.mp distinct
      rw [set]
      by_cases same : entry.1 = key
      · rw [if_pos same]
        exact List.nodup_cons.mpr ⟨same ▸ parts.1, parts.2⟩
      · rw [if_neg same]
        refine List.nodup_cons.mpr ⟨?_, inductionHypothesis parts.2⟩
        intro listed
        exact (mem_keys_set listed).elim same parts.1

end Counter

/-! ## Lists that are changed at an index -/

namespace Counting

variable {Item : Type u}

/-- What is counted without the item at an index. -/
theorem countP_eraseIdx {items : List Item} {index : Nat} {item : Item}
    (found : items[index]? = some item) (kind : Item -> Bool) :
    (items.eraseIdx index).countP kind + (if kind item then 1 else 0) = items.countP kind := by
  induction items generalizing index with
  | nil => cases found
  | cons first rest inductionHypothesis =>
      cases index with
      | zero =>
          cases found
          rw [List.eraseIdx_cons_zero, List.countP_cons]
      | succ index =>
          rw [List.eraseIdx_cons_succ, List.countP_cons, List.countP_cons,
            ← inductionHypothesis found]
          omega

/-- What is counted with another item at an index. -/
theorem countP_set {items : List Item} {index : Nat} {item : Item}
    (found : items[index]? = some item) (other : Item) (kind : Item -> Bool) :
    (items.set index other).countP kind + (if kind item then 1 else 0) =
      items.countP kind + if kind other then 1 else 0 := by
  induction items generalizing index with
  | nil => cases found
  | cons first rest inductionHypothesis =>
      cases index with
      | zero =>
          cases found
          rw [List.set_cons_zero, List.countP_cons, List.countP_cons]
          omega
      | succ index =>
          have same := inductionHypothesis found
          rw [List.set_cons_succ, List.countP_cons, List.countP_cons]
          omega

end Counting
end DjangoOps
