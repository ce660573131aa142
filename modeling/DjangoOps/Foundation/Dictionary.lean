import Mathlib.Data.List.Nodup
import Mathlib.Tactic.Common

namespace DjangoOps

universe u

/-!
# Dictionaries

A dictionary with string keys is a list of members in the order in which their
keys were first written.
-/

namespace Dictionary

variable {Value : Type u}

def get (key : String) (members : List (String × Value)) : Option Value :=
  (members.find? fun member => decide (member.1 = key)).map Prod.snd

/-- Write a key, in its place when it is there. -/
def set (key : String) (value : Value) : List (String × Value) -> List (String × Value)
  | [] => [(key, value)]
  | member :: rest =>
      if member.1 = key then (key, value) :: rest else member :: set key value rest

theorem get_cons_self (key : String) (value : Value) (rest : List (String × Value)) :
    get key ((key, value) :: rest) = some value := by
  simp only [get, List.find?_cons, decide_true, Option.map_some]

theorem get_cons_ne {key : String} {member : String × Value} (different : member.1 ≠ key)
    (rest : List (String × Value)) : get key (member :: rest) = get key rest := by
  simp only [get, List.find?_cons, decide_eq_false different]

theorem get_set_self (key : String) (value : Value) (members : List (String × Value)) :
    get key (set key value members) = some value := by
  induction members with
  | nil => exact get_cons_self key value []
  | cons member rest inductionHypothesis =>
      by_cases same : member.1 = key
      · rw [set, if_pos same]
        exact get_cons_self key value rest
      · rw [set, if_neg same, get_cons_ne same]
        exact inductionHypothesis

theorem get_set_ne {key other : String} (different : other ≠ key) (value : Value)
    (members : List (String × Value)) : get other (set key value members) = get other members := by
  induction members with
  | nil => exact get_cons_ne (Ne.symm different) []
  | cons member rest inductionHypothesis =>
      by_cases same : member.1 = key
      · have skipped : member.1 ≠ other := fun again => different (again.symm.trans same)
        rw [set, if_pos same, get_cons_ne (Ne.symm different), get_cons_ne skipped]
      · rw [set, if_neg same]
        by_cases found : member.1 = other
        · simp only [get, List.find?_cons, decide_eq_true found]
        · rw [get_cons_ne found, get_cons_ne found, inductionHypothesis]

/-- A key that has the value already is written in vain. -/
theorem set_of_get {key : String} {value : Value} {members : List (String × Value)}
    (found : get key members = some value) : set key value members = members := by
  induction members with
  | nil => cases found
  | cons member rest inductionHypothesis =>
      by_cases same : member.1 = key
      · subst same
        have equal : member.2 = value :=
          Option.some.inj ((get_cons_self member.1 member.2 rest).symm.trans found)
        rw [set, if_pos rfl, ← equal]
      · rw [get_cons_ne same] at found
        rw [set, if_neg same, inductionHypothesis found]

theorem keys_set (key : String) (value : Value) (members : List (String × Value)) :
    (set key value members).map Prod.fst =
      if key ∈ members.map Prod.fst then members.map Prod.fst
      else members.map Prod.fst ++ [key] := by
  induction members with
  | nil => rfl
  | cons member rest inductionHypothesis =>
      by_cases same : member.1 = key
      · rw [set, if_pos same, if_pos]
        · rw [List.map_cons, List.map_cons, same]
        · rw [List.map_cons, same]
          exact List.mem_cons_self
      · rw [set, if_neg same, List.map_cons, inductionHypothesis, List.map_cons]
        by_cases later : key ∈ rest.map Prod.fst
        · rw [if_pos later, if_pos (List.mem_cons_of_mem _ later)]
        · rw [if_neg later, if_neg]
          · rfl
          · rw [List.mem_cons]
            rintro (head | tail)
            · exact same head.symm
            · exact later tail

theorem nodup_set {key : String} {value : Value} {members : List (String × Value)}
    (keys : (members.map Prod.fst).Nodup) : ((set key value members).map Prod.fst).Nodup := by
  rw [keys_set]
  by_cases listed : key ∈ members.map Prod.fst
  · rw [if_pos listed]
    exact keys
  · rw [if_neg listed]
    apply List.nodup_append.mpr
    refine ⟨keys, List.nodup_singleton key, ?_⟩
    rintro first member second listedSecond rfl
    exact listed (List.mem_singleton.mp listedSecond ▸ member)

/-- A key that is not there is written behind the others. -/
theorem set_of_missing {key : String} {value : Value} {members : List (String × Value)}
    (missing : key ∉ members.map Prod.fst) : set key value members = members ++ [(key, value)] := by
  induction members with
  | nil => rfl
  | cons member rest inductionHypothesis =>
      have different : member.1 ≠ key := fun same => missing (same ▸ List.mem_cons_self)
      have later : key ∉ rest.map Prod.fst := fun found => missing (List.mem_cons_of_mem _ found)
      rw [set, if_neg different, inductionHypothesis later]
      rfl

theorem mem_set {key : String} {value : Value} {members : List (String × Value)}
    {entry : String × Value} (member : entry ∈ set key value members) :
    entry = (key, value) ∨ entry ∈ members := by
  induction members with
  | nil => exact Or.inl (List.mem_singleton.mp member)
  | cons head rest inductionHypothesis =>
      by_cases same : head.1 = key
      · rw [set, if_pos same] at member
        rcases List.mem_cons.mp member with first | later
        · exact Or.inl first
        · exact Or.inr (List.mem_cons_of_mem _ later)
      · rw [set, if_neg same] at member
        rcases List.mem_cons.mp member with first | later
        · exact Or.inr (first ▸ List.mem_cons_self)
        · rcases inductionHypothesis later with new | old
          · exact Or.inl new
          · exact Or.inr (List.mem_cons_of_mem _ old)

theorem get_of_mem {members : List (String × Value)} (keys : (members.map Prod.fst).Nodup)
    {entry : String × Value} (member : entry ∈ members) : get entry.1 members = some entry.2 := by
  induction members with
  | nil => cases member
  | cons head rest inductionHypothesis =>
      rw [List.map_cons, List.nodup_cons] at keys
      rcases List.mem_cons.mp member with first | later
      · rw [first]
        exact get_cons_self head.1 head.2 rest
      · have different : head.1 ≠ entry.1 := by
          intro same
          exact keys.1 (same ▸ List.mem_map_of_mem later)
        rw [get_cons_ne different]
        exact inductionHypothesis keys.2 later

theorem mem_of_get {key : String} {value : Value} {members : List (String × Value)}
    (found : get key members = some value) : (key, value) ∈ members := by
  unfold get at found
  rcases Option.map_eq_some_iff.mp found with ⟨entry, listed, same⟩
  have named : entry.1 = key := by
    simpa only [decide_eq_true_eq] using List.find?_some listed
  have whole : entry = (key, value) := Prod.ext named same
  exact whole ▸ List.mem_of_find?_eq_some listed

theorem not_mem_of_get_eq_none {key : String} {members : List (String × Value)}
    (missing : get key members = none) (value : Value) : (key, value) ∉ members := by
  intro member
  have refused := List.find?_eq_none.mp (Option.map_eq_none_iff.mp missing) (key, value) member
  exact refused (decide_eq_true rfl)

/-- Members with distinct keys are written one behind the other. -/
theorem foldl_set_of_nodup {members made : List (String × Value)}
    (keys : ((made ++ members).map Prod.fst).Nodup) :
    members.foldl (fun made member => set member.1 member.2 made) made = made ++ members := by
  induction members generalizing made with
  | nil => exact (List.append_nil made).symm
  | cons member rest inductionHypothesis =>
      have missing : member.1 ∉ made.map Prod.fst := by
        intro taken
        rw [List.map_append, List.map_cons] at keys
        exact List.disjoint_of_nodup_append keys taken List.mem_cons_self
      rw [List.foldl_cons, set_of_missing missing, inductionHypothesis, List.append_assoc]
      · rfl
      · rw [List.append_assoc]
        exact keys

end Dictionary

end DjangoOps
