import Mathlib.Data.List.Nodup

namespace DjangoOps
namespace Table

universe u

/-!
# Tables with generated keys

The rows of a table are numbered by a sequence, so every key is below the next
number and no two rows share one.  Insertions, updates that leave the keys
alone and deletions keep this.
-/

variable {Row : Type u} {key : Row -> Nat} {sequence : Nat} {rows : List Row}

structure Keyed (key : Row -> Nat) (sequence : Nat) (rows : List Row) : Prop where
  nodup : (rows.map key).Nodup
  below : forall row, row ∈ rows -> key row < sequence

/-- Change the row with a key. -/
def update (key : Row -> Nat) (pk : Nat) (change : Row -> Row) (rows : List Row) : List Row :=
  rows.map fun row => if key row = pk then change row else row

theorem mem_update {pk : Nat} {change : Row -> Row} {row : Row} :
    row ∈ update key pk change rows <->
      (Exists fun earlier : Row => earlier ∈ rows ∧ key earlier = pk ∧ change earlier = row) ∨
        (row ∈ rows ∧ key row ≠ pk) := by
  unfold update
  rw [List.mem_map]
  constructor
  · rintro ⟨earlier, listed, same⟩
    by_cases own : key earlier = pk
    · rw [if_pos own] at same
      exact .inl ⟨earlier, listed, own, same⟩
    · rw [if_neg own] at same
      subst same
      exact .inr ⟨listed, own⟩
  · rintro (⟨earlier, listed, own, same⟩ | ⟨listed, other⟩)
    · exact ⟨earlier, listed, by rw [if_pos own, same]⟩
    · exact ⟨row, listed, if_neg other⟩

/-- A lookup by distinct names finds the row. -/
theorem find?_of_nodup {Key : Type v} [DecidableEq Key] {name : Row -> Key}
    (distinct : (rows.map name).Nodup) {row : Row} (listed : row ∈ rows) :
    (rows.find? fun other => decide (name other = name row)) = some row := by
  cases found : rows.find? fun other => decide (name other = name row) with
  | none => exact absurd (decide_eq_true rfl) (List.find?_eq_none.mp found row listed)
  | some other =>
      have same := of_decide_eq_true (List.find?_some found :)
      rw [List.inj_on_of_nodup_map distinct (List.mem_of_find?_eq_some found) listed same]

namespace Keyed

theorem insert (keyed : Keyed key sequence rows) {row : Row} (numbered : key row = sequence) :
    Keyed key (sequence + 1) (row :: rows) := by
  refine ⟨?_, ?_⟩
  · rw [List.map_cons, List.nodup_cons]
    refine ⟨fun listed => ?_, keyed.nodup⟩
    rcases List.mem_map.mp listed with ⟨other, known, same⟩
    have smaller := keyed.below other known
    omega
  · intro other listed
    rcases List.mem_cons.mp listed with rfl | known
    · omega
    · have smaller := keyed.below other known
      omega

theorem update (keyed : Keyed key sequence rows) (pk : Nat) {change : Row -> Row}
    (kept : forall row, key (change row) = key row) :
    Keyed key sequence (update key pk change rows) := by
  have same : (Table.update key pk change rows).map key = rows.map key := by
    unfold Table.update
    rw [List.map_map]
    refine List.map_congr_left fun row _ => ?_
    rw [Function.comp_apply]
    split
    · exact kept row
    · rfl
  refine ⟨same ▸ keyed.nodup, fun row listed => ?_⟩
  rcases mem_update.mp listed with ⟨earlier, known, _, rfl⟩ | ⟨known, _⟩
  · exact kept earlier ▸ keyed.below earlier known
  · exact keyed.below row known

theorem filter (keyed : Keyed key sequence rows) (test : Row -> Bool) :
    Keyed key sequence (rows.filter test) :=
  ⟨keyed.nodup.sublist (List.filter_sublist.map key),
    fun row listed => keyed.below row (List.mem_of_mem_filter listed)⟩

theorem unique (keyed : Keyed key sequence rows) {first second : Row} (left : first ∈ rows)
    (right : second ∈ rows) (same : key first = key second) : first = second :=
  List.inj_on_of_nodup_map keyed.nodup left right same

/-- A lookup by key finds its row. -/
theorem find?_of_mem (keyed : Keyed key sequence rows) {row : Row} (listed : row ∈ rows) :
    (rows.find? fun other => decide (key other = key row)) = some row := by
  cases found : rows.find? fun other => decide (key other = key row) with
  | none => exact absurd (decide_eq_true rfl) (List.find?_eq_none.mp found row listed)
  | some other =>
      have same := of_decide_eq_true (List.find?_some found :)
      rw [keyed.unique (List.mem_of_find?_eq_some found) listed same]

end Keyed

/-! ## Rows of allowed owners -/

section Owners

variable {owner : Row -> Nat} {allowed : Nat -> Prop} {pk : Nat}

/-- The key has been given out, and a row that bears it has an allowed owner. -/
structure Within (key owner : Row -> Nat) (sequence : Nat) (rows : List Row)
    (allowed : Nat -> Prop) (pk : Nat) : Prop where
  given : pk < sequence
  owned : forall row, row ∈ rows -> key row = pk -> allowed (owner row)

theorem within_of_mem (keyed : Keyed key sequence rows) {row : Row} (listed : row ∈ rows)
    (permitted : allowed (owner row)) : Within key owner sequence rows allowed (key row) := by
  refine ⟨keyed.below row listed, fun other present same => ?_⟩
  rw [keyed.unique present listed same]
  exact permitted

theorem Within.insert (within : Within key owner sequence rows allowed pk) {row : Row}
    (numbered : key row = sequence) :
    Within key owner (sequence + 1) (row :: rows) allowed pk := by
  have smaller := within.given
  refine ⟨by omega, fun other listed same => ?_⟩
  rcases List.mem_cons.mp listed with rfl | earlier
  · omega
  · exact within.owned other earlier same

theorem within_inserted (keyed : Keyed key sequence rows) {row : Row}
    (numbered : key row = sequence) (permitted : allowed (owner row)) :
    Within key owner (sequence + 1) (row :: rows) allowed (key row) :=
  within_of_mem (keyed.insert numbered) (.head _) permitted

theorem Within.update (within : Within key owner sequence rows allowed pk) (other : Nat)
    {change : Row -> Row} (keptKey : forall row, key (change row) = key row)
    (keptOwner : forall row, owner (change row) = owner row) :
    Within key owner sequence (update key other change rows) allowed pk := by
  refine ⟨within.given, fun row listed same => ?_⟩
  rcases mem_update.mp listed with ⟨earlier, known, _, rfl⟩ | ⟨known, _⟩
  · rw [keptOwner]
    exact within.owned earlier known ((keptKey earlier).symm.trans same)
  · exact within.owned row known same

theorem Within.filter (within : Within key owner sequence rows allowed pk) (test : Row -> Bool) :
    Within key owner sequence (rows.filter test) allowed pk :=
  ⟨within.given, fun row listed => within.owned row (List.mem_of_mem_filter listed)⟩

/-- An update of rows that a selection leaves out does not change the selection. -/
theorem filter_update {test : Row -> Bool} {change : Row -> Row}
    (outside : forall row, row ∈ rows -> key row = pk -> test row = false)
    (kept : forall row, test (change row) = test row) :
    (update key pk change rows).filter test = rows.filter test := by
  induction rows with
  | nil => rfl
  | cons row rest inductionHypothesis =>
      have tail := inductionHypothesis fun other listed => outside other (.tail _ listed)
      change (update key pk change (row :: rest)).filter test = _
      rw [show update key pk change (row :: rest) =
        (if key row = pk then change row else row) :: update key pk change rest from rfl]
      by_cases own : key row = pk
      · have left := outside row (.head _) own
        rw [if_pos own, List.filter_cons_of_neg (by rw [kept, left]; decide), tail,
          List.filter_cons_of_neg (by rw [left]; decide)]
      · rw [if_neg own, List.filter_cons, List.filter_cons, tail]

/-- A deletion of rows that a selection leaves out does not change the selection. -/
theorem filter_delete {test keep : Row -> Bool}
    (outside : forall row, row ∈ rows -> keep row = false -> test row = false) :
    (rows.filter keep).filter test = rows.filter test := by
  rw [List.filter_filter]
  refine List.filter_congr fun row listed => ?_
  cases kept : keep row with
  | true => rw [Bool.and_true]
  | false => rw [outside row listed kept, Bool.false_and]

end Owners

/-! ## Names with one owner -/

section Names

universe v w

variable {Name : Type v} {Owner : Type w} {name : Row -> Name} {owner : Row -> Owner}

/-- Rows that bear one name belong to one owner. -/
def Exclusive (name : Row -> Name) (owner : Row -> Owner) (rows : List Row) : Prop :=
  forall first second, first ∈ rows -> second ∈ rows -> name first = name second ->
    owner first = owner second

theorem exclusive_cons {row : Row} :
    Exclusive name owner (row :: rows) <-> Exclusive name owner rows ∧
      forall other, other ∈ rows -> name other = name row -> owner other = owner row := by
  constructor
  · intro exclusive
    constructor
    · intro first second left right
      exact exclusive first second (.tail _ left) (.tail _ right)
    · intro other listed same
      exact exclusive other row (.tail _ listed) (.head _) same
  · rintro ⟨exclusive, new⟩ first second left right same
    rcases List.mem_cons.mp left with own | former
    · rcases List.mem_cons.mp right with again | latter
      · rw [own, again]
      · rw [own] at same ⊢
        exact (new second latter same.symm).symm
    · rcases List.mem_cons.mp right with own | latter
      · rw [own] at same ⊢
        exact new first former same
      · exact exclusive first second former latter same

/-- Rows that keep the names and the owners of earlier rows. -/
theorem Exclusive.of_origin (exclusive : Exclusive name owner rows) {later : List Row}
    (origin : forall row, row ∈ later -> Exists fun earlier : Row =>
      earlier ∈ rows ∧ name earlier = name row ∧ owner earlier = owner row) :
    Exclusive name owner later := by
  intro first second left right same
  rcases origin first left with ⟨former, formerListed, formerName, formerOwner⟩
  rcases origin second right with ⟨latter, latterListed, latterName, latterOwner⟩
  rw [← formerOwner, ← latterOwner]
  apply exclusive former latter formerListed latterListed
  rw [formerName, latterName]
  exact same

end Names

end Table
end DjangoOps
