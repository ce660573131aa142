import Mathlib.Data.Finset.Basic
import Mathlib.Data.Finset.Card
import DjangoOps.Foundation.Retention

namespace DjangoOps
namespace Recency

universe u v

variable {Item : Type u} [DecidableEq Item] {limit : Nat}

/-!
# A set of the most recent items

A set for the look-up and a queue for the order, which are kept together.  An
item that is in the set is not moved; a new one is added to both, and once the
queue is full its oldest item leaves both.
-/

/-- The remembered items, and their order, oldest first. -/
structure Memory (Item : Type u) where
  members : Finset Item
  order : List Item

def Memory.empty : Memory Item := ⟨∅, []⟩

def Memory.insert (limit : Nat) (memory : Memory Item) (item : Item) : Memory Item :=
  if item ∈ memory.members then memory
  else
    let kept : Finset Item × List Item :=
      if limit ≤ memory.order.length then
        match memory.order with
        | [] => (memory.members, [])
        | oldest :: rest => (memory.members.erase oldest, rest)
      else (memory.members, memory.order)
    { members := Insert.insert item kept.1, order := kept.2 ++ [item] }

theorem Memory.members_insert_subset (memory : Memory Item) (item : Item) :
    (memory.insert limit item).members ⊆ Insert.insert item memory.members := by
  unfold Memory.insert
  dsimp only
  by_cases known : item ∈ memory.members
  · rw [if_pos known]
    exact Finset.subset_insert _ _
  · rw [if_neg known]
    refine Finset.insert_subset_insert _ ?_
    by_cases full : limit ≤ memory.order.length
    · rw [if_pos full]
      cases memory.order with
      | nil => exact subset_rfl
      | cons oldest rest => exact Finset.erase_subset _ _
    · rw [if_neg full]

/-! ## The insertions that have an effect -/

/-- One more insertion, which has no effect on an item among the most recent ones. -/
def record (limit : Nat) (log : List Item) (item : Item) : List Item :=
  if item ∈ log.rtake limit then log else log ++ [item]

/-- The effective ones of a sequence of insertions. -/
def effective (limit : Nat) (items : List Item) : List Item := items.foldl (record limit) []

theorem effective_concat (items : List Item) (item : Item) :
    effective limit (items ++ [item]) = record limit (effective limit items) item := by
  rw [effective, List.foldl_append]
  rfl

/-- Further insertions write behind what has been written. -/
theorem foldl_record (log later : List Item) :
    Exists fun written : List Item =>
      later.foldl (record limit) log = log ++ written ∧
        forall item, item ∈ written -> item ∈ later := by
  induction later generalizing log with
  | nil => exact ⟨[], (List.append_nil log).symm, fun _ impossible => impossible⟩
  | cons item rest inductionHypothesis =>
      rcases inductionHypothesis (record limit log item) with ⟨written, whole, listed⟩
      rw [List.foldl_cons, whole]
      unfold record
      by_cases known : item ∈ log.rtake limit
      · rw [if_pos known]
        exact ⟨written, rfl, fun other member => .tail item (listed other member)⟩
      · rw [if_neg known]
        refine ⟨item :: written, List.append_assoc _ _ _, ?_⟩
        intro other member
        rcases List.mem_cons.mp member with rfl | member
        · exact .head _
        · exact .tail item (listed other member)

/-- No item is among the most recent ones in front of it. -/
def Spaced (limit : Nat) (log : List Item) : Prop :=
  forall before item behind, log = before ++ item :: behind -> item ∉ before.rtake limit

theorem Spaced.record {log : List Item} (spaced : Spaced limit log) (item : Item) :
    Spaced limit (record limit log item) := by
  unfold Recency.record
  by_cases known : item ∈ log.rtake limit
  · rw [if_pos known]
    exact spaced
  · rw [if_neg known]
    intro before other behind split
    rcases List.eq_nil_or_concat behind with rfl | ⟨front, last, rfl⟩
    · rcases List.append_inj' split rfl with ⟨rfl, single⟩
      rw [← List.singleton_inj.mp single]
      exact known
    · rw [List.concat_eq_append, ← List.cons_append, ← List.append_assoc] at split
      exact spaced before other front (List.append_inj' split rfl).1

theorem spaced_effective (items : List Item) : Spaced limit (effective limit items) := by
  induction items using List.reverseRecOn with
  | nil =>
      intro before item behind split
      cases before <;> cases split
  | append_singleton items item inductionHypothesis =>
      rw [effective_concat]
      exact inductionHypothesis.record item

omit [DecidableEq Item] in
/-- What is written last, as long as it is no more than the limit, is among the
most recent items. -/
theorem suffix_rtake {log recent : List Item} (short : recent.length ≤ limit) :
    recent <:+ (log ++ recent).rtake limit := by
  rw [List.rtake, List.length_append]
  have enough : log.length + recent.length - limit ≤ log.length := by omega
  rw [List.drop_append_of_le_length enough]
  exact List.suffix_append _ _

omit [DecidableEq Item] in
/-- An item and as many behind it as the limit says are distinct. -/
theorem Spaced.nodup {before behind : List Item} {item : Item}
    (spaced : Spaced limit (before ++ item :: behind)) (count : Nat) (few : count ≤ limit) :
    (item :: behind.take count).Nodup := by
  induction count with
  | zero => exact List.nodup_singleton item
  | succ count inductionHypothesis =>
      have shorter := inductionHypothesis (by omega)
      by_cases there : count < behind.length
      · rw [List.take_succ_eq_append_getElem there, ← List.cons_append]
        refine List.Nodup.append shorter (List.nodup_singleton _) ?_
        have fresh := spaced (before ++ item :: behind.take count) behind[count]
          (behind.drop (count + 1)) (by
            rw [List.append_assoc, List.cons_append, ← List.drop_eq_getElem_cons there,
              List.take_append_drop])
        intro other listed same
        rw [List.mem_singleton] at same
        subst same
        apply fresh
        refine (suffix_rtake ?_).subset listed
        rw [List.length_cons, List.length_take]
        omega
      · rw [List.take_of_length_le (by omega)] at shorter ⊢
        exact shorter

/-! ## What the memory holds -/

/-- The memory holds the most recent items of a log. -/
structure Holds (limit : Nat) (log : List Item) (memory : Memory Item) : Prop where
  recent : memory.order = log.rtake limit
  members : memory.members = memory.order.toFinset
  distinct : memory.order.Nodup

theorem holds_empty : Holds limit [] (Memory.empty : Memory Item) :=
  ⟨by rw [List.rtake_nil]; rfl, rfl, List.nodup_nil⟩

section Insertion

variable {log : List Item} {memory : Memory Item} (holds : Holds limit log memory)

include holds

theorem Holds.mem_iff (item : Item) : item ∈ memory.members <-> item ∈ memory.order := by
  rw [holds.members, List.mem_toFinset]

theorem Holds.bounded : memory.order.length ≤ limit := by
  rw [holds.recent]
  exact Retention.length_rtake_le limit _

/-- A new item makes room for itself. -/
theorem Holds.insert_new {item : Item} (positive : 0 < limit) (news : item ∉ memory.members) :
    (memory.insert limit item).order = Retention.push limit memory.order item ∧
      (memory.insert limit item).members =
        (Retention.push limit memory.order item).toFinset := by
  unfold Memory.insert Retention.push
  rw [if_neg news]
  by_cases full : limit ≤ memory.order.length
  · cases order : memory.order with
    | nil =>
        rw [order] at full
        exact absurd full (by rw [List.length_nil]; omega)
    | cons oldest rest =>
        have distinct := holds.distinct
        have members := holds.members
        rw [order] at full distinct members
        dsimp only
        rw [if_pos full, if_pos full]
        refine ⟨rfl, ?_⟩
        dsimp only [List.tail_cons]
        rw [members, List.toFinset_append, List.toFinset_cons, Finset.erase_insert,
          Finset.union_comm]
        · rfl
        · rw [List.mem_toFinset]
          exact (List.nodup_cons.mp distinct).1
  · dsimp only
    rw [if_neg full, if_neg full]
    refine ⟨rfl, ?_⟩
    dsimp only
    rw [holds.members, List.toFinset_append, Finset.union_comm]
    rfl

/-- What one insertion preserves. -/
theorem Holds.insert (positive : 0 < limit) (item : Item) :
    Holds limit (record limit log item) (memory.insert limit item) := by
  by_cases known : item ∈ memory.members
  · have listed := (holds.mem_iff item).mp known
    rw [holds.recent] at listed
    rw [Memory.insert, if_pos known, record, if_pos listed]
    exact holds
  · have fresh : item ∉ memory.order := fun listed => known ((holds.mem_iff item).mpr listed)
    rcases holds.insert_new positive known with ⟨order, members⟩
    refine ⟨?_, ?_, ?_⟩
    · rw [order, record, holds.recent, if_neg, Retention.push_rtake positive]
      rw [← holds.recent]
      exact fresh
    · rw [members, order]
    · rw [order]
      exact Retention.nodup_push holds.distinct fresh

end Insertion

/-- What every sequence of insertions preserves. -/
theorem holds_run (positive : 0 < limit) (items : List Item) :
    Holds limit (effective limit items) (items.foldl (Memory.insert limit) Memory.empty) := by
  induction items using List.reverseRecOn with
  | nil => exact holds_empty
  | append_singleton items item inductionHypothesis =>
      rw [List.foldl_append, effective_concat]
      exact inductionHypothesis.insert positive item

/-- An item that has had an effect is forgotten only behind as many other items
as the limit says. -/
theorem forgotten {items later : List Item} {item : Item}
    (news : item ∉ (effective limit items).rtake limit)
    (lost : item ∉ (effective limit (items ++ item :: later)).rtake limit) :
    limit ≤ (later.toFinset.erase item).card := by
  rcases @foldl_record _ _ limit (effective limit items ++ [item]) later with
    ⟨written, whole, listed⟩
  have log : effective limit (items ++ item :: later) =
      effective limit items ++ item :: written := by
    have first : record limit (effective limit items) item = effective limit items ++ [item] :=
      if_neg news
    rw [effective, List.foldl_append, List.foldl_cons]
    change later.foldl (record limit) (record limit (effective limit items) item) = _
    rw [first, whole, List.append_assoc]
    rfl
  have spaced := @spaced_effective _ _ limit (items ++ item :: later)
  rw [log] at lost spaced
  have many : limit ≤ written.length := by
    by_contra few
    refine lost ((suffix_rtake ?_).subset (.head _))
    rw [List.length_cons]
    omega
  have distinct := List.nodup_cons.mp (spaced.nodup limit (Nat.le_refl limit))
  calc
    limit = (written.take limit).length := by rw [List.length_take]; omega
    _ = (written.take limit).toFinset.card := (List.toFinset_card_of_nodup distinct.2).symm
    _ ≤ (later.toFinset.erase item).card := by
      apply Finset.card_le_card
      intro other member
      rw [List.mem_toFinset] at member
      rw [Finset.mem_erase, List.mem_toFinset]
      refine ⟨?_, listed other (List.mem_of_mem_take member)⟩
      rintro rfl
      exact distinct.1 member

/-! ## A program that keeps such a memory -/

/-- Under every sequence of insertions into a state, its memory holds the most
recent items. -/
structure Remembers {State : Type v} (limit : Nat) (insert : State -> Item -> State)
    (memory : State -> Memory Item) (start : State) : Prop where
  members : forall items : List Item, (memory (items.foldl insert start)).members =
    (memory (items.foldl insert start)).order.toFinset
  distinct : forall items : List Item, (memory (items.foldl insert start)).order.Nodup
  bounded : forall items : List Item, (memory (items.foldl insert start)).order.length ≤ limit
  recent : forall items : List Item, (memory (items.foldl insert start)).order =
    (effective limit items).rtake limit
  known : forall (items : List Item) (item : Item),
    item ∈ (memory (items.foldl insert start)).members ->
    insert (items.foldl insert start) item = items.foldl insert start
  forgotten : forall (items later : List Item) (item : Item),
    item ∉ (memory (items.foldl insert start)).members ->
    item ∉ (memory ((items ++ item :: later).foldl insert start)).members ->
    limit ≤ (later.toFinset.erase item).card

theorem remembers_of_insert {State : Type v} {insert : State -> Item -> State}
    {memory : State -> Memory Item} {start : State} (positive : 0 < limit)
    (started : memory start = Memory.empty)
    (inserted : forall state item, memory (insert state item) = (memory state).insert limit item)
    (known : forall state item, item ∈ (memory state).members -> insert state item = state) :
    Remembers limit insert memory start := by
  have run : forall items : List Item, memory (items.foldl insert start) =
      items.foldl (Memory.insert limit) Memory.empty := by
    intro items
    induction items using List.reverseRecOn with
    | nil => exact started
    | append_singleton items item inductionHypothesis =>
        rw [List.foldl_append, List.foldl_append, ← inductionHypothesis]
        exact inserted _ item
  have holds : forall items,
      Holds limit (effective limit items) (memory (items.foldl insert start)) := by
    intro items
    rw [run]
    exact holds_run positive items
  refine ⟨fun items => (holds items).members, fun items => (holds items).distinct,
    fun items => (holds items).bounded, fun items => (holds items).recent,
    fun items item => known _ item, ?_⟩
  intro items later item news lost
  rw [(holds _).mem_iff, (holds _).recent] at news lost
  exact forgotten news lost

end Recency
end DjangoOps
