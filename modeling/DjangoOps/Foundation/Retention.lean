import Mathlib.Data.List.DropRight
import Mathlib.Data.List.Nodup

namespace DjangoOps
namespace Retention

universe u

variable {Item : Type u}

/-!
# A memory of the most recent items

A list of bounded length, oldest item first.  A new item is written at its
end, and once the list is full the oldest one makes room for it.  So the list
holds the last items of the whole history of new items.
-/

/-- Write an item that is not in the list. -/
def push (limit : Nat) (kept : List Item) (item : Item) : List Item :=
  (if limit ≤ kept.length then kept.tail else kept) ++ [item]

theorem rtake_of_length_le {limit : Nat} {log : List Item} (short : log.length ≤ limit) :
    log.rtake limit = log := by
  rw [List.rtake, Nat.sub_eq_zero_of_le short, List.drop_zero]

theorem length_rtake_le (limit : Nat) (log : List Item) : (log.rtake limit).length ≤ limit := by
  rw [List.rtake, List.length_drop]
  omega

/-- The memory of a history is kept by writing every new item. -/
theorem push_rtake {limit : Nat} (positive : 0 < limit) (log : List Item) (item : Item) :
    push limit (log.rtake limit) item = (log ++ [item]).rtake limit := by
  unfold push
  by_cases full : limit ≤ log.length
  · have whole : (log.rtake limit).length = limit := by
      rw [List.rtake, List.length_drop]
      omega
    have moved : log.length + 1 - limit ≤ log.length := by omega
    have next : log.length + 1 - limit = log.length - limit + 1 := by omega
    rw [whole, if_pos (Nat.le_refl limit), List.rtake, List.rtake, List.tail_drop,
      List.length_append, List.length_singleton, List.drop_append_of_le_length moved, next]
  · have short : log.length ≤ limit := by omega
    rw [rtake_of_length_le short, if_neg full, rtake_of_length_le]
    rw [List.length_append, List.length_singleton]
    omega

theorem nodup_push {limit : Nat} {kept : List Item} {item : Item} (distinct : kept.Nodup)
    (news : item ∉ kept) : (push limit kept item).Nodup := by
  have rest : forall list : List Item, list.Nodup -> item ∉ list -> (list ++ [item]).Nodup := by
    intro list nodup fresh
    rw [List.nodup_append]
    refine ⟨nodup, List.nodup_singleton item, ?_⟩
    rintro other listed _ single rfl
    exact fresh (List.mem_singleton.mp single ▸ listed)
  unfold push
  split
  · exact rest kept.tail distinct.tail fun listed => news (List.mem_of_mem_tail listed)
  · exact rest kept distinct news

end Retention
end DjangoOps
