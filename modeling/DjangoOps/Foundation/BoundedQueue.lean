import Mathlib.Data.List.Basic

namespace DjangoOps

universe u v

/-!
# A bounded queue with waiting producers

The queue holds at most `capacity` items.  A producer that finds it full is
suspended together with the item it wants to add; it may later be admitted,
or its wait may be cancelled, in which case the item is lost.  No order is
promised between several suspended producers: any of them may be admitted
once there is room, so whatever is proved holds for every wake-up policy.

`pending` lists everything that has been offered and neither consumed nor
withdrawn.  As long as a producer offers an item only when nobody else is
suspended, `pending` is changed at its two ends only.
-/

/-- The items in order, and the producers suspended on a full queue. -/
structure BoundedQueue (Producer : Type u) (Item : Type v) where
  items : List Item
  putters : List (Producer × Item)

namespace BoundedQueue

variable {Producer : Type u} {Item : Type v}

def empty : BoundedQueue Producer Item := ⟨[], []⟩

/-- No room for another item. -/
def full (capacity : Nat) (queue : BoundedQueue Producer Item) : Bool :=
  decide (capacity ≤ queue.items.length)

/-- Offer an item: it is queued at once when there is room, and otherwise its
producer is suspended. -/
def put (capacity : Nat) (producer : Producer) (item : Item)
    (queue : BoundedQueue Producer Item) : BoundedQueue Producer Item :=
  if queue.full capacity then { queue with putters := queue.putters ++ [(producer, item)] }
  else { queue with items := queue.items ++ [item] }

/-- Let one suspended producer finish, when there is room for its item. -/
def resume [DecidableEq Producer] (capacity : Nat) (producer : Producer)
    (queue : BoundedQueue Producer Item) : Option (BoundedQueue Producer Item) :=
  match queue.putters.find? (fun entry => entry.1 = producer) with
  | none => none
  | some entry =>
      if queue.full capacity then none
      else some
        { items := queue.items ++ [entry.2]
          putters := queue.putters.filter (fun other => other.1 ≠ producer) }

/-- Cancel a suspended producer; its item is lost. -/
def withdraw [DecidableEq Producer] (producer : Producer)
    (queue : BoundedQueue Producer Item) : BoundedQueue Producer Item :=
  { queue with putters := queue.putters.filter (fun other => other.1 ≠ producer) }

/-- Take the oldest item. -/
def get (queue : BoundedQueue Producer Item) :
    Option (Item × BoundedQueue Producer Item) :=
  match queue.items with
  | [] => none
  | item :: rest => some (item, { queue with items := rest })

/-- Everything offered and neither consumed nor withdrawn. -/
def pending (queue : BoundedQueue Producer Item) : List Item :=
  queue.items ++ queue.putters.map Prod.snd

theorem mem_pending_put (capacity : Nat) (producer : Producer) (item other : Item)
    (queue : BoundedQueue Producer Item) :
    other ∈ (queue.put capacity producer item).pending <->
      other ∈ queue.pending ∨ other = item := by
  unfold put pending
  split
  · simp only [List.map_append, List.map_cons, List.map_nil, List.mem_append,
      List.mem_singleton, or_assoc]
  · simp only [List.mem_append, List.mem_singleton]
    constructor
    · rintro ((queued | same) | waiting)
      · exact .inl (.inl queued)
      · exact .inr same
      · exact .inl (.inr waiting)
    · rintro ((queued | waiting) | same)
      · exact .inl (.inl queued)
      · exact .inr waiting
      · exact .inl (.inr same)

/-- An offer either queues the item or suspends its producer. -/
theorem put_cases (capacity : Nat) (producer : Producer) (item : Item)
    (queue : BoundedQueue Producer Item) :
    queue.put capacity producer item =
        { queue with putters := queue.putters ++ [(producer, item)] } ∨
      queue.put capacity producer item = { queue with items := queue.items ++ [item] } := by
  unfold put
  split
  · exact .inl rfl
  · exact .inr rfl

/-- An offer is seen in the queue. -/
theorem ne_put (capacity : Nat) (producer : Producer) (item : Item)
    (queue : BoundedQueue Producer Item) : queue ≠ queue.put capacity producer item := by
  intro same
  rcases put_cases capacity producer item queue with waits | queued
  · rw [waits] at same
    have longer := congrArg (fun changed => changed.putters.length) same
    simp only [List.length_append, List.length_singleton] at longer
    omega
  · rw [queued] at same
    have longer := congrArg (fun changed => changed.items.length) same
    simp only [List.length_append, List.length_singleton] at longer
    omega

/-- Taking an item removes it from the front of `pending`. -/
theorem pending_get {queue rest : BoundedQueue Producer Item} {item : Item}
    (taken : queue.get = some (item, rest)) : queue.pending = item :: rest.pending := by
  unfold get at taken
  split at taken
  · cases taken
  · rename_i head tail items
    cases taken
    simp only [pending, items, List.cons_append]

theorem items_get {queue rest : BoundedQueue Producer Item} {item : Item}
    (taken : queue.get = some (item, rest)) : queue.items = item :: rest.items := by
  unfold get at taken
  split at taken
  · cases taken
  · rename_i head tail items
    cases taken
    exact items

theorem putters_get {queue rest : BoundedQueue Producer Item} {item : Item}
    (taken : queue.get = some (item, rest)) : rest.putters = queue.putters := by
  unfold get at taken
  split at taken
  · cases taken
  · cases taken
    rfl

theorem countP_pending_put (capacity : Nat) (producer : Producer) (item : Item)
    (queue : BoundedQueue Producer Item) (test : Item -> Bool) :
    (queue.put capacity producer item).pending.countP test =
      queue.pending.countP test + if test item then 1 else 0 := by
  unfold put pending
  split
  · simp only [List.map_append, List.countP_append, List.map_cons, List.map_nil,
      List.countP_singleton, Nat.add_assoc]
  · simp only [List.countP_append, List.countP_singleton]
    omega

variable [DecidableEq Producer]

/-- Withdrawing somebody else leaves the only suspended producer alone. -/
theorem putters_withdraw_of_ne {producer other : Producer} {queue : BoundedQueue Producer Item}
    {item : Item} (different : other ≠ producer) (only : queue.putters = [(other, item)]) :
    (queue.withdraw producer).putters = [(other, item)] := by
  have kept : decide (other ≠ producer) = true := decide_eq_true different
  simp only [withdraw, only, List.filter_cons, kept, if_true, List.filter_nil]

theorem countP_pending_withdraw {producer : Producer} (queue : BoundedQueue Producer Item)
    (test : Item -> Bool) :
    (queue.withdraw producer).pending.countP test ≤ queue.pending.countP test := by
  unfold withdraw pending
  simp only [List.countP_append]
  exact Nat.add_le_add_left (List.filter_sublist.map Prod.snd).countP_le _

/-- The item of an admitted producer was counted among those that wait. -/
theorem countP_filter_find {producer : Producer} (test : Item -> Bool)
    {putters : List (Producer × Item)} {entry : Producer × Item}
    (found : putters.find? (fun entry => entry.1 = producer) = some entry) :
    ((putters.filter fun other => other.1 ≠ producer).map Prod.snd).countP test +
        (if test entry.2 then 1 else 0) ≤ (putters.map Prod.snd).countP test := by
  induction putters with
  | nil => cases found
  | cons head tail inductionHypothesis =>
      by_cases own : head.1 = producer
      · rw [List.find?_cons_of_pos (by simpa using own)] at found
        cases found
        rw [List.filter_cons_of_neg (by simpa using own), List.map_cons, List.countP_cons]
        exact Nat.add_le_add_right (List.filter_sublist.map Prod.snd).countP_le _
      · rw [List.find?_cons_of_neg (by simpa using own)] at found
        rw [List.filter_cons_of_pos (by simpa using own), List.map_cons, List.map_cons,
          List.countP_cons, List.countP_cons]
        have rest := inductionHypothesis found
        omega

theorem countP_pending_resume {capacity : Nat} {producer : Producer}
    {queue after : BoundedQueue Producer Item}
    (admitted : queue.resume capacity producer = some after) (test : Item -> Bool) :
    after.pending.countP test ≤ queue.pending.countP test := by
  unfold resume at admitted
  split at admitted
  · cases admitted
  · rename_i entry found
    split at admitted <;> cases admitted
    have waiting := countP_filter_find test found
    unfold pending
    simp only [List.countP_append, List.countP_singleton]
    omega

theorem mem_pending_withdraw {producer : Producer} {queue : BoundedQueue Producer Item}
    {item : Item} (member : item ∈ (queue.withdraw producer).pending) :
    item ∈ queue.pending := by
  unfold withdraw pending at member
  rcases List.mem_append.mp member with queued | waiting
  · exact List.mem_append.mpr (.inl queued)
  · rcases List.mem_map.mp waiting with ⟨entry, listed, same⟩
    exact List.mem_append.mpr (.inr (List.mem_map.mpr ⟨entry, List.mem_of_mem_filter listed, same⟩))

/-- The admitted item is one that its producer was suspended with. -/
theorem resume_eq_some {capacity : Nat} {producer : Producer}
    {queue after : BoundedQueue Producer Item}
    (admitted : queue.resume capacity producer = some after) :
    Exists fun item : Item => (producer, item) ∈ queue.putters ∧
      after.items = queue.items ++ [item] ∧
      after.putters = queue.putters.filter (fun other => other.1 ≠ producer) := by
  unfold resume at admitted
  split at admitted
  · cases admitted
  · rename_i entry found
    split at admitted <;> cases admitted
    have named : entry.1 = producer := by
      simpa only [decide_eq_true_eq] using List.find?_some found
    exact ⟨entry.2, named ▸ List.mem_of_find?_eq_some found, rfl, rfl⟩

theorem mem_pending_resume {capacity : Nat} {producer : Producer}
    {queue after : BoundedQueue Producer Item}
    (admitted : queue.resume capacity producer = some after) {item : Item}
    (member : item ∈ after.pending) : item ∈ queue.pending := by
  unfold resume at admitted
  split at admitted
  · cases admitted
  · rename_i entry found
    split at admitted
    · cases admitted
    · cases admitted
      unfold pending at member ⊢
      rcases List.mem_append.mp member with queued | waiting
      · rcases List.mem_append.mp queued with earlier | last
        · exact List.mem_append.mpr (.inl earlier)
        · exact List.mem_append.mpr (.inr (List.mem_map.mpr
            ⟨entry, List.mem_of_find?_eq_some found, (List.mem_singleton.mp last).symm⟩))
      · rcases List.mem_map.mp waiting with ⟨other, listed, same⟩
        exact List.mem_append.mpr (.inr (List.mem_map.mpr
          ⟨other, List.mem_of_mem_filter listed, same⟩))

end BoundedQueue
end DjangoOps
