import Mathlib.Data.List.AList

namespace DjangoOps
namespace Eviction

universe u v w

variable {Key : Type u} {Entry : Type v} {Age : Type w}

/-!
# Eviction of the oldest entries

A map that is to shrink to a target loses entries of one kind, the oldest one
first, until it fits or has no entry of this kind any more.
-/

/-- Some arrangement by age; keys of the same age stand in any order. -/
structure Arrangement (Key : Type u) (Age : Type w) [LE Age] where
  sort : List (Key × Age) -> List (Key × Age)
  perm : forall pairs, (sort pairs).Perm pairs
  ordered : forall pairs, (sort pairs).Pairwise fun left right => left.2 ≤ right.2

section Keys

variable [DecidableEq Key]

/-- The entries that may go, with their ages. -/
def candidates (evictable : Entry -> Bool) (age : Entry -> Age)
    (store : AList fun _ : Key => Entry) : List (Key × Age) :=
  (store.entries.filter fun entry => evictable entry.2).map fun entry => (entry.1, age entry.2)

/-- Erase the keys in front while the map is larger than the target. -/
def evict (target : Int) :
    (AList fun _ : Key => Entry) -> List (Key × Age) -> AList fun _ : Key => Entry
  | store, [] => store
  | store, oldest :: rest =>
      if target < store.entries.length then evict target (store.erase oldest.1) rest else store

def prune [LE Age] (arrangement : Arrangement Key Age) (evictable : Entry -> Bool)
    (age : Entry -> Age) (store : AList fun _ : Key => Entry) (target : Int) :
    AList fun _ : Key => Entry :=
  if store.entries.length ≤ target then store
  else evict target store (arrangement.sort (candidates evictable age store))

/-! ## The loop -/

theorem length_erase {store : AList fun _ : Key => Entry} {key : Key} (member : key ∈ store) :
    (store.erase key).entries.length + 1 = store.entries.length := by
  have keys : (store.erase key).keys.length + 1 = store.keys.length := by
    have listed := AList.mem_keys.mp member
    have positive := List.length_pos_of_mem listed
    rw [AList.keys_erase, List.length_erase_of_mem listed]
    omega
  simpa only [AList.keys, List.keys, List.length_map] using keys

/-- The loop erases the keys of a front part of the list and no others. -/
theorem evict_front (target : Int) (store : AList fun _ : Key => Entry)
    (pairs : List (Key × Age)) :
    Exists fun front : List (Key × Age) => Exists fun back : List (Key × Age) =>
      pairs = front ++ back ∧
        (forall key, key ∈ front.map Prod.fst -> (evict target store pairs).lookup key = none) ∧
        forall key, key ∉ front.map Prod.fst ->
          (evict target store pairs).lookup key = store.lookup key := by
  induction pairs generalizing store with
  | nil =>
      exact ⟨[], [], rfl, fun _ impossible => (List.not_mem_nil impossible).elim, fun _ _ => rfl⟩
  | cons oldest rest inductionHypothesis =>
      unfold evict
      by_cases larger : target < store.entries.length
      · rw [if_pos larger]
        rcases inductionHypothesis (store.erase oldest.1) with ⟨front, back, split, gone, kept⟩
        refine ⟨oldest :: front, back, by rw [split]; rfl, ?_, ?_⟩
        · intro key member
          rw [List.map_cons, List.mem_cons] at member
          by_cases early : key ∈ front.map Prod.fst
          · exact gone key early
          · rw [kept key early, member.resolve_right early, AList.lookup_erase]
        · intro key other
          rw [List.map_cons, List.mem_cons, not_or] at other
          rw [kept key other.2, AList.lookup_erase_ne other.1]
      · rw [if_neg larger]
        exact ⟨[], oldest :: rest, rfl, fun _ impossible => (List.not_mem_nil impossible).elim,
          fun _ _ => rfl⟩

/-- The loop stops at the target or when it has erased all keys of the list. -/
theorem length_evict (target : Int) {store : AList fun _ : Key => Entry}
    {pairs : List (Key × Age)} (distinct : (pairs.map Prod.fst).Nodup)
    (stored : forall key, key ∈ pairs.map Prod.fst -> key ∈ store) :
    ((evict target store pairs).entries.length : Int) =
      max (min target store.entries.length) (store.entries.length - pairs.length) := by
  induction pairs generalizing store with
  | nil =>
      rw [evict, List.length_nil]
      omega
  | cons oldest rest inductionHypothesis =>
      rw [List.map_cons, List.nodup_cons] at distinct
      rw [evict, List.length_cons]
      by_cases larger : target < store.entries.length
      · have shorter := length_erase (stored oldest.1 (.head _))
        rw [if_pos larger, inductionHypothesis distinct.2]
        · omega
        · intro key member
          refine AList.mem_erase.mpr ⟨?_, stored key (.tail _ member)⟩
          rintro rfl
          exact distinct.1 member
      · rw [if_neg larger]
        omega

/-! ## The whole operation -/

section Candidates

variable {evictable : Entry -> Bool} {age : Entry -> Age} {store : AList fun _ : Key => Entry}

theorem mem_candidates {pair : Key × Age} : pair ∈ candidates evictable age store <->
    Exists fun entry : Entry =>
      store.lookup pair.1 = some entry ∧ evictable entry = true ∧ pair.2 = age entry := by
  unfold candidates
  rw [List.mem_map]
  constructor
  · rintro ⟨⟨key, entry⟩, selected, rfl⟩
    rcases List.mem_filter.mp selected with ⟨listed, may⟩
    exact ⟨entry, AList.mem_lookup_iff.mpr listed, may, rfl⟩
  · rintro ⟨entry, found, may, aged⟩
    refine ⟨⟨pair.1, entry⟩, List.mem_filter.mpr ⟨AList.mem_lookup_iff.mp found, may⟩, ?_⟩
    exact Prod.ext rfl aged.symm

omit [DecidableEq Key] in
theorem nodup_candidates : ((candidates evictable age store).map Prod.fst).Nodup := by
  unfold candidates
  rw [List.map_map]
  have keys : store.keys.Nodup := store.nodupKeys
  exact keys.sublist (List.filter_sublist.map Sigma.fst)

omit [DecidableEq Key] in
theorem length_candidates :
    (candidates evictable age store).length =
      store.entries.countP fun entry => evictable entry.2 := by
  rw [candidates, List.length_map, List.countP_eq_length_filter]

end Candidates

/-- What is left of a map that has lost its oldest evictable entries. -/
structure OldestFirst [LE Age] (evictable : Entry -> Bool) (age : Entry -> Age)
    (before after : AList fun _ : Key => Entry) (target : Int) : Prop where
  unchanged : forall key entry, after.lookup key = some entry -> before.lookup key = some entry
  chosen : forall key entry, before.lookup key = some entry -> after.lookup key = none ->
    evictable entry = true
  oldest : forall key entry other rest, before.lookup key = some entry ->
    after.lookup key = none -> after.lookup other = some rest -> evictable rest = true ->
    age entry ≤ age rest
  fits : before.entries.length ≤ target -> after = before
  length : target < before.entries.length -> (after.entries.length : Int) =
    max target (before.entries.countP fun entry => !evictable entry.2)

/-- The keys in the front part of a list of all candidates are erased. -/
structure FrontErased (evictable : Entry -> Bool) (age : Entry -> Age)
    (store after : AList fun _ : Key => Entry) (front back : List (Key × Age)) : Prop where
  candidate : forall pair, pair ∈ front ++ back <-> pair ∈ candidates evictable age store
  gone : forall key, key ∈ front.map Prod.fst -> after.lookup key = none
  kept : forall key, key ∉ front.map Prod.fst -> after.lookup key = store.lookup key

namespace FrontErased

variable {evictable : Entry -> Bool} {age : Entry -> Age}
variable {store after : AList fun _ : Key => Entry} {front back : List (Key × Age)}
variable (erased : FrontErased evictable age store after front back)

include erased

theorem mem_front {key : Key} {entry : Entry} (found : store.lookup key = some entry)
    (missing : after.lookup key = none) : (key, age entry) ∈ front ∧ evictable entry = true := by
  by_cases early : key ∈ front.map Prod.fst
  · rcases List.mem_map.mp early with ⟨pair, listed, rfl⟩
    have candidate := (erased.candidate pair).mp (List.mem_append_left back listed)
    rcases mem_candidates.mp candidate with ⟨stored, looked, may, aged⟩
    rw [found] at looked
    cases looked
    rw [← aged]
    exact ⟨listed, may⟩
  · rw [erased.kept key early, found] at missing
    cases missing

theorem unchanged {key : Key} {entry : Entry} (found : after.lookup key = some entry) :
    key ∉ front.map Prod.fst ∧ store.lookup key = some entry := by
  by_cases early : key ∈ front.map Prod.fst
  · rw [erased.gone key early] at found
    cases found
  · rw [erased.kept key early] at found
    exact ⟨early, found⟩

/-- A candidate that stays stands behind every one that has gone. -/
theorem oldest [LE Age] (ordered : (front ++ back).Pairwise fun left right => left.2 ≤ right.2)
    {key other : Key} {entry rest : Entry} (found : store.lookup key = some entry)
    (missing : after.lookup key = none) (stays : after.lookup other = some rest)
    (may : evictable rest = true) : age entry ≤ age rest := by
  rcases erased.unchanged stays with ⟨late, stored⟩
  have listed : (other, age rest) ∈ front ++ back :=
    (erased.candidate _).mpr (mem_candidates.mpr ⟨rest, stored, may, rfl⟩)
  have behind := (List.mem_append.mp listed).resolve_left fun early =>
    late (List.mem_map_of_mem early)
  exact (List.pairwise_append.mp ordered).2.2 _ (erased.mem_front found missing).1 _ behind

end FrontErased

theorem oldestFirst_prune [LE Age] (arrangement : Arrangement Key Age) (evictable : Entry -> Bool)
    (age : Entry -> Age) (store : AList fun _ : Key => Entry) (target : Int) :
    OldestFirst evictable age store (prune arrangement evictable age store target) target := by
  unfold prune
  by_cases small : store.entries.length ≤ target
  · rw [if_pos small]
    refine ⟨fun _ _ found => found, ?_, ?_, fun _ => rfl, fun larger => by omega⟩
    · intro key entry found gone
      rw [found] at gone
      cases gone
    · intro key entry other rest found gone
      rw [found] at gone
      cases gone
  · rw [if_neg small]
    have arranged := arrangement.perm (candidates evictable age store)
    have ordered := arrangement.ordered (candidates evictable age store)
    generalize arrangement.sort (candidates evictable age store) = pairs at arranged ordered
    have candidate : forall pair, pair ∈ pairs <-> pair ∈ candidates evictable age store :=
      fun _ => arranged.mem_iff
    have size : ((evict target store pairs).entries.length : Int) =
        max (min target store.entries.length) (store.entries.length - pairs.length) := by
      apply length_evict
      · exact (arranged.map Prod.fst).nodup_iff.mpr nodup_candidates
      · intro key member
        rcases List.mem_map.mp member with ⟨pair, listed, rfl⟩
        rcases mem_candidates.mp ((candidate pair).mp listed) with ⟨entry, found, _⟩
        exact AList.lookup_isSome.mp (by rw [found]; rfl)
    rcases evict_front target store pairs with ⟨front, back, split, gone, kept⟩
    generalize evict target store pairs = after at size gone kept
    rw [split] at candidate ordered
    have erased : FrontErased evictable age store after front back := ⟨candidate, gone, kept⟩
    refine ⟨fun key entry found => (erased.unchanged found).2,
      fun key entry found missing => (erased.mem_front found missing).2,
      fun key entry other rest => erased.oldest ordered, fun fits => absurd fits small, ?_⟩
    intro larger
    have whole := List.length_eq_countP_add_countP (l := store.entries)
      fun entry => evictable entry.2
    have others : (store.entries.countP fun entry => decide ¬ evictable entry.2 = true) =
        store.entries.countP fun entry => !evictable entry.2 := by
      apply List.countP_congr
      intro entry _
      cases evictable entry.2 <;> decide
    rw [size, arranged.length_eq, length_candidates]
    omega

/-! ## Maps that reflect one another -/

section Reflection

variable {Image : Type v} {view : Entry -> Image}
variable {store : AList fun _ : Key => Entry} {image : AList fun _ : Key => Image}

/-- The two maps have the same keys, and the second one holds what is to be
seen of the entries of the first one. -/
def Reflects (view : Entry -> Image) (store : AList fun _ : Key => Entry)
    (image : AList fun _ : Key => Image) : Prop :=
  forall key, image.lookup key = (store.lookup key).map view

namespace Reflects

theorem mem_iff (reflects : Reflects view store image) (key : Key) :
    key ∈ image <-> key ∈ store := by
  rw [← AList.lookup_isSome, ← AList.lookup_isSome, reflects key, Option.isSome_map]

theorem length (reflects : Reflects view store image) :
    image.entries.length = store.entries.length := by
  have keys : image.keys.Perm store.keys :=
    (List.perm_ext_iff_of_nodup image.nodupKeys store.nodupKeys).mpr fun key =>
      AList.mem_keys.symm.trans ((reflects.mem_iff key).trans AList.mem_keys)
  simpa only [AList.keys, List.keys, List.length_map] using keys.length_eq

theorem insert (reflects : Reflects view store image) (key : Key) (entry : Entry) :
    Reflects view (store.insert key entry) (image.insert key (view entry)) := by
  intro other
  by_cases same : other = key
  · rw [same, AList.lookup_insert, AList.lookup_insert]
    rfl
  · rw [AList.lookup_insert_ne same, AList.lookup_insert_ne same]
    exact reflects other

theorem erase (reflects : Reflects view store image) (key : Key) :
    Reflects view (store.erase key) (image.erase key) := by
  intro other
  by_cases same : other = key
  · rw [same, AList.lookup_erase, AList.lookup_erase]
    rfl
  · rw [AList.lookup_erase_ne same, AList.lookup_erase_ne same]
    exact reflects other

theorem evict (target : Int) (pairs : List (Key × Age)) (reflects : Reflects view store image) :
    Reflects view (Eviction.evict target store pairs) (Eviction.evict target image pairs) := by
  induction pairs generalizing store image with
  | nil => exact reflects
  | cons oldest rest inductionHypothesis =>
      unfold Eviction.evict
      rw [reflects.length]
      by_cases larger : target < store.entries.length
      · rw [if_pos larger, if_pos larger]
        exact inductionHypothesis (reflects.erase oldest.1)
      · rw [if_neg larger, if_neg larger]
        exact reflects

variable {evictable : Image -> Bool} {age : Image -> Age}

/-- The candidates are the same, in some order. -/
theorem candidates_perm (reflects : Reflects view store image) :
    (candidates evictable age image).Perm
      (candidates (fun entry => evictable (view entry)) (fun entry => age (view entry)) store) := by
  refine (List.perm_ext_iff_of_nodup (List.Nodup.of_map _ nodup_candidates)
    (List.Nodup.of_map _ nodup_candidates)).mpr fun pair => ?_
  rw [mem_candidates, mem_candidates, reflects pair.1]
  constructor
  · rintro ⟨seen, found, may, aged⟩
    rcases Option.map_eq_some_iff.mp found with ⟨entry, stored, rfl⟩
    exact ⟨entry, stored, may, aged⟩
  · rintro ⟨entry, stored, may, aged⟩
    exact ⟨view entry, by rw [stored]; rfl, may, aged⟩

/-- Pruning keeps the reflection when both prunings arrange the candidates in
one order, which only matters for a map that is too large. -/
theorem prune [LE Age] (reflects : Reflects view store image)
    {first second : Arrangement Key Age} {target : Int}
    (agree : target < store.entries.length ->
      second.sort (candidates evictable age image) = first.sort
        (candidates (fun entry => evictable (view entry)) (fun entry => age (view entry)) store)) :
    Reflects view
      (Eviction.prune first (fun entry => evictable (view entry)) (fun entry => age (view entry))
        store target)
      (Eviction.prune second evictable age image target) := by
  unfold Eviction.prune
  rw [reflects.length]
  by_cases small : store.entries.length ≤ target
  · rw [if_pos small, if_pos small]
    exact reflects
  · rw [if_neg small, if_neg small, agree (Int.not_le.mp small)]
    exact reflects.evict target _

end Reflects

end Reflection

end Keys

end Eviction
end DjangoOps
