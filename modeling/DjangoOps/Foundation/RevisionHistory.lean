import Mathlib.Data.List.Basic

namespace DjangoOps

universe u

/-!
# A history of numbered revisions

The revisions that were made, numbered from one on.  A revision installs a
content; it may be the restoration of an earlier revision, and it may fail to
take effect.  What is served is the content of the last revision that took
effect.  A revision stays in the history when it is pruned from the store, but
only a stored one can be restored.
-/

structure Revision (Content : Type u) where
  content : Content
  effective : Bool
  restores : Option Nat
  deriving DecidableEq

namespace RevisionHistory

variable {Content : Type u}

/-- The revision with a number. -/
def at? (history : List (Revision Content)) : Nat -> Option (Revision Content)
  | 0 => none
  | number + 1 => history[number]?

/-- The revision with a number, unless it has been pruned. -/
def stored? (pruned : List Nat) (history : List (Revision Content)) (number : Nat) :
    Option (Revision Content) :=
  if number ∈ pruned then none else at? history number

theorem stored?_eq_some {pruned : List Nat} {history : List (Revision Content)} {number : Nat}
    {revision : Revision Content} (stored : stored? pruned history number = some revision) :
    number ∉ pruned ∧ at? history number = some revision := by
  unfold stored? at stored
  split at stored
  · cases stored
  · rename_i kept
    exact ⟨kept, stored⟩

/-- The content that is served. -/
def served (history : List (Revision Content)) : Option Content :=
  (history.filter Revision.effective).getLast?.map Revision.content

theorem at?_append {history later : List (Revision Content)} {number : Nat}
    (inside : number ≤ history.length) : at? (history ++ later) number = at? history number := by
  cases number with
  | zero => rfl
  | succ index => exact List.getElem?_append_left inside

theorem at?_concat (history : List (Revision Content)) (revision : Revision Content) :
    at? (history ++ [revision]) (history.length + 1) = some revision :=
  List.getElem?_concat_length

theorem at?_of_inside {history : List (Revision Content)} {number : Nat} (positive : 1 ≤ number)
    (inside : number ≤ history.length) :
    Exists fun revision : Revision Content => at? history number = some revision := by
  cases number with
  | zero => exact absurd positive (by decide)
  | succ index => exact ⟨history[index], List.getElem?_eq_getElem inside⟩

/-- The newest revision is served when it took effect. -/
theorem served_of_getLast {history : List (Revision Content)} {revision : Revision Content}
    (last : history.getLast? = some revision) (effective : revision.effective = true) :
    served history = some revision.content := by
  rcases List.getLast?_eq_some_iff.mp last with ⟨earlier, rfl⟩
  unfold served
  rw [List.filter_append, List.filter_cons, if_pos effective, List.filter_nil, List.getLast?_concat]
  rfl

theorem le_length_of_at? {history : List (Revision Content)} {number : Nat}
    {revision : Revision Content} (found : at? history number = some revision) :
    number ≤ history.length := by
  cases number with
  | zero => exact Nat.zero_le _
  | succ index => exact (List.getElem?_eq_some_iff.mp found).1

/-- A restoration installs the content of the revision that it restores. -/
def Faithful (history : List (Revision Content)) : Prop :=
  forall revision, revision ∈ history -> forall number, revision.restores = some number ->
    Exists fun target : Revision Content =>
      at? history number = some target ∧ target.content = revision.content

theorem faithful_nil : Faithful ([] : List (Revision Content)) := by
  intro revision impossible
  cases impossible

theorem Faithful.concat {history : List (Revision Content)} (faithful : Faithful history)
    {revision : Revision Content}
    (restored : forall number, revision.restores = some number ->
      Exists fun target : Revision Content =>
        at? history number = some target ∧ target.content = revision.content) :
    Faithful (history ++ [revision]) := by
  have further : forall number target, at? history number = some target ->
      at? (history ++ [revision]) number = some target := fun number target found =>
    (at?_append (le_length_of_at? found)).trans found
  intro other listed number restores
  rcases List.mem_append.mp listed with old | new
  · rcases faithful other old number restores with ⟨target, found, same⟩
    exact ⟨target, further number target found, same⟩
  · cases List.mem_singleton.mp new
    rcases restored number restores with ⟨target, found, same⟩
    exact ⟨target, further number target found, same⟩

/-- A revision is still served, or served again, when it took effect and only
its restorations took effect after it. -/
theorem Faithful.served_of_restored {history : List (Revision Content)}
    (faithful : Faithful history) {number : Nat} {target : Revision Content}
    (found : at? history number = some target) (effective : target.effective = true)
    (later : forall revision, revision ∈ history.drop number -> revision.effective = true ->
      revision.restores = some number) : served history = some target.content := by
  cases number with
  | zero => cases found
  | succ index =>
      have split : history = history.take (index + 1) ++ history.drop (index + 1) :=
        (List.take_append_drop _ _).symm
      have upTo : served (history.take (index + 1)) = some target.content := by
        refine served_of_getLast ?_ effective
        rw [List.take_add_one, show history[index]? = some target from found]
        exact List.getLast?_concat
      unfold served at upTo ⊢
      rw [split, List.filter_append, List.getLast?_append]
      cases last : ((history.drop (index + 1)).filter Revision.effective).getLast? with
      | none => exact upTo
      | some newest =>
          rcases List.mem_filter.mp (List.mem_of_getLast? last) with ⟨listed, tookEffect⟩
          rcases faithful newest (List.mem_of_mem_drop listed) (index + 1)
            (later newest listed tookEffect) with ⟨restored, same, content⟩
          rw [found] at same
          cases same
          exact congrArg some content.symm

end RevisionHistory
end DjangoOps
