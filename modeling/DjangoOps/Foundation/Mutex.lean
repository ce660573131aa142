import Mathlib.Logic.Function.Basic

namespace DjangoOps
namespace Mutex

universe u v

/-!
# Locks that serialise parties

A table names the owner of every resource that is locked, and every party
says which resource it believes to hold.  The belief is exclusive when the
table confirms it: then no two parties hold one resource.
-/

variable {Party : Type u} {Resource : Type v}

/-- The table confirms what the parties hold. -/
def Exclusive (owner : Resource -> Option Party) (held : Party -> Option Resource) : Prop :=
  forall party resource, held party = some resource -> owner resource = some party

section Exclusive

variable {owner : Resource -> Option Party} {held : Party -> Option Resource}

/-- One party at most holds a resource. -/
theorem Exclusive.holder_unique (exclusive : Exclusive owner held) {first second : Party}
    {resource : Resource} (firstHolds : held first = some resource)
    (secondHolds : held second = some resource) : first = second := by
  have confirmed := exclusive first resource firstHolds
  rw [exclusive second resource secondHolds] at confirmed
  exact (Option.some.inj confirmed).symm

/-- Parties may stop holding what they hold. -/
theorem Exclusive.mono (exclusive : Exclusive owner held) {later : Party -> Option Resource}
    (keeps : forall party resource, later party = some resource -> held party = some resource) :
    Exclusive owner later :=
  fun party resource holds => exclusive party resource (keeps party resource holds)

/-- A party takes a resource that nobody owns. -/
theorem Exclusive.acquire [DecidableEq Resource] (exclusive : Exclusive owner held)
    {party : Party} {resource : Resource} (free : owner resource = none)
    {later : Party -> Option Resource} (taken : later party = some resource)
    (others : forall other, other ≠ party -> later other = held other) :
    Exclusive (Function.update owner resource (some party)) later := by
  intro other claimed holds
  by_cases same : other = party
  · subst same
    rw [taken] at holds
    cases holds
    exact Function.update_self _ _ _
  · rw [others other same] at holds
    have different : claimed ≠ resource := by
      rintro rfl
      rw [exclusive other claimed holds] at free
      cases free
    rw [Function.update_of_ne different]
    exact exclusive other claimed holds

/-- The holder gives its resource back. -/
theorem Exclusive.release [DecidableEq Resource] (exclusive : Exclusive owner held)
    {party : Party} {resource : Resource} (holding : held party = some resource)
    {later : Party -> Option Resource} (given : later party = none)
    (others : forall other, other ≠ party -> later other = held other) :
    Exclusive (Function.update owner resource none) later := by
  intro other kept holds
  by_cases same : other = party
  · rw [same, given] at holds
    cases holds
  · rw [others other same] at holds
    have different : kept ≠ resource := by
      rintro rfl
      exact same (exclusive.holder_unique holds holding)
    rw [Function.update_of_ne different]
    exact exclusive other kept holds

end Exclusive

end Mutex
end DjangoOps
