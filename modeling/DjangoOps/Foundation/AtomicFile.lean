import Mathlib.Logic.Function.Basic

namespace DjangoOps
namespace AtomicFile

universe u v

/-!
# Replacing a file by renaming

A new content is written to a temporary file of the same directory, which is
then renamed.  Each step may fail, and the process may end in front of every
step or behind the last one.  The target keeps its content up to the renaming
and has the new one from then on, and no other file is touched but the
temporary one.
-/

variable {Name : Type u} {Symbol : Type v}

abbrev Directory (Name : Type u) (Symbol : Type v) := Name -> Option (List Symbol)

/-- What is done in order. -/
inductive Step
  | create
  | restrict
  | write
  | sync
  | close
  | rename
  deriving DecidableEq

def script : List Step := [.create, .restrict, .write, .sync, .close, .rename]

/-- How far a replacement gets: the number of steps that have completed, how
much a writing had written that has not, whether the process ends then, and
whether a file that is left over can be removed. -/
structure Fate where
  completed : Nat
  written : Nat
  crashes : Bool
  removes : Bool
  deriving DecidableEq

/-- How a replacement ends.  The process that ends behind the renaming does not
tell that it has taken place. -/
inductive Ending
  | finished
  | failed
  | crashed
  | lost
  deriving DecidableEq

/-- The new content is in place. -/
def Ending.inPlace : Ending -> Bool
  | .finished => true
  | .lost => true
  | .failed => false
  | .crashed => false

section Replacement

variable [DecidableEq Name] (target temporary : Name) (content : List Symbol)

def Step.perform (directory : Directory Name Symbol) : Step -> Directory Name Symbol
  | .create => Function.update directory temporary (some [])
  | .restrict => directory
  | .write => Function.update directory temporary (some content)
  | .sync => directory
  | .close => directory
  | .rename =>
      Function.update (Function.update directory target (directory temporary)) temporary none

/-- The directory when so many steps have completed, with what the writing had
written if it is the next one. -/
def reached (completed written : Nat) (directory : Directory Name Symbol) :
    Directory Name Symbol :=
  let made := (script.take completed).foldl
    (fun made step => step.perform target temporary content made) directory
  if script[completed]? = some .write then
    Function.update made temporary (some (content.take written))
  else made

/-- The removal of the temporary file is deferred once it has been created. -/
def replace (fate : Fate) (directory : Directory Name Symbol) :
    Directory Name Symbol × Ending :=
  if (directory temporary).isSome then (directory, .failed)
  else
    let torn := reached target temporary content fate.completed fate.written directory
    let cleaned := if fate.removes then Function.update torn temporary none else torn
    if fate.crashes then (torn, if script.length ≤ fate.completed then .lost else .crashed)
    else if script.length ≤ fate.completed then (cleaned, .finished)
    else (if fate.completed = 0 then torn else cleaned, .failed)

/-- What a replacement leaves behind. -/
structure Replaced (before after : Directory Name Symbol) (ending : Ending) : Prop where
  goal : after target = if ending.inPlace then some content else before target
  others : forall name, name ≠ target -> name ≠ temporary -> after name = before name
  leftover : after temporary = before temporary ∨
    Exists fun count : Nat => after temporary = some (content.take count)

variable {target temporary content}

/-- A directory that differs from the first one at the temporary file only. -/
theorem Replaced.of_update {before : Directory Name Symbol} {ending : Ending}
    (distinct : target ≠ temporary) (early : ending.inPlace = false) (count : Nat) :
    Replaced target temporary content before
      (Function.update before temporary (some (content.take count))) ending where
  goal := by
    rw [Function.update_of_ne distinct, early]
    rfl
  others := fun name _ other => Function.update_of_ne other _ _
  leftover := .inr ⟨count, Function.update_self _ _ _⟩

omit [DecidableEq Name] in
theorem Replaced.refl {before : Directory Name Symbol} {ending : Ending}
    (early : ending.inPlace = false) : Replaced target temporary content before before ending where
  goal := by
    rw [early]
    rfl
  others := fun _ _ _ => rfl
  leftover := .inl rfl

theorem Replaced.cleaned {before after : Directory Name Symbol} {ending : Ending}
    (distinct : target ≠ temporary) (absent : before temporary = none) (removes : Bool)
    (replaced : Replaced target temporary content before after ending) :
    Replaced target temporary content before
      (if removes then Function.update after temporary none else after) ending := by
  cases removes with
  | false => exact replaced
  | true =>
      refine ⟨?_, ?_, .inl ?_⟩
      · exact (Function.update_of_ne distinct _ _).trans replaced.goal
      · exact fun name first second =>
          (Function.update_of_ne second _ _).trans (replaced.others name first second)
      · exact (Function.update_self _ _ _).trans absent.symm

/-- In front of the renaming only the temporary file is there in addition. -/
theorem replaced_torn (distinct : target ≠ temporary) (before : Directory Name Symbol)
    {completed : Nat} (early : completed < script.length) (written : Nat) {ending : Ending}
    (unfinished : ending.inPlace = false) :
    Replaced target temporary content before
      (reached target temporary content completed written before) ending := by
  have updated := fun count => @Replaced.of_update Name Symbol _ target temporary content before
    ending distinct unfinished count
  have whole := updated content.length
  rw [List.take_length] at whole
  match completed with
  | 0 => exact Replaced.refl unfinished
  | 1 => exact updated 0
  | 2 =>
      change Replaced _ _ _ _ (Function.update (Function.update before temporary _) temporary _) _
      rw [Function.update_idem]
      exact updated written
  | 3 | 4 | 5 =>
      change Replaced _ _ _ _ (Function.update (Function.update before temporary _) temporary _) _
      rw [Function.update_idem]
      exact whole
  | more + 6 => exact absurd early (Nat.not_lt.mpr (Nat.le_add_left 6 more))

/-- Behind the renaming the content is in place. -/
theorem replaced_renamed (distinct : target ≠ temporary) {before : Directory Name Symbol}
    (absent : before temporary = none) {completed : Nat} (late : script.length ≤ completed)
    (written : Nat) {ending : Ending} (done : ending.inPlace = true) :
    Replaced target temporary content before
      (reached target temporary content completed written before) ending := by
  have final : reached target temporary content completed written before =
      Function.update (Function.update (Function.update before temporary (some content)) target
        (some content)) temporary none := by
    unfold reached
    rw [List.getElem?_eq_none late, if_neg (by decide), List.take_of_length_le late]
    change Function.update (Function.update (Function.update (Function.update before temporary
      (some [])) temporary (some content)) target (Function.update (Function.update before
      temporary (some [])) temporary (some content) temporary)) temporary none = _
    rw [Function.update_idem, Function.update_self]
  rw [final]
  refine ⟨?_, ?_, .inl ?_⟩
  · rw [Function.update_of_ne distinct, Function.update_self, done]
    rfl
  · intro name first second
    rw [Function.update_of_ne second, Function.update_of_ne first, Function.update_of_ne second]
  · rw [Function.update_self, absent]

/-- Whatever becomes of a replacement, the target has its old content or the
new one, and the ending says which unless the process has ended. -/
theorem replaced_replace (distinct : target ≠ temporary) (fate : Fate)
    (before : Directory Name Symbol) :
    Replaced target temporary content before
      (replace target temporary content fate before).1
      (replace target temporary content fate before).2 := by
  unfold replace
  by_cases taken : (before temporary).isSome = true
  · rw [if_pos taken]
    exact Replaced.refl rfl
  · rw [if_neg taken]
    have absent : before temporary = none := by
      rw [Option.not_isSome_iff_eq_none] at taken
      exact taken
    dsimp only
    by_cases late : script.length ≤ fate.completed
    · cases fate.crashes with
      | true =>
          rw [if_pos rfl, if_pos late]
          exact replaced_renamed distinct absent late fate.written rfl
      | false =>
          rw [if_neg Bool.false_ne_true, if_pos late]
          exact (replaced_renamed distinct absent late fate.written rfl).cleaned distinct absent
            fate.removes
    · have early := Nat.lt_of_not_le late
      cases fate.crashes with
      | true =>
          rw [if_pos rfl, if_neg late]
          exact replaced_torn distinct before early fate.written rfl
      | false =>
          rw [if_neg Bool.false_ne_true, if_neg late]
          have torn := @replaced_torn Name Symbol _ target temporary content distinct before
            fate.completed early fate.written .failed rfl
          by_cases first : fate.completed = 0
          · rw [if_pos first]
            exact torn
          · rw [if_neg first]
            exact torn.cleaned distinct absent fate.removes

end Replacement

end AtomicFile
end DjangoOps
