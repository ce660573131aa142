import DjangoOps.Foundation.Dictionary
import Mathlib.Logic.Relation

namespace DjangoOps
namespace GraphQL

/-!
# Documents of GraphQL and the expansion of their fragments

Of the syntax tree of a document, the selections and the names of fragments.
The expansion of a document has the selections of a fragment in the place of
every spread of it.  It exists when every spread is defined and no fragment
spreads itself, directly or through others, and it is unique.
-/

/-! ## Syntax -/

/-- A selection; a field has a selection set or none. -/
inductive Selection
  | field (selectionSet : Option (List Selection))
  | fragmentSpread (name : String)
  | inlineFragment (selectionSet : List Selection)

/-- A definition of a document; those of a type system have no selections. -/
inductive Definition
  | operation (selectionSet : List Selection)
  | fragment (name : String) (selectionSet : List Selection)
  | typeSystem

/-- Fragments by their names. -/
abbrev Fragments : Type := List (String × List Selection)

structure Document where
  definitions : List Definition

def Definition.operation? : Definition -> Option (List Selection)
  | .operation selectionSet => some selectionSet
  | _ => none

def Document.operations (document : Document) : List (List Selection) :=
  document.definitions.filterMap Definition.operation?

/-- The fragments of a document, of which the last one of a name counts. -/
def Document.fragments (document : Document) : Fragments :=
  document.definitions.foldl (fun known definition =>
    match definition with
    | .fragment name selectionSet => Dictionary.set name selectionSet known
    | _ => known) []

/-! ## Spreads -/

/-- The selections spread a fragment of the name, at any depth. -/
inductive Spreads (name : String) : List Selection -> Prop
  | here (rest : List Selection) : Spreads name (.fragmentSpread name :: rest)
  | field {inner : List Selection} (inside : Spreads name inner) (rest : List Selection) :
      Spreads name (.field (some inner) :: rest)
  | inlineFragment {inner : List Selection} (inside : Spreads name inner)
      (rest : List Selection) : Spreads name (.inlineFragment inner :: rest)
  | later (first : Selection) {rest : List Selection} (inside : Spreads name rest) :
      Spreads name (first :: rest)

variable (fragments : Fragments)

/-- The fragment spreads another one. -/
def Uses (name other : String) : Prop :=
  Exists fun body : List Selection => Dictionary.get name fragments = some body ∧
    Spreads other body

/-- Every spread of the selections and of the fragments is defined. -/
structure Defined (selections : List Selection) : Prop where
  own : forall name, Spreads name selections -> (Dictionary.get name fragments).isSome = true
  used : forall name other, Uses fragments name other ->
    (Dictionary.get other fragments).isSome = true

/-- No fragment spreads itself, directly or through others. -/
def Acyclic : Prop := forall name, ¬Relation.TransGen (Uses fragments) name name

/-! ## Expansion -/

/-- Every spread is replaced by the selections of its fragment, expanded. -/
inductive Expands : List Selection -> List Selection -> Prop
  | nil : Expands [] []
  | leaf {rest more : List Selection} (behind : Expands rest more) :
      Expands (.field none :: rest) (.field none :: more)
  | field {inner expanded rest more : List Selection} (inside : Expands inner expanded)
      (behind : Expands rest more) :
      Expands (.field (some inner) :: rest) (.field (some expanded) :: more)
  | inlineFragment {inner expanded rest more : List Selection} (inside : Expands inner expanded)
      (behind : Expands rest more) :
      Expands (.inlineFragment inner :: rest) (.inlineFragment expanded :: more)
  | spread {name : String} {body expanded rest more : List Selection}
      (found : Dictionary.get name fragments = some body) (inside : Expands body expanded)
      (behind : Expands rest more) :
      Expands (.fragmentSpread name :: rest) (expanded ++ more)

variable {fragments}

/-- There is at most one expansion. -/
theorem Expands.unique {selections left right : List Selection}
    (first : Expands fragments selections left) (second : Expands fragments selections right) :
    left = right := by
  induction first generalizing right with
  | nil =>
      cases second
      rfl
  | leaf _ inductionHypothesis =>
      cases second with
      | leaf behind => rw [inductionHypothesis behind]
  | field _ _ insideHypothesis behindHypothesis =>
      cases second with
      | field inside behind => rw [insideHypothesis inside, behindHypothesis behind]
  | inlineFragment _ _ insideHypothesis behindHypothesis =>
      cases second with
      | inlineFragment inside behind => rw [insideHypothesis inside, behindHypothesis behind]
  | spread found _ _ insideHypothesis behindHypothesis =>
      cases second with
      | spread again inside behind =>
          rw [found] at again
          cases again
          rw [insideHypothesis inside, behindHypothesis behind]

theorem Expands.unique_all {operations left right : List (List Selection)}
    (first : List.Forall₂ (Expands fragments) operations left)
    (second : List.Forall₂ (Expands fragments) operations right) : left = right := by
  induction first generalizing right with
  | nil =>
      cases second
      rfl
  | cons head _ inductionHypothesis =>
      cases second with
      | cons other rest => rw [head.unique other, inductionHypothesis rest]

/-- Every spread of the operations and of the fragments is defined. -/
structure Document.Defined (document : Document) : Prop where
  own : forall selections, selections ∈ document.operations -> forall name,
    Spreads name selections -> (Dictionary.get name document.fragments).isSome = true
  used : forall name other, Uses document.fragments name other ->
    (Dictionary.get other document.fragments).isSome = true

theorem Document.Defined.operation {document : Document} (defined : document.Defined)
    (selections : List Selection) (listed : selections ∈ document.operations) :
    GraphQL.Defined document.fragments selections :=
  ⟨defined.own selections listed, defined.used⟩

/-- No fragment of the document spreads itself, directly or through others. -/
def Document.Acyclic (document : Document) : Prop := GraphQL.Acyclic document.fragments

/-- The operations of a document, with every spread replaced. -/
def Document.Expansion (document : Document) (expanded : List (List Selection)) : Prop :=
  List.Forall₂ (Expands document.fragments) document.operations expanded

theorem Document.Expansion.unique {document : Document} {left right : List (List Selection)}
    (first : document.Expansion left) (second : document.Expansion right) : left = right :=
  Expands.unique_all first second

/-! ## Sizes of a document without spreads -/

mutual

/-- The field nodes of a selection. -/
def Selection.fieldNodes : Selection -> Nat
  | .field none => 1
  | .field (some inner) => 1 + fieldNodes inner
  | .fragmentSpread _ => 0
  | .inlineFragment inner => fieldNodes inner

/-- The field nodes of selections. -/
def fieldNodes : List Selection -> Nat
  | [] => 0
  | first :: rest => first.fieldNodes + fieldNodes rest

end

mutual

/-- How many selection sets of fields are nested in a selection. -/
def Selection.levels : Selection -> Nat
  | .field none => 0
  | .field (some inner) => 1 + levels inner
  | .fragmentSpread _ => 0
  | .inlineFragment inner => levels inner

/-- How many selection sets of fields are nested in selections. -/
def levels : List Selection -> Nat
  | [] => 0
  | first :: rest => max first.levels (levels rest)

end

/-- The nesting of the selections of an operation, its own set included. -/
def nesting (selections : List Selection) : Nat := 1 + levels selections

theorem fieldNodes_append (front back : List Selection) :
    fieldNodes (front ++ back) = fieldNodes front + fieldNodes back := by
  induction front with
  | nil => exact (Nat.zero_add _).symm
  | cons first rest inductionHypothesis =>
      rw [List.cons_append, fieldNodes, fieldNodes, inductionHypothesis, Nat.add_assoc]

theorem levels_append (front back : List Selection) :
    levels (front ++ back) = max (levels front) (levels back) := by
  induction front with
  | nil => exact (Nat.zero_max _).symm
  | cons first rest inductionHypothesis =>
      rw [List.cons_append, levels, levels, inductionHypothesis, Nat.max_assoc]

end GraphQL
end DjangoOps
