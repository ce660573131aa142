import Mathlib.Data.List.Basic

namespace DjangoOps
namespace PrefixCode

universe u v

/-!
# Codes that can be read back from the front of a text

A text that starts with an encoded value determines the value and what
follows it.  Codes with this property can be concatenated, so a record that
is written field by field is determined by its text.  Two constructions are
used: a sequence of code words closed by a symbol that starts no code word,
and a run of symbols of one kind closed by a symbol of another kind.
-/

variable {Source : Type u} {Symbol : Type v}

/-- Equal texts that start with code words start with the same code word. -/
def Separates (code : Source -> List Symbol) : Prop :=
  forall left right leftRest rightRest,
    code left ++ leftRest = code right ++ rightRest -> left = right ∧ leftRest = rightRest

/-- No code word starts with the symbol, and none is empty. -/
def Avoids (code : Source -> List Symbol) (stop : Symbol) : Prop :=
  forall source rest tail, code source ++ rest ≠ stop :: tail

/-- Code words closed by a symbol that starts none of them. -/
theorem separates_closed {code : Source -> List Symbol} {stop : Symbol}
    (separates : Separates code) (avoids : Avoids code stop) :
    Separates fun sources : List Source => sources.flatMap code ++ [stop] := by
  intro left
  induction left with
  | nil =>
      intro right leftRest rightRest same
      cases right with
      | nil => exact ⟨rfl, (List.cons.inj same).2⟩
      | cons head tail =>
          simp only [List.flatMap_nil, List.nil_append, List.flatMap_cons, List.append_assoc,
            List.cons_append] at same
          exact absurd same.symm (avoids _ _ _)
  | cons first others inductionHypothesis =>
      intro right leftRest rightRest same
      cases right with
      | nil =>
          simp only [List.flatMap_nil, List.nil_append, List.flatMap_cons, List.append_assoc,
            List.cons_append] at same
          exact absurd same (avoids _ _ _)
      | cons head tail =>
          simp only [List.flatMap_cons, List.append_assoc] at same
          rcases separates _ _ _ _ same with ⟨sameHead, sameTail⟩
          rcases inductionHypothesis tail leftRest rightRest
            (by simpa only [List.append_assoc] using sameTail) with ⟨sameOthers, sameRest⟩
          exact ⟨by rw [sameHead, sameOthers], sameRest⟩

/-- A run of symbols of one kind, closed by a symbol of another kind. -/
theorem run_cancel {kind : Symbol -> Prop} {left right leftRest rightRest : List Symbol}
    {leftStop rightStop : Symbol} (leftRun : forall symbol, symbol ∈ left -> kind symbol)
    (rightRun : forall symbol, symbol ∈ right -> kind symbol) (leftEnd : ¬ kind leftStop)
    (rightEnd : ¬ kind rightStop)
    (same : left ++ leftStop :: leftRest = right ++ rightStop :: rightRest) :
    left = right ∧ leftStop :: leftRest = rightStop :: rightRest := by
  induction left generalizing right with
  | nil =>
      cases right with
      | nil => exact ⟨rfl, same⟩
      | cons head tail =>
          have heads := (List.cons.inj same).1
          exact absurd (rightRun head (.head _)) (heads ▸ leftEnd)
  | cons first others inductionHypothesis =>
      cases right with
      | nil =>
          have heads := (List.cons.inj same).1
          exact absurd (leftRun first (.head _)) (heads ▸ rightEnd)
      | cons head tail =>
          rcases List.cons.inj same with ⟨heads, tails⟩
          rcases inductionHypothesis (fun symbol member => leftRun symbol (.tail _ member))
            (fun symbol member => rightRun symbol (.tail _ member)) tails with ⟨sameRun, sameEnd⟩
          exact ⟨by rw [heads, sameRun], sameEnd⟩

end PrefixCode
end DjangoOps
