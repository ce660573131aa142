import Mathlib.Computability.Language
import Mathlib.Data.List.Infix

namespace DjangoOps
namespace Replacement

universe u

variable {Letter : Type u} {language : Language Letter} {mark : List Letter}

/-!
# Replacement of all matches

`re.sub` goes through a text from left to right.  Where a match starts, it
writes a mark and goes on behind the match; any other letter is kept.
-/

/-- The text with the mark in place of the matches; the number counts the
letters that still belong to the last match. -/
def replace (matchLength : List Letter -> Option Nat) (mark : List Letter) :
    Nat -> List Letter -> List Letter
  | _, [] => []
  | skipped + 1, _ :: rest => replace matchLength mark skipped rest
  | 0, letter :: rest =>
      match matchLength (letter :: rest) with
      | some length => mark ++ replace matchLength mark (length - 1) rest
      | none => letter :: replace matchLength mark 0 rest

/-- The leftmost matches that do not overlap, each as long as possible, are
replaced, and all other letters are kept. -/
inductive Replaced (language : Language Letter) (mark : List Letter) :
    List Letter -> List Letter -> Prop
  | done : Replaced language mark [] []
  | keep {letter : Letter} {rest output : List Letter}
      (unmatched : forall found, found ∈ language -> ¬ found <+: letter :: rest)
      (later : Replaced language mark rest output) :
      Replaced language mark (letter :: rest) (letter :: output)
  | mark {text found rest output result : List Letter} (split : text = found ++ rest)
      (nonempty : found ≠ []) (matched : found ∈ language)
      (longest : forall other, other ∈ language -> other <+: text -> other.length ≤ found.length)
      (later : Replaced language mark rest output) (written : result = mark ++ output) :
      Replaced language mark text result

/-- The text contains no match. -/
def Free (language : Language Letter) (text : List Letter) : Prop :=
  forall found, found ∈ language -> ¬ found <:+: text

theorem Free.take {text : List Letter} (free : Free language text) (count : Nat) :
    Free language (text.take count) :=
  fun found matched inside => free found matched (inside.trans (List.take_prefix _ _).isInfix)

/-! ## The function and its specification -/

/-- The function finds the longest match at the start of a text. -/
structure Finds (language : Language Letter) (matchLength : List Letter -> Option Nat) : Prop where
  found : forall text length, matchLength text = some length ->
    0 < length ∧ length ≤ text.length ∧ text.take length ∈ language ∧
      forall other, other ∈ language -> other <+: text -> other.length ≤ length
  missed : forall text, matchLength text = none ->
    forall other, other ∈ language -> ¬ other <+: text

section Function

variable {matchLength : List Letter -> Option Nat}

theorem replace_skip (count : Nat) (text : List Letter) :
    replace matchLength mark count text = replace matchLength mark 0 (text.drop count) := by
  induction count generalizing text with
  | zero => rw [List.drop_zero]
  | succ count inductionHypothesis =>
      cases text with
      | nil => rfl
      | cons letter rest =>
          rw [replace, inductionHypothesis, List.drop_succ_cons]

theorem replaced_replace (finds : Finds language matchLength) (text : List Letter) :
    Replaced language mark text (replace matchLength mark 0 text) := by
  induction size : text.length using Nat.strong_induction_on generalizing text with
  | _ size inductionHypothesis =>
      cases text with
      | nil => exact .done
      | cons letter rest =>
          rw [List.length_cons] at size
          rw [replace]
          cases at_start : matchLength (letter :: rest) with
          | none =>
              exact .keep (finds.missed _ at_start) (inductionHypothesis _ (by omega) rest rfl)
          | some length =>
              rcases finds.found _ _ at_start with ⟨positive, inside, matched, longest⟩
              have whole : letter :: rest =
                  (letter :: rest).take length ++ rest.drop (length - 1) := by
                have behind : rest.drop (length - 1) = (letter :: rest).drop length := by
                  rw [← List.drop_succ_cons, Nat.sub_add_cancel positive]
                rw [behind, List.take_append_drop]
              have taken : ((letter :: rest).take length).length = length := by
                rw [List.length_take]
                omega
              have later := inductionHypothesis (rest.drop (length - 1)).length
                (by rw [List.length_drop]; omega) _ rfl
              dsimp only
              rw [replace_skip]
              refine .mark whole ?_ matched ?_ later rfl
              · intro none
                rw [none, List.length_nil] at taken
                omega
              · rw [taken]
                exact longest

end Function

section Output

variable {text output : List Letter}

/-- The specification determines the output. -/
theorem Replaced.unique {other : List Letter} (first : Replaced language mark text output)
    (second : Replaced language mark text other) : output = other := by
  induction first generalizing other with
  | done =>
      cases second with
      | done => rfl
      | mark split nonempty => exact absurd (List.append_eq_nil_iff.mp split.symm).1 nonempty
  | keep unmatched later inductionHypothesis =>
      cases second with
      | keep _ second => rw [inductionHypothesis second]
      | mark split nonempty matched => exact absurd ⟨_, split.symm⟩ (unmatched _ matched)
  | mark split nonempty matched longest later written inductionHypothesis =>
      cases second with
      | done => exact absurd (List.append_eq_nil_iff.mp split.symm).1 nonempty
      | keep unmatched => exact absurd ⟨_, split.symm⟩ (unmatched _ matched)
      | mark splitAgain _ matchedAgain longestAgain second writtenAgain =>
          have same : _ = _ := Nat.le_antisymm (longestAgain _ matched ⟨_, split.symm⟩)
            (longest _ matchedAgain ⟨_, splitAgain.symm⟩)
          rcases List.append_inj (split.symm.trans splitAgain) same with ⟨_, rfl⟩
          rw [written, writtenAgain, inductionHypothesis second]

/-- Where nothing matches, nothing changes. -/
theorem Replaced.of_free (replaced : Replaced language mark text output)
    (free : Free language text) : output = text := by
  induction replaced with
  | done => rfl
  | keep unmatched later inductionHypothesis =>
      rw [inductionHypothesis fun found matched inside =>
        free found matched (inside.trans (List.suffix_cons _ _).isInfix)]
  | mark split nonempty matched =>
      rw [split] at free
      exact absurd (List.prefix_append _ _).isInfix (free _ matched)

theorem Replaced.mem {letter : Letter} (replaced : Replaced language mark text output)
    (listed : letter ∈ output) : letter ∈ text ∨ letter ∈ mark := by
  induction replaced with
  | done => exact .inl listed
  | keep unmatched later inductionHypothesis =>
      rcases List.mem_cons.mp listed with same | listed
      · exact .inl (List.mem_cons.mpr (.inl same))
      · exact (inductionHypothesis listed).imp (List.mem_cons_of_mem _) id
  | mark split nonempty matched longest later written inductionHypothesis =>
      rw [written] at listed
      rw [split]
      rcases List.mem_append.mp listed with inMark | listed
      · exact .inr inMark
      · exact (inductionHypothesis listed).imp (List.mem_append_right _) id

end Output

/-! ## Matches that end with a run of letters -/

/-- The nonempty runs of letters of one kind. -/
def runs (solid : Letter -> Prop) : Language Letter :=
  {text | text ≠ [] ∧ forall letter, letter ∈ text -> solid letter}

/-- The mark cannot become a part of what precedes a run. -/
structure Seamless (head : Language Letter) (solid : Letter -> Prop) (mark : List Letter) :
    Prop where
  opening : Exists fun first : Letter => mark.head? = some first ∧
    forall text, text ∈ head -> first ∉ text
  starts : forall text, text ∈ head -> Exists fun letter : Letter =>
    text.head? = some letter ∧ solid letter
  apart : forall tail, tail <:+ mark -> tail ≠ [] -> forall text, text ∈ head ->
    ¬ (text <+: tail ∨ tail <+: text)

section Runs

variable {head : Language Letter} {solid : Letter -> Prop} {text output : List Letter}

/-- A text starts with a match exactly when a letter of a run follows a head. -/
theorem match_at_start_iff : (Exists fun found : List Letter =>
      found ∈ head * runs solid ∧ found <+: text) <->
    Exists fun front : List Letter => Exists fun letter : Letter => Exists fun rest : List Letter =>
      front ∈ head ∧ solid letter ∧ text = front ++ letter :: rest := by
  constructor
  · rintro ⟨found, matched, behind, rfl⟩
    rcases Language.mem_mul.mp matched with ⟨front, inHead, run, ⟨nonempty, all⟩, rfl⟩
    cases run with
    | nil => exact absurd rfl nonempty
    | cons letter rest =>
        exact ⟨front, letter, rest ++ behind, inHead, all letter (.head _), List.append_assoc _ _ _⟩
  · rintro ⟨front, letter, rest, inHead, isSolid, rfl⟩
    refine ⟨front ++ [letter], Language.mem_mul.mpr ⟨front, inHead, [letter], ⟨?_, ?_⟩, rfl⟩,
      rest, List.append_assoc _ _ _⟩
    · exact List.cons_ne_nil _ _
    · intro other listed
      rw [List.mem_singleton.mp listed]
      exact isSolid

/-- What is written in front of a mark has been kept. -/
theorem Replaced.kept {first : Letter} (opening : mark.head? = some first) {front : List Letter}
    (replaced : Replaced language mark text (front ++ output)) (absent : first ∉ front) :
    Exists fun rest : List Letter =>
      text = front ++ rest ∧ Replaced language mark rest output := by
  induction front generalizing text with
  | nil => exact ⟨text, rfl, replaced⟩
  | cons letter front inductionHypothesis =>
      rw [List.mem_cons, not_or] at absent
      generalize written : letter :: front ++ output = result at replaced
      cases replaced with
      | done => cases written
      | keep unmatched later =>
          cases written
          rcases inductionHypothesis later absent.2 with ⟨rest, split, replaced⟩
          exact ⟨rest, by rw [split]; rfl, replaced⟩
      | mark split nonempty matched longest later marked =>
          rw [marked] at written
          cases mark with
          | nil => cases opening
          | cons other tail =>
              cases opening
              exact absurd (List.cons.inj written).1.symm absent.1

variable (seamless : Seamless head solid mark)

include seamless

/-- A match at the start of the output comes from one at the start of the text. -/
theorem Replaced.match_at_start (replaced : Replaced (head * runs solid) mark text output)
    {found : List Letter} (matched : found ∈ head * runs solid) (front : found <+: output) :
    Exists fun found : List Letter => found ∈ head * runs solid ∧ found <+: text := by
  rcases match_at_start_iff.mp ⟨found, matched, front⟩ with
    ⟨start, letter, rest, inHead, isSolid, rfl⟩
  rcases seamless.opening with ⟨first, opening, absent⟩
  rcases replaced.kept opening (absent start inHead) with ⟨behind, rfl, remaining⟩
  apply match_at_start_iff.mpr
  generalize written : letter :: rest = result at remaining
  cases remaining with
  | done => cases written
  | keep unmatched later =>
      cases written
      exact ⟨start, letter, _, inHead, isSolid, rfl⟩
  | mark split nonempty matched longest later marked =>
      rcases Language.mem_mul.mp matched with ⟨inner, innerHead, run, _, rfl⟩
      rcases seamless.starts inner innerHead with ⟨initial, starts, initialSolid⟩
      cases inner with
      | nil => cases starts
      | cons other inner =>
          cases starts
          rw [split]
          exact ⟨start, initial, _, inHead, initialSolid, rfl⟩

theorem Seamless.free_append (free : Free (head * runs solid) output) {tail : List Letter}
    (suffix : tail <:+ mark) : Free (head * runs solid) (tail ++ output) := by
  induction tail with
  | nil => exact free
  | cons letter tail inductionHypothesis =>
      intro found matched inside
      rcases List.infix_cons_iff.mp inside with front | inside
      · rcases Language.mem_mul.mp matched with ⟨start, inHead, run, _, rfl⟩
        refine seamless.apart _ suffix (List.cons_ne_nil _ _) start inHead ?_
        exact List.prefix_or_prefix_of_prefix ((List.prefix_append _ _).trans front)
          (List.prefix_append (letter :: tail) output)
      · exact inductionHypothesis ((List.suffix_cons _ _).trans suffix) found matched inside

/-- The output contains no match: neither a mark nor what it joins makes a new one. -/
theorem Replaced.free (replaced : Replaced (head * runs solid) mark text output) :
    Free (head * runs solid) output := by
  induction replaced with
  | done =>
      intro found matched inside
      rcases Language.mem_mul.mp matched with ⟨start, inHead, run, ⟨nonempty, _⟩, rfl⟩
      exact nonempty (List.append_eq_nil_iff.mp (List.eq_nil_of_infix_nil inside)).2
  | keep unmatched later inductionHypothesis =>
      intro found matched inside
      rcases List.infix_cons_iff.mp inside with front | inside
      · rcases (Replaced.keep unmatched later).match_at_start seamless matched front with
          ⟨other, otherMatched, start⟩
        exact unmatched other otherMatched start
      · exact inductionHypothesis found matched inside
  | mark split nonempty matched longest later written inductionHypothesis =>
      rw [written]
      exact seamless.free_append inductionHypothesis (List.suffix_refl mark)

end Runs

end Replacement
end DjangoOps
