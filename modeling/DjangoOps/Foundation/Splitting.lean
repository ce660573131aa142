import Mathlib.Data.List.DropRight

namespace DjangoOps
namespace Splitting

/-!
# Splitting a text and joining the pieces

Which letters the pieces of a split list have, and which a joined list has.
The words of a text are the pieces that are not empty.
-/

/-- The pieces between runs of separators. -/
def words {Letter : Type*} (stop : Letter -> Bool) (text : List Letter) : List (List Letter) :=
  (text.splitOnP stop).filter fun piece => !piece.isEmpty

theorem splitOnP_map {Source Target : Type*} (change : Source -> Target) (stop : Target -> Bool)
    (text : List Source) :
    (text.map change).splitOnP stop = (text.splitOnP (stop ∘ change)).map (List.map change) := by
  induction text with
  | nil => rfl
  | cons head rest inductionHypothesis =>
      rw [List.map_cons, List.splitOnP_cons_eq_if_modifyHead,
        List.splitOnP_cons_eq_if_modifyHead, inductionHypothesis]
      by_cases separates : stop (change head) = true
      · simp only [Function.comp_apply, separates, if_true, List.map_cons, List.map_nil]
      · simp only [Function.comp_apply, separates, Bool.false_eq_true, if_false]
        cases pieces : rest.splitOnP (stop ∘ change) with
        | nil => rfl
        | cons piece others => rfl

theorem mem_splitOnP {Letter : Type*} {stop : Letter -> Bool} {text piece : List Letter}
    (listed : piece ∈ text.splitOnP stop) {letter : Letter} (member : letter ∈ piece) :
    letter ∈ text ∧ stop letter = false := by
  induction text generalizing piece with
  | nil =>
      rw [List.splitOnP_nil] at listed
      rw [List.mem_singleton.mp listed] at member
      cases member
  | cons head rest inductionHypothesis =>
      rw [List.splitOnP_cons_eq_if_modifyHead] at listed
      by_cases separates : stop head = true
      · rw [if_pos separates] at listed
        rcases List.mem_cons.mp listed with empty | later
        · rw [empty] at member
          cases member
        · have inner := inductionHypothesis later member
          exact ⟨List.mem_cons_of_mem _ inner.1, inner.2⟩
      · rw [if_neg separates] at listed
        cases pieces : rest.splitOnP stop with
        | nil =>
            rw [pieces] at listed
            cases listed
        | cons first others =>
            rw [pieces] at listed inductionHypothesis
            rcases List.mem_cons.mp listed with same | later
            · rw [same] at member
              rcases List.mem_cons.mp member with own | inner
              · rw [own]
                exact ⟨List.mem_cons_self, Bool.eq_false_iff.mpr separates⟩
              · have found := inductionHypothesis List.mem_cons_self inner
                exact ⟨List.mem_cons_of_mem _ found.1, found.2⟩
            · have found := inductionHypothesis (List.mem_cons_of_mem _ later) member
              exact ⟨List.mem_cons_of_mem _ found.1, found.2⟩

theorem mem_intercalate {Letter : Type*} {separator letter : Letter} {pieces : List (List Letter)}
    (member : letter ∈ [separator].intercalate pieces) :
    letter = separator ∨ Exists fun piece : List Letter => piece ∈ pieces ∧ letter ∈ piece := by
  induction pieces with
  | nil => cases member
  | cons piece rest inductionHypothesis =>
      cases rest with
      | nil =>
          rw [List.intercalate_singleton] at member
          exact Or.inr ⟨piece, List.mem_cons_self, member⟩
      | cons next others =>
          rw [List.intercalate_cons_cons, List.append_assoc, List.mem_append,
            List.singleton_append, List.mem_cons] at member
          rcases member with own | same | later
          · exact Or.inr ⟨piece, List.mem_cons_self, own⟩
          · exact Or.inl same
          · rcases inductionHypothesis later with same | ⟨other, listed, inner⟩
            · exact Or.inl same
            · exact Or.inr ⟨other, List.mem_cons_of_mem _ listed, inner⟩

/-! ## Words -/

variable {Letter : Type*}

theorem mem_words {stop : Letter -> Bool} {text word : List Letter} :
    word ∈ words stop text <-> word ∈ text.splitOnP stop ∧ word ≠ [] := by
  unfold words
  rw [List.mem_filter, Bool.not_eq_true', List.isEmpty_eq_false_iff]

/-- A letter that does not separate is in some word. -/
theorem exists_word {stop : Letter -> Bool} {text : List Letter} {letter : Letter}
    (listed : letter ∈ text) (plain : stop letter = false) :
    Exists fun word : List Letter => word ∈ words stop text ∧ letter ∈ word := by
  have piece : Exists fun piece : List Letter => piece ∈ text.splitOnP stop ∧ letter ∈ piece := by
    induction text with
    | nil => cases listed
    | cons head rest inductionHypothesis =>
        rw [List.splitOnP_cons_eq_if_modifyHead]
        by_cases separates : stop head = true
        · rw [if_pos separates]
          rcases List.mem_cons.mp listed with own | later
          · rw [own, separates] at plain
            cases plain
          · rcases inductionHypothesis later with ⟨piece, found, inner⟩
            exact ⟨piece, List.mem_cons_of_mem _ found, inner⟩
        · rw [if_neg separates]
          cases pieces : rest.splitOnP stop with
          | nil => exact absurd pieces (List.splitOnP_ne_nil _ _)
          | cons first others =>
              rw [pieces] at inductionHypothesis
              rcases List.mem_cons.mp listed with own | later
              · exact ⟨head :: first, List.mem_cons_self, own ▸ List.mem_cons_self⟩
              · rcases inductionHypothesis later with ⟨piece, found, inner⟩
                rcases List.mem_cons.mp found with same | further
                · exact ⟨head :: first, List.mem_cons_self,
                    List.mem_cons_of_mem _ (same ▸ inner)⟩
                · exact ⟨piece, List.mem_cons_of_mem _ further, inner⟩
  rcases piece with ⟨piece, found, inner⟩
  exact ⟨piece, mem_words.mpr ⟨found, List.ne_nil_of_mem inner⟩, inner⟩

/-- A letter that does not separate stays with the first piece. -/
theorem splitOnP_append_of_solid {stop : Letter -> Bool} {front : List Letter}
    (solid : forall letter, letter ∈ front -> stop letter = false) (text : List Letter) :
    (front ++ text).splitOnP stop = (text.splitOnP stop).modifyHead (front ++ ·) := by
  induction front with
  | nil =>
      rw [List.nil_append]
      cases text.splitOnP stop <;> rfl
  | cons head rest inductionHypothesis =>
      rw [List.cons_append, List.splitOnP_cons_eq_if_modifyHead,
        if_neg (by rw [solid head List.mem_cons_self]; exact Bool.false_ne_true),
        inductionHypothesis fun letter listed => solid letter (List.mem_cons_of_mem _ listed)]
      cases text.splitOnP stop <;> rfl

theorem words_separator {stop : Letter -> Bool} {letter : Letter} (separates : stop letter = true)
    (text : List Letter) : words stop (letter :: text) = words stop text := by
  unfold words
  rw [List.splitOnP_cons_eq_if_modifyHead, if_pos separates]
  rfl

/-- A word in front of a separator. -/
theorem words_append {stop : Letter -> Bool} {word : List Letter} {letter : Letter}
    (written : word ≠ []) (solid : forall letter, letter ∈ word -> stop letter = false)
    (separates : stop letter = true) (text : List Letter) :
    words stop (word ++ letter :: text) = word :: words stop text := by
  unfold words
  rw [List.splitOnP_append_cons_of_forall_mem solid _ separates, List.filter_cons_of_pos]
  rw [Bool.not_eq_true', List.isEmpty_eq_false_iff]
  exact written

theorem words_solid {stop : Letter -> Bool} {word : List Letter} (written : word ≠ [])
    (solid : forall letter, letter ∈ word -> stop letter = false) : words stop word = [word] := by
  unfold words
  rw [List.splitOnP_eq_singleton solid, List.filter_cons_of_pos]
  · rfl
  · rw [Bool.not_eq_true', List.isEmpty_eq_false_iff]
    exact written

/-- Separators at the end make no word. -/
theorem words_rdropWhile {stop drop : Letter -> Bool}
    (stops : forall letter, drop letter = true -> stop letter = true) (text : List Letter) :
    words stop (text.rdropWhile drop) = words stop text := by
  induction text using List.reverseRecOn with
  | nil => rfl
  | append_singleton text letter inductionHypothesis =>
      by_cases dropped : drop letter = true
      · rw [List.rdropWhile_concat_pos _ _ _ dropped, inductionHypothesis]
        unfold words
        rw [List.splitOnP_append_cons text [] (stops letter dropped), List.filter_append]
        exact (List.append_nil _).symm
      · rw [List.rdropWhile_concat_neg _ _ _ dropped]

/-- Only the letters of the text matter. -/
theorem splitOnP_congr {first second : Letter -> Bool} {text : List Letter}
    (same : forall letter, letter ∈ text -> first letter = second letter) :
    text.splitOnP first = text.splitOnP second := by
  induction text with
  | nil => rfl
  | cons head rest inductionHypothesis =>
      rw [List.splitOnP_cons_eq_if_modifyHead, List.splitOnP_cons_eq_if_modifyHead,
        same head List.mem_cons_self,
        inductionHypothesis fun letter listed => same letter (List.mem_cons_of_mem _ listed)]

end Splitting
end DjangoOps
