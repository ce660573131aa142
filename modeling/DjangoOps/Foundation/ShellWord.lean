import Mathlib.Data.List.Basic

namespace DjangoOps
namespace ShellWord

/-!
# Words of a shell command

How a text is quoted to become one word of a command, and how a shell reads
such a word.
-/

def singleQuote : Char := Char.ofNat 39

def doubleQuote : Char := Char.ofNat 34

/-- A character that means itself outside of quotes. -/
def isPlain (char : Char) : Bool :=
  char.isAlphanum || decide (char ∈ ['_', '@', '%', '+', '=', ':', ',', '.', '/', '-'])

/-- A single quote is written between double quotes. -/
def quoteChar (char : Char) : List Char :=
  if char = singleQuote then [singleQuote, doubleQuote, singleQuote, doubleQuote, singleQuote]
  else [char]

/-- The quoted form of a text. -/
def quote (text : List Char) : List Char :=
  if text ≠ [] ∧ text.all isPlain = true then text
  else singleQuote :: (text.flatMap quoteChar ++ [singleQuote])

theorem mem_quote {text : List Char} {char : Char} (listed : char ∈ quote text) :
    char ∈ text ∨ char = singleQuote ∨ char = doubleQuote := by
  unfold quote at listed
  split at listed
  · exact .inl listed
  · rw [List.mem_cons, List.mem_append, List.mem_flatMap, List.mem_singleton] at listed
    rcases listed with own | ⟨letter, known, inner⟩ | own
    · exact .inr (.inl own)
    · unfold quoteChar at inner
      split at inner
      · simp only [List.mem_cons, List.not_mem_nil, or_false] at inner
        rcases inner with own | own | own | own | own
        · exact .inr (.inl own)
        · exact .inr (.inr own)
        · exact .inr (.inl own)
        · exact .inr (.inr own)
        · exact .inr (.inl own)
      · rw [List.mem_singleton.mp inner]
        exact .inl known
    · exact .inr (.inl own)

inductive Mode
  | plain
  | single
  | double

/-- The text that a word stands for.  There is none when a quote is not closed,
or when a character is left to an expansion. -/
def read : Mode -> List Char -> Option (List Char)
  | .plain, [] => some []
  | .plain, char :: rest =>
      if char = singleQuote then read .single rest
      else if char = doubleQuote then read .double rest
      else if isPlain char then (read .plain rest).map (char :: ·)
      else none
  | .single, [] => none
  | .single, char :: rest =>
      if char = singleQuote then read .plain rest else (read .single rest).map (char :: ·)
  | .double, [] => none
  | .double, char :: rest =>
      if char = doubleQuote then read .plain rest
      else if char = '$' ∨ char = Char.ofNat 96 ∨ char = '\\' then none
      else (read .double rest).map (char :: ·)

theorem isPlain_quotes {char : Char} (plain : isPlain char = true) :
    char ≠ singleQuote ∧ char ≠ doubleQuote := by
  constructor
  · rintro rfl
    exact absurd plain (by decide)
  · rintro rfl
    exact absurd plain (by decide)

theorem read_plain {text : List Char} (plain : text.all isPlain = true) :
    read .plain text = some text := by
  induction text with
  | nil => rfl
  | cons char rest inductionHypothesis =>
      rw [List.all_cons, Bool.and_eq_true] at plain
      have quotes := isPlain_quotes plain.1
      rw [read, if_neg quotes.1, if_neg quotes.2, if_pos plain.1, inductionHypothesis plain.2]
      rfl

/-- A quoted single quote is read, and the single quotes are open again. -/
theorem read_singleQuote (rest : List Char) :
    read .single (quoteChar singleQuote ++ rest) = (read .single rest).map (singleQuote :: ·) := by
  have other : doubleQuote ≠ singleQuote := by decide
  have special : ¬ (singleQuote = '$' ∨ singleQuote = Char.ofNat 96 ∨ singleQuote = '\\') := by
    decide
  unfold quoteChar
  rw [if_pos rfl]
  simp only [List.cons_append, List.nil_append]
  rw [read, if_pos rfl, read, if_neg other, if_pos rfl, read, if_neg other.symm, if_neg special,
    read, if_pos rfl, read, if_pos rfl]

/-- Between single quotes a text is read as it stands. -/
theorem read_single (text : List Char) :
    read .single (text.flatMap quoteChar ++ [singleQuote]) = some text := by
  induction text with
  | nil => rfl
  | cons char rest inductionHypothesis =>
      rw [List.flatMap_cons, List.append_assoc]
      by_cases own : char = singleQuote
      · rw [own, read_singleQuote, inductionHypothesis]
        rfl
      · have same : quoteChar char = [char] := if_neg own
        rw [same, List.singleton_append, read, if_neg own, inductionHypothesis]
        rfl

/-- A shell reads back what has been quoted. -/
theorem read_quote (text : List Char) : read .plain (quote text) = some text := by
  unfold quote
  split
  · rename_i facts
    exact read_plain facts.2
  · rw [read, if_pos rfl, read_single]

end ShellWord
end DjangoOps
