import DjangoOps.Foundation.Splitting

namespace DjangoOps
namespace TextLines

/-!
# Texts as filters read them

A filter reads a text line by line, keeps some of the lines and writes each of
them with a newline behind it.  Lines that are empty are not counted among the
entries of a text.
-/

def isNewline (char : Char) : Bool := char == '\n'

/-- The lines of a text.  What stands behind the last newline is a line unless
it is empty. -/
def lines (text : List Char) : List (List Char) :=
  let pieces := text.splitOnP isNewline
  if pieces.getLast? = some [] then pieces.dropLast else pieces

def unlines (lines : List (List Char)) : List Char := lines.flatMap fun line => line ++ ['\n']

/-- What a command substitution leaves of an output. -/
def substitution (text : List Char) : List Char := text.rdropWhile isNewline

/-- A filter that keeps lines. -/
def filterLines (keep : List Char -> Bool) (text : List Char) : List Char :=
  unlines ((lines text).filter keep)

/-- The lines that are not empty. -/
def entries (text : List Char) : List (List Char) := Splitting.words isNewline text

/-- Lines without a newline in them. -/
def Solid (lines : List (List Char)) : Prop :=
  forall line : List Char, line ∈ lines -> forall char : Char, char ∈ line ->
    isNewline char = false

theorem solid_lines (text : List Char) : Solid (lines text) := by
  intro line listed char member
  unfold lines at listed
  dsimp only at listed
  split at listed
  · exact (Splitting.mem_splitOnP ((List.dropLast_subset _) listed) member).2
  · exact (Splitting.mem_splitOnP listed member).2

/-- The pieces of a text whose lines are any texts. -/
theorem splitOnP_unlines {stop : Char -> Bool} (newline : stop '\n' = true)
    (texts : List (List Char)) :
    (unlines texts).splitOnP stop = texts.flatMap (List.splitOnP stop) ++ [[]] := by
  induction texts with
  | nil => rfl
  | cons text rest inductionHypothesis =>
      unfold unlines
      rw [List.flatMap_cons, List.append_assoc, List.singleton_append,
        List.splitOnP_append_cons text _ newline]
      change text.splitOnP stop ++ (unlines rest).splitOnP stop = _
      rw [inductionHypothesis, List.flatMap_cons, List.append_assoc]

/-- The pieces of lines in front of a text. -/
theorem splitOnP_unlines_append {stop : Char -> Bool} (newline : stop '\n' = true)
    (texts : List (List Char)) (text : List Char) :
    (unlines texts ++ text).splitOnP stop =
      texts.flatMap (List.splitOnP stop) ++ text.splitOnP stop := by
  induction texts with
  | nil => rfl
  | cons first rest inductionHypothesis =>
      unfold unlines
      rw [List.flatMap_cons, List.append_assoc, List.append_assoc, List.singleton_append,
        List.splitOnP_append_cons first _ newline]
      change first.splitOnP stop ++ (unlines rest ++ text).splitOnP stop = _
      rw [inductionHypothesis, List.flatMap_cons, List.append_assoc]

/-- A text of lines that ends early: some whole lines, and the front of the
next one. -/
theorem take_unlines (texts : List (List Char)) (count : Nat) :
    Exists fun whole : Nat => Exists fun rest : List Char =>
      (unlines texts).take count = unlines (texts.take whole) ++ rest ∧
        (rest = [] ∨ Exists fun text : List Char => texts[whole]? = some text ∧ rest <+: text) := by
  induction texts generalizing count with
  | nil => exact ⟨0, [], List.take_nil, Or.inl rfl⟩
  | cons first others inductionHypothesis =>
      by_cases early : count ≤ first.length
      · refine ⟨0, first.take count, ?_, Or.inr ⟨first, rfl, List.take_prefix _ _⟩⟩
        unfold unlines
        rw [List.flatMap_cons, List.append_assoc, List.take_append_of_le_length early]
        rfl
      · rcases inductionHypothesis (count - (first.length + 1)) with ⟨whole, rest, cut, place⟩
        refine ⟨whole + 1, rest, ?_, place⟩
        have line : (first ++ ['\n']).take count = first ++ ['\n'] := by
          apply List.take_of_length_le
          rw [List.length_append, List.length_singleton]
          omega
        unfold unlines
        rw [List.flatMap_cons, List.take_append, line, List.length_append, List.length_singleton]
        change first ++ ['\n'] ++ (unlines others).take _ = _
        rw [cut, List.take_succ_cons]
        unfold unlines
        rw [List.flatMap_cons, List.append_assoc, List.append_assoc, List.append_assoc]

/-- The lines of lines with newlines in them. -/
theorem lines_unlines_flatMap (texts : List (List Char)) :
    lines (unlines texts) = texts.flatMap (List.splitOnP isNewline) := by
  unfold lines
  rw [splitOnP_unlines rfl]
  dsimp only
  rw [if_pos List.getLast?_concat, List.dropLast_concat]

theorem flatMap_splitOnP_of_solid {pieces : List (List Char)} (solid : Solid pieces) :
    pieces.flatMap (List.splitOnP isNewline) = pieces := by
  induction pieces with
  | nil => rfl
  | cons line rest inductionHypothesis =>
      rw [List.flatMap_cons, List.splitOnP_eq_singleton (solid line List.mem_cons_self),
        inductionHypothesis fun other listed => solid other (List.mem_cons_of_mem _ listed)]
      rfl

theorem entries_unlines {pieces : List (List Char)} (solid : Solid pieces) :
    entries (unlines pieces) = pieces.filter fun line => !line.isEmpty := by
  unfold entries Splitting.words
  rw [splitOnP_unlines rfl, flatMap_splitOnP_of_solid solid, List.filter_append]
  exact List.append_nil _

theorem entries_eq (text : List Char) :
    entries text = (lines text).filter fun line => !line.isEmpty := by
  unfold entries Splitting.words lines
  dsimp only
  split
  · rename_i last
    conv_lhs => rw [← List.dropLast_append_getLast? [] last]
    rw [List.filter_append]
    exact List.append_nil _
  · rfl

/-- The filter that drops the empty lines. -/
theorem filterLines_written (text : List Char) :
    filterLines (fun line => !line.isEmpty) text = unlines (entries text) := by
  unfold filterLines
  rw [entries_eq]

/-- A filter keeps the same entries as lines. -/
theorem entries_filterLines (keep : List Char -> Bool) (text : List Char) :
    entries (filterLines keep text) = (entries text).filter keep := by
  unfold filterLines
  rw [entries_unlines fun line listed => solid_lines text line (List.mem_of_mem_filter listed),
    entries_eq, List.filter_filter, List.filter_filter]
  exact List.filter_congr fun line _ => Bool.and_comm _ _

theorem entries_substitution (text : List Char) : entries (substitution text) = entries text :=
  Splitting.words_rdropWhile (fun _ newline => newline) text

/-- Texts with a newline between them. -/
theorem entries_append (text rest : List Char) :
    entries (text ++ '\n' :: rest) = entries text ++ entries rest := by
  unfold entries Splitting.words
  rw [List.splitOnP_append_cons text rest rfl, List.filter_append]

theorem entries_line {line : List Char} (written : line ≠ [])
    (solid : forall char, char ∈ line -> isNewline char = false) : entries line = [line] :=
  Splitting.words_solid written solid

end TextLines
end DjangoOps
