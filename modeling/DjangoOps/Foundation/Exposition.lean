import DjangoOps.Foundation.TextLines
import Mathlib.Data.Char

namespace DjangoOps
namespace Exposition

/-!
# Metrics as text

A text of metrics has a line for each sample, with the name of the metric, its
labels in braces and the number, and comments, which start with a number sign.
A label value stands in quotation marks; quotation marks, backslashes and
newlines in it are escaped.

What is written is read back.  Numbers are natural, and no sample carries a
time stamp.
-/

structure Sample where
  name : List Char
  labels : List (List Char × List Char)
  value : Nat
  deriving DecidableEq

/-! ## Writing -/

def escape (char : Char) : List Char :=
  if char = '\\' then ['\\', '\\']
  else if char = '\"' then ['\\', '\"']
  else if char = '\n' then ['\\', 'n']
  else [char]

/-- A label, up to the opening quotation mark of its value. -/
def labelText (label : List Char × List Char) : List Char :=
  label.1 ++ '=' :: '\"' :: label.2.flatMap escape ++ ['\"']

/-- The labels behind the opening brace. -/
def labelsText : List (List Char × List Char) -> List Char
  | [] => ['}']
  | [label] => labelText label ++ ['}']
  | label :: rest => labelText label ++ ',' :: labelsText rest

def Sample.text (sample : Sample) : List Char :=
  sample.name ++ (if sample.labels = [] then [] else '{' :: labelsText sample.labels) ++
    ' ' :: Nat.toDigits 10 sample.value

inductive Line
  | comment (text : List Char)
  | metric (sample : Sample)

def Line.text : Line -> List Char
  | .comment text => '#' :: text
  | .metric sample => sample.text

def Line.sample? : Line -> Option Sample
  | .comment _ => none
  | .metric sample => some sample

/-! ## Reading -/

def isStart (char : Char) : Bool := char.isAlpha || char == '_'

def isNameChar (char : Char) : Bool := char.isAlphanum || char == '_' || char == ':'

def readName (text : List Char) : Option (List Char × List Char) :=
  if (text.head?.map isStart).getD false then
    some (text.takeWhile isNameChar, text.dropWhile isNameChar)
  else none

/-- A label value behind its opening quotation mark. -/
def readQuoted : List Char -> Option (List Char × List Char)
  | [] => none
  | '\"' :: rest => some ([], rest)
  | '\\' :: '\\' :: rest => (readQuoted rest).map fun read => ('\\' :: read.1, read.2)
  | '\\' :: '\"' :: rest => (readQuoted rest).map fun read => ('\"' :: read.1, read.2)
  | '\\' :: 'n' :: rest => (readQuoted rest).map fun read => ('\n' :: read.1, read.2)
  | '\\' :: _ => none
  | char :: rest => (readQuoted rest).map fun read => (char :: read.1, read.2)

/-- The labels behind the opening brace, with fuel for each of them. -/
def readLabels : Nat -> List Char -> Option (List (List Char × List Char) × List Char)
  | 0, _ => none
  | _ + 1, '}' :: rest => some ([], rest)
  | fuel + 1, text =>
      (readName text).bind fun named =>
        match named.2 with
        | '=' :: '\"' :: quoted =>
            (readQuoted quoted).bind fun read =>
              match read.2 with
              | ',' :: more =>
                  (readLabels fuel more).map fun others =>
                    ((named.1, read.1) :: others.1, others.2)
              | '}' :: more => some ([(named.1, read.1)], more)
              | _ => none
        | _ => none

/-- The number at the end of a line. -/
def readValue (text : List Char) : Option Nat :=
  let digits := text.dropWhile fun char => char == ' '
  if digits ≠ [] ∧ digits.all Char.isDigit = true then some (Nat.ofDigitChars 10 digits 0) else none

def readSample (text : List Char) : Option Sample :=
  (readName text).bind fun named =>
    match named.2 with
    | '{' :: rest =>
        (readLabels rest.length rest).bind fun labelled =>
          (readValue labelled.2).map fun value => ⟨named.1, labelled.1, value⟩
    | rest => (readValue rest).map fun value => ⟨named.1, [], value⟩

/-- A line; there is no sample in a comment or in an empty line. -/
def readLine : List Char -> Option (Option Sample)
  | [] => some none
  | '#' :: _ => some none
  | text => (readSample text).map some

/-- The samples of a text. -/
def scrape (text : List Char) : Option (List Sample) :=
  ((TextLines.lines text).mapM readLine).map List.reduceOption

/-! ## What is written is read back -/

/-- A name of a metric or of a label. -/
structure IsName (name : List Char) : Prop where
  start : (name.head?.map isStart).getD false = true
  chars : name.all isNameChar = true

instance (name : List Char) : Decidable (IsName name) :=
  decidable_of_iff ((name.head?.map isStart).getD false = true ∧ name.all isNameChar = true)
    ⟨fun both => ⟨both.1, both.2⟩, fun named => ⟨named.start, named.chars⟩⟩

structure Sample.WellFormed (sample : Sample) : Prop where
  name : IsName sample.name
  labels : forall label, label ∈ sample.labels -> IsName label.1

/-- A name ends in front of a character that names do not have. -/
theorem readName_append {name rest : List Char} (named : IsName name)
    (ends : (rest.head?.map isNameChar).getD false = false) :
    readName (name ++ rest) = some (name, rest) := by
  rcases named with ⟨start, chars⟩
  have stops : rest.takeWhile isNameChar = [] ∧ rest.dropWhile isNameChar = rest := by
    cases rest with
    | nil => exact ⟨rfl, rfl⟩
    | cons char more =>
        change isNameChar char = false at ends
        rw [List.takeWhile_cons_of_neg (Bool.eq_false_iff.mp ends),
          List.dropWhile_cons_of_neg (Bool.eq_false_iff.mp ends)]
        exact ⟨rfl, rfl⟩
  have head : ((name ++ rest).head?.map isStart).getD false = true := by
    cases name with
    | nil => cases start
    | cons char more => exact start
  unfold readName
  rw [if_pos head, List.takeWhile_append_of_pos (List.all_eq_true.mp chars),
    List.dropWhile_append_of_pos (List.all_eq_true.mp chars), stops.1, stops.2, List.append_nil]

/-- A character is read as it was written. -/
theorem readQuoted_escape (char : Char) (rest : List Char) :
    readQuoted (escape char ++ rest) =
      (readQuoted rest).map fun read => (char :: read.1, read.2) := by
  unfold escape
  split
  · rename_i backslash
    rw [backslash]
    rfl
  · rename_i noBackslash
    split
    · rename_i mark
      rw [mark]
      rfl
    · rename_i noMark
      split
      · rename_i newline
        rw [newline]
        rfl
      · rw [List.singleton_append, readQuoted]
        · exact noMark
        · exact fun _ impossible _ => noBackslash impossible
        · exact fun _ impossible _ => noBackslash impossible
        · exact fun _ impossible _ => noBackslash impossible
        · exact noBackslash

theorem readQuoted_flatMap (value rest : List Char) :
    readQuoted (value.flatMap escape ++ '\"' :: rest) = some (value, rest) := by
  induction value with
  | nil => rfl
  | cons char more inductionHypothesis =>
      rw [List.flatMap_cons, List.append_assoc, readQuoted_escape, inductionHypothesis]
      rfl

/-- A text that starts with a name starts with none of the other characters. -/
theorem IsName.append_ne {name : List Char} (named : IsName name) {char : Char}
    (other : isStart char = false) (text rest : List Char) : name ++ text ≠ char :: rest := by
  intro same
  cases name with
  | nil => cases named.start
  | cons head more =>
      have first : head = char := (List.cons.inj same).1
      have start : isStart head = true := named.start
      rw [first, other] at start
      cases start

theorem labelText_append (label : List Char × List Char) (rest : List Char) :
    labelText label ++ rest =
      label.1 ++ '=' :: '\"' :: (label.2.flatMap escape ++ '\"' :: rest) := by
  unfold labelText
  simp only [List.append_assoc, List.cons_append, List.nil_append]

theorem readLabels_more {label : List Char × List Char} (named : IsName label.1) (fuel : Nat)
    (rest : List Char) :
    readLabels (fuel + 1) (labelText label ++ ',' :: rest) =
      (readLabels fuel rest).map fun others => (label :: others.1, others.2) := by
  rw [labelText_append, readLabels]
  · rw [readName_append named (by rfl), Option.bind_some]
    change (readQuoted (label.2.flatMap escape ++ _)).bind _ = _
    rw [readQuoted_flatMap]
    rfl
  · exact fun text same => named.append_ne (by decide) _ _ same

theorem readLabels_last {label : List Char × List Char} (named : IsName label.1) (fuel : Nat)
    (rest : List Char) :
    readLabels (fuel + 1) (labelText label ++ '}' :: rest) = some ([label], rest) := by
  rw [labelText_append, readLabels]
  · rw [readName_append named (by rfl), Option.bind_some]
    change (readQuoted (label.2.flatMap escape ++ _)).bind _ = _
    rw [readQuoted_flatMap]
    rfl
  · exact fun text same => named.append_ne (by decide) _ _ same

theorem readLabels_text {labels : List (List Char × List Char)}
    (named : forall label, label ∈ labels -> IsName label.1) {fuel : Nat}
    (enough : labels.length < fuel) (rest : List Char) :
    readLabels fuel (labelsText labels ++ rest) = some (labels, rest) := by
  induction labels generalizing fuel with
  | nil =>
      cases fuel with
      | zero => exact absurd enough (Nat.not_lt_zero _)
      | succ fuel => rfl
  | cons label others inductionHypothesis =>
      cases fuel with
      | zero => exact absurd enough (Nat.not_lt_zero _)
      | succ fuel =>
          have own := named label List.mem_cons_self
          have later := inductionHypothesis
            (fun other listed => named other (List.mem_cons_of_mem _ listed))
            (Nat.lt_of_succ_lt_succ enough)
          cases others with
          | nil =>
              rw [labelsText, List.append_assoc]
              exact readLabels_last own fuel rest
          | cons next more =>
              rw [labelsText, List.append_assoc, List.cons_append, readLabels_more own, later]
              · rfl
              · exact List.cons_ne_nil _ _

/-- The text of the labels is longer than their number. -/
theorem length_labelsText (labels : List (List Char × List Char)) :
    labels.length < (labelsText labels).length := by
  induction labels with
  | nil => exact Nat.one_pos
  | cons label others inductionHypothesis =>
      cases others with
      | nil =>
          rw [labelsText, List.length_append, List.length_singleton, List.length_singleton,
            labelText, List.length_append, List.length_singleton]
          omega
      | cons next more =>
          rw [labelsText]
          · simp only [List.length_append, List.length_cons] at inductionHypothesis ⊢
            omega
          · exact List.cons_ne_nil _ _

theorem readValue_digits (value : Nat) :
    readValue (' ' :: Nat.toDigits 10 value) = some value := by
  have digits : forall char, char ∈ Nat.toDigits 10 value -> char.isDigit = true :=
    fun char listed => Nat.isDigit_of_mem_toDigits (by decide) (by decide) listed
  have stays : (Nat.toDigits 10 value).dropWhile (fun char => char == ' ') =
      Nat.toDigits 10 value := by
    cases text : Nat.toDigits 10 value with
    | nil => rfl
    | cons char rest =>
        apply List.dropWhile_cons_of_neg
        intro blank
        have digit := digits char (text ▸ List.mem_cons_self)
        rw [beq_iff_eq.mp blank] at digit
        cases digit
  unfold readValue
  rw [List.dropWhile_cons_of_pos (by rfl), stays]
  dsimp only
  rw [if_pos ⟨Nat.toDigits_ne_nil, List.all_eq_true.mpr digits⟩,
    Nat.ofDigitChars_toDigits (by decide) (by decide)]

theorem readSample_text {sample : Sample} (formed : sample.WellFormed) :
    readSample sample.text = some sample := by
  rcases sample with ⟨name, labels, value⟩
  unfold readSample Sample.text
  by_cases none : labels = []
  · rw [if_pos none, List.append_nil, readName_append formed.name (by rfl), none]
    change (readValue (' ' :: Nat.toDigits 10 value)).map _ = _
    rw [readValue_digits]
    rfl
  · rw [if_neg none, List.append_assoc, List.cons_append, readName_append formed.name (by rfl)]
    have enough : labels.length <
        (labelsText labels ++ ' ' :: Nat.toDigits 10 value).length := by
      rw [List.length_append]
      exact Nat.lt_add_right _ (length_labelsText labels)
    change (readLabels _ (labelsText labels ++ ' ' :: Nat.toDigits 10 value)).bind _ = _
    rw [readLabels_text formed.labels enough, Option.bind_some, readValue_digits]
    rfl

/-! ## Texts -/

/-- A comment of one line, or a well formed sample. -/
def Line.WellFormed : Line -> Prop
  | .comment text => '\n' ∉ text
  | .metric sample => sample.WellFormed

theorem not_newline_of_isNameChar {char : Char} (inner : isNameChar char = true) :
    char ≠ '\n' := by
  rintro rfl
  cases inner

theorem not_newline_escape (value : List Char) : '\n' ∉ value.flatMap escape := by
  intro listed
  rcases List.mem_flatMap.mp listed with ⟨char, _, inner⟩
  unfold escape at inner
  split at inner
  · exact absurd inner (by decide)
  · split at inner
    · exact absurd inner (by decide)
    · split at inner
      · exact absurd inner (by decide)
      · rename_i other
        exact other (List.mem_singleton.mp inner).symm

theorem not_newline_name {name : List Char} (named : IsName name) : '\n' ∉ name :=
  fun listed => not_newline_of_isNameChar (List.all_eq_true.mp named.chars _ listed) rfl

theorem not_newline_labelText {label : List Char × List Char} (named : IsName label.1) :
    '\n' ∉ labelText label := by
  unfold labelText
  simp only [List.mem_append, List.mem_cons, Char.reduceEq, false_or, List.not_mem_nil, or_false,
    not_or]
  exact ⟨not_newline_name named, not_newline_escape label.2⟩

theorem not_newline_labelsText {labels : List (List Char × List Char)}
    (named : forall label, label ∈ labels -> IsName label.1) : '\n' ∉ labelsText labels := by
  induction labels with
  | nil => decide
  | cons label others inductionHypothesis =>
      have own := not_newline_labelText (named label List.mem_cons_self)
      have later := inductionHypothesis fun other listed =>
        named other (List.mem_cons_of_mem _ listed)
      cases others with
      | nil =>
          rw [labelsText, List.mem_append, not_or]
          exact ⟨own, by decide⟩
      | cons next more =>
          rw [labelsText]
          · simp only [List.mem_append, List.mem_cons, Char.reduceEq, false_or, not_or]
            exact ⟨own, later⟩
          · exact List.cons_ne_nil _ _

theorem not_newline_text {sample : Sample} (formed : sample.WellFormed) :
    '\n' ∉ sample.text := by
  have digits : '\n' ∉ Nat.toDigits 10 sample.value := by
    intro listed
    have digit : Char.isDigit '\n' = true :=
      Nat.isDigit_of_mem_toDigits (by decide) (by decide) listed
    cases digit
  unfold Sample.text
  simp only [List.mem_append, List.mem_cons, Char.reduceEq, false_or, not_or]
  refine ⟨⟨not_newline_name formed.name, ?_⟩, digits⟩
  split
  · exact List.not_mem_nil
  · simp only [List.mem_cons, Char.reduceEq, false_or]
    exact not_newline_labelsText formed.labels

theorem readLine_text {line : Line} (formed : line.WellFormed) :
    readLine line.text = some line.sample? := by
  cases line with
  | comment text => rfl
  | metric sample =>
      have named : IsName sample.name := formed.name
      have written : sample.text = sample.name ++
          ((if sample.labels = [] then [] else '{' :: labelsText sample.labels) ++
            ' ' :: Nat.toDigits 10 sample.value) := List.append_assoc _ _ _
      rw [Line.text, readLine]
      · rw [readSample_text formed]
        rfl
      · intro empty
        rw [written] at empty
        have start := named.start
        rw [(List.append_eq_nil_iff.mp empty).1] at start
        cases start
      · intro rest same
        rw [written] at same
        exact named.append_ne (by decide) _ _ same

theorem solid_texts {lines : List Line} (formed : forall line, line ∈ lines -> line.WellFormed) :
    TextLines.Solid (lines.map Line.text) := by
  intro text listed char member
  rcases List.mem_map.mp listed with ⟨line, own, rfl⟩
  unfold TextLines.isNewline
  rw [beq_eq_false_iff_ne]
  rintro rfl
  have formed := formed line own
  cases line with
  | comment text =>
      rcases List.mem_cons.mp member with first | later
      · exact absurd first (by decide)
      · exact formed later
  | metric sample => exact not_newline_text formed member

/-- The samples of a text that was written line by line. -/
theorem scrape_unlines {lines : List Line}
    (formed : forall line, line ∈ lines -> line.WellFormed) :
    scrape (TextLines.unlines (lines.map Line.text)) = some (lines.filterMap Line.sample?) := by
  have read : (lines.map Line.text).mapM readLine = some (lines.map Line.sample?) := by
    induction lines with
    | nil => rfl
    | cons line rest inductionHypothesis =>
        rw [List.map_cons, List.mapM_cons, readLine_text (formed line List.mem_cons_self),
          inductionHypothesis fun other listed => formed other (List.mem_cons_of_mem _ listed)]
        rfl
  unfold scrape
  rw [TextLines.lines_unlines_flatMap, TextLines.flatMap_splitOnP_of_solid (solid_texts formed),
    read]
  change some (List.reduceOption (lines.map Line.sample?)) = _
  unfold List.reduceOption
  rw [List.filterMap_map]
  rfl

end Exposition
end DjangoOps
