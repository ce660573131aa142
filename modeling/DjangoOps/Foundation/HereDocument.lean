import DjangoOps.Foundation.ShellWord
import DjangoOps.Foundation.TextLines

namespace DjangoOps
namespace HereDocument

open ShellWord TextLines

/-!
# Here-documents

A command line that ends with `<<` and a quoted word takes the lines behind it
as input, as they stand, up to the first line that is the word.  What follows
that line is read as commands again.
-/

/-- The word behind the operator, and what stands behind the line. -/
def operator (text : List Char) : Option (List Char × List Char) :=
  let word := text.takeWhile fun char => !isNewline char
  match text.dropWhile fun char => !isNewline char with
  | [] => none
  | _ :: rest =>
      if singleQuote ∈ word then (read .plain word).map fun delimiter => (delimiter, rest) else none

/-- Reads a command line up to the operator; the quoted parts are skipped.
There is no result for lines of another form. -/
def scan : Mode -> List Char -> Option (List Char × List Char)
  | _, [] => none
  | .plain, char :: rest =>
      if char = singleQuote then scan .single rest
      else if char = doubleQuote then scan .double rest
      else if char = '<' ∧ rest.head? = some '<' then operator (rest.drop 1)
      else if char = '\\' ∨ char = '\n' ∨ char = Char.ofNat 96 then none
      else scan .plain rest
  | .single, char :: rest => if char = singleQuote then scan .plain rest else scan .single rest
  | .double, char :: rest =>
      if char = doubleQuote then scan .plain rest
      else if char = '\\' ∨ char = Char.ofNat 96 then none
      else scan .double rest

/-- The lines in front of the first line that is the delimiter, and what stands
behind that line. -/
def cut (delimiter text : List Char) : Option (List Char × List Char) :=
  let pieces := text.splitOnP isNewline
  match pieces.dropWhile fun line => decide (line ≠ delimiter) with
  | [] => none
  | _ :: rest =>
      some (unlines (pieces.takeWhile fun line => decide (line ≠ delimiter)),
        ['\n'].intercalate rest)

/-- What a command with a here-document hands on, and the commands behind it. -/
def readCommand (command : List Char) : Option (List Char × List Char) :=
  (scan .plain command).bind fun line => cut line.1 line.2

/-! ## Command lines -/

/-- A character that the reader of a command line passes over. -/
def isNeutral (char : Char) : Bool :=
  decide (char ∉ [singleQuote, doubleQuote, '<', '\\', '\n', Char.ofNat 96])

theorem isNeutral_of_isPlain {char : Char} (plain : isPlain char = true) :
    isNeutral char = true := by
  apply decide_eq_true
  intro special
  have none : [singleQuote, doubleQuote, '<', '\\', '\n', Char.ofNat 96].all
      (fun char => !isPlain char) = true := by decide
  have refused := List.all_eq_true.mp none char special
  rw [plain] at refused
  cases refused

theorem scan_neutral {text : List Char} (neutral : text.all isNeutral = true) (rest : List Char) :
    scan .plain (text ++ rest) = scan .plain rest := by
  induction text with
  | nil => rfl
  | cons char more inductionHypothesis =>
      rw [List.all_cons, Bool.and_eq_true] at neutral
      have plain := of_decide_eq_true neutral.1
      simp only [List.mem_cons, List.not_mem_nil, or_false, not_or] at plain
      rw [List.cons_append, scan, if_neg plain.1, if_neg plain.2.1,
        if_neg fun operator => plain.2.2.1 operator.1, if_neg, inductionHypothesis neutral.2]
      simp only [not_or]
      exact plain.2.2.2

theorem scan_single (text rest : List Char) :
    scan .single (text.flatMap quoteChar ++ singleQuote :: rest) = scan .plain rest := by
  induction text with
  | nil =>
      rw [List.flatMap_nil, List.nil_append, scan, if_pos rfl]
  | cons char more inductionHypothesis =>
      rw [List.flatMap_cons, List.append_assoc]
      unfold quoteChar
      by_cases own : char = singleQuote
      · have other : doubleQuote ≠ singleQuote := by decide
        have special : ¬ (singleQuote = '\\' ∨ singleQuote = Char.ofNat 96) := by decide
        rw [if_pos own]
        simp only [List.cons_append, List.nil_append]
        rw [scan, if_pos rfl, scan, if_neg other, if_pos rfl, scan, if_neg other.symm,
          if_neg special, scan, if_pos rfl, scan, if_pos rfl]
        exact inductionHypothesis
      · rw [if_neg own, List.singleton_append, scan, if_neg own]
        exact inductionHypothesis

/-- A quoted word is passed over, whatever it stands for. -/
theorem scan_quote (text rest : List Char) :
    scan .plain (quote text ++ rest) = scan .plain rest := by
  unfold quote
  split
  · rename_i plain
    apply scan_neutral
    apply List.all_eq_true.mpr
    intro char listed
    exact isNeutral_of_isPlain (List.all_eq_true.mp plain.2 char listed)
  · rw [List.cons_append, scan, if_pos rfl, List.append_assoc]
    exact scan_single text rest

/-- The operator with a delimiter between single quotes. -/
theorem scan_operator {delimiter : List Char} (plain : delimiter.all isPlain = true)
    (rest : List Char) :
    scan .plain ('<' :: '<' :: singleQuote :: (delimiter ++ singleQuote :: '\n' :: rest)) =
      some (delimiter, rest) := by
  have solid : forall char, char ∈ singleQuote :: (delimiter ++ [singleQuote]) ->
      (!isNewline char) = true := by
    intro char listed
    rcases List.mem_cons.mp listed with rfl | inner
    · rfl
    · rcases List.mem_append.mp inner with letter | last
      · have allowed := List.all_eq_true.mp plain char letter
        cases newline : isNewline char with
        | false => rfl
        | true =>
            rw [beq_iff_eq.mp newline] at allowed
            cases allowed
      · rw [List.mem_singleton.mp last]
        rfl
  have word : singleQuote :: (delimiter ++ singleQuote :: '\n' :: rest) =
      (singleQuote :: (delimiter ++ [singleQuote])) ++ '\n' :: rest := by
    rw [List.cons_append, List.append_assoc]
    rfl
  have known : read .plain (singleQuote :: (delimiter ++ [singleQuote])) = some delimiter := by
    have single : delimiter.flatMap quoteChar = delimiter := by
      have same : forall text : List Char, text.all isPlain = true ->
          text.flatMap quoteChar = text := by
        intro text
        induction text with
        | nil => exact fun _ => rfl
        | cons char more inductionHypothesis =>
            intro allowed
            rw [List.all_cons, Bool.and_eq_true] at allowed
            unfold quoteChar at inductionHypothesis ⊢
            rw [List.flatMap_cons, if_neg (isPlain_quotes allowed.1).1,
              inductionHypothesis allowed.2]
            rfl
      exact same delimiter plain
    have closed := read_single delimiter
    rw [single] at closed
    rw [ShellWord.read, if_pos rfl, closed]
  rw [scan, if_neg (by decide), if_neg (by decide), if_pos ⟨rfl, rfl⟩]
  change operator (singleQuote :: (delimiter ++ singleQuote :: '\n' :: rest)) = _
  unfold operator
  dsimp only
  rw [word, List.takeWhile_append_of_pos solid, List.dropWhile_append_of_pos solid,
    List.dropWhile_cons_of_neg (by decide), List.takeWhile_cons_of_neg (by decide),
    List.append_nil]
  dsimp only
  rw [if_pos List.mem_cons_self, known]
  rfl

/-! ## Documents -/

theorem unlines_eq {pieces : List (List Char)} (written : pieces ≠ []) :
    unlines pieces = ['\n'].intercalate pieces ++ ['\n'] := by
  induction pieces with
  | nil => exact absurd rfl written
  | cons piece rest inductionHypothesis =>
      cases rest with
      | nil =>
          rw [List.intercalate_singleton]
          exact List.append_nil _
      | cons next others =>
          rw [List.intercalate_cons_cons, List.append_assoc,
            ← inductionHypothesis (List.cons_ne_nil _ _)]
          rfl

/-- The lines of a text, written again, end in one newline more. -/
theorem unlines_splitOnP (text : List Char) :
    unlines (text.splitOnP isNewline) = text ++ ['\n'] := by
  rw [unlines_eq (List.splitOnP_ne_nil _ _)]
  exact congrArg (· ++ ['\n']) (List.intercalate_splitOn '\n')

/-- A document ends at the first line that is the delimiter. -/
theorem cut_eq {delimiter text : List Char} {front back : List (List Char)}
    (pieces : text.splitOnP isNewline = front ++ delimiter :: back) (first : delimiter ∉ front) :
    cut delimiter text = some (unlines front, ['
'].intercalate back) := by
  have before : forall line, line ∈ front -> decide (line ≠ delimiter) = true := by
    intro line listed
    apply decide_eq_true
    rintro rfl
    exact first listed
  have last : decide (delimiter ≠ delimiter) = false := decide_eq_false fun other => other rfl
  unfold cut
  dsimp only
  rw [pieces, List.takeWhile_append_of_pos before, List.dropWhile_append_of_pos before]
  simp only [List.takeWhile_cons, List.dropWhile_cons, last, Bool.false_eq_true, if_false,
    List.append_nil]

variable {delimiter text tail : List Char}

theorem splitOnP_document (solid : forall char, char ∈ delimiter -> isNewline char = false) :
    (text ++ '
' :: (delimiter ++ '
' :: tail)).splitOnP isNewline =
      text.splitOnP isNewline ++ delimiter :: tail.splitOnP isNewline := by
  rw [List.splitOnP_append_cons text _ rfl, List.splitOnP_append_cons delimiter tail rfl,
    List.splitOnP_eq_singleton solid]
  rfl

/-- A text without the delimiter among its lines is the document. -/
theorem cut_whole (solid : forall char, char ∈ delimiter -> isNewline char = false)
    (absent : delimiter ∉ text.splitOnP isNewline) :
    cut delimiter (text ++ '
' :: (delimiter ++ '
' :: tail)) = some (text ++ ['
'], tail) := by
  rw [cut_eq (splitOnP_document solid) absent, unlines_splitOnP]
  exact congrArg (fun rest => some (text ++ ['
'], rest)) (List.intercalate_splitOn '
')

/-- With the delimiter among its lines the document is shorter than the text, and
more than the tail is left. -/
theorem cut_early (solid : forall char, char ∈ delimiter -> isNewline char = false)
    (written : delimiter ≠ []) (listed : delimiter ∈ text.splitOnP isNewline) :
    Exists fun body : List Char => Exists fun rest : List Char =>
      cut delimiter (text ++ '
' :: (delimiter ++ '
' :: tail)) = some (body, rest) ∧
        body.length < text.length ∧ tail.length < rest.length := by
  rcases List.eq_append_cons_of_mem listed with ⟨front, back, pieces, first⟩
  have all : (text ++ '
' :: (delimiter ++ '
' :: tail)).splitOnP isNewline =
      front ++ delimiter :: (back ++ delimiter :: tail.splitOnP isNewline) := by
    rw [splitOnP_document solid, pieces, List.append_assoc]
    rfl
  refine ⟨_, _, cut_eq all first, ?_⟩
  have whole := congrArg List.length (unlines_splitOnP text)
  have left := congrArg List.length (@unlines_eq (back ++ delimiter :: tail.splitOnP isNewline)
    (List.append_ne_nil_of_right_ne_nil _ (List.cons_ne_nil _ _)))
  have behind := congrArg List.length (unlines_splitOnP tail)
  have letters := List.length_pos_of_ne_nil written
  rw [pieces] at whole
  unfold unlines at whole left behind ⊢
  simp only [List.flatMap_append, List.flatMap_cons, List.length_append, List.length_singleton]
    at whole left behind
  omega

/-! ## Quoted texts in a document -/

section Quoted

variable {back : List Char}

theorem head_splitOnP_cons {char : Char} (solid : isNewline char = false) (text : List Char) :
    ((char :: text).splitOnP isNewline).head? =
      (text.splitOnP isNewline).head?.map (char :: ·) := by
  rw [List.splitOnP_cons_eq_if_modifyHead, solid, if_neg Bool.false_ne_true]
  cases text.splitOnP isNewline with
  | nil => rfl
  | cons first rest => rfl

theorem tail_splitOnP_cons {char : Char} (solid : isNewline char = false) (text : List Char) :
    ((char :: text).splitOnP isNewline).tail = (text.splitOnP isNewline).tail := by
  rw [List.splitOnP_cons_eq_if_modifyHead, solid, if_neg Bool.false_ne_true]
  cases text.splitOnP isNewline with
  | nil => rfl
  | cons first rest => rfl

theorem splitOnP_newline (text : List Char) :
    ('\n' :: text).splitOnP isNewline = [] :: text.splitOnP isNewline := by
  rw [List.splitOnP_cons_eq_if_modifyHead]
  rfl

/-- The first line of a text between single quotes is plain only when it ends
within the text. -/
theorem head_quoted (solidBack : forall char, char ∈ back -> isNewline char = false)
    {text line : List Char} (plain : line.all isPlain = true) :
    ((text.flatMap quoteChar ++ singleQuote :: back).splitOnP isNewline).head? = some line <->
      line ++ ['\n'] <+: text := by
  have quote : singleQuote ∉ line := fun listed =>
    absurd (List.all_eq_true.mp plain _ listed) (by decide)
  induction text generalizing line with
  | nil =>
      have pieces : (singleQuote :: back).splitOnP isNewline = [singleQuote :: back] := by
        apply List.splitOnP_eq_singleton
        intro char listed
        rcases List.mem_cons.mp listed with rfl | inner
        · rfl
        · exact solidBack char inner
      rw [List.flatMap_nil, List.nil_append, pieces]
      constructor
      · intro same
        exact absurd (Option.some.inj same ▸ List.mem_cons_self) quote
      · intro inside
        exact absurd (List.prefix_nil.mp inside) (List.append_ne_nil_of_right_ne_nil _
          (List.cons_ne_nil _ _))
  | cons char rest inductionHypothesis =>
      rw [List.flatMap_cons, List.append_assoc]
      by_cases newline : char = '\n'
      · subst newline
        change (('\n' :: (rest.flatMap quoteChar ++ singleQuote :: back)).splitOnP
          isNewline).head? = _ <-> _
        rw [splitOnP_newline, List.head?_cons, Option.some.injEq]
        cases line with
        | nil => exact iff_of_true rfl (List.cons_prefix_cons.mpr ⟨rfl, List.nil_prefix⟩)
        | cons letter more =>
            refine iff_of_false (List.cons_ne_nil _ _).symm ?_
            intro inside
            have same := (List.cons_prefix_cons.mp inside).1
            rw [List.all_cons, same] at plain
            cases plain
      · have solid : isNewline char = false := beq_eq_false_iff_ne.mpr newline
        by_cases own : char = singleQuote
        · have shape : quoteChar char ++ (rest.flatMap quoteChar ++ singleQuote :: back) =
              singleQuote :: ((quoteChar char).tail ++
                (rest.flatMap quoteChar ++ singleQuote :: back)) := by
            rw [own]
            rfl
          rw [shape, head_splitOnP_cons rfl]
          refine iff_of_false ?_ ?_
          · intro found
            rcases Option.map_eq_some_iff.mp found with ⟨first, -, rfl⟩
            exact quote List.mem_cons_self
          · intro inside
            cases line with
            | nil => exact newline (List.cons_prefix_cons.mp inside).1.symm
            | cons letter more =>
                have same := (List.cons_prefix_cons.mp inside).1.trans own
                exact quote (same ▸ List.mem_cons_self)
        · have shape : quoteChar char = [char] := if_neg own
          rw [shape, List.singleton_append, head_splitOnP_cons solid]
          cases line with
          | nil =>
              refine iff_of_false ?_ ?_
              · intro found
                rcases Option.map_eq_some_iff.mp found with ⟨first, -, impossible⟩
                cases impossible
              · intro inside
                exact newline (List.cons_prefix_cons.mp inside).1.symm
          | cons letter more =>
              rw [List.all_cons, Bool.and_eq_true] at plain
              rw [List.mem_cons, not_or] at quote
              have later : _ <-> more ++ ['\n'] <+: rest := inductionHypothesis plain.2 quote.2
              rw [List.cons_append, List.cons_prefix_cons, ← later]
              constructor
              · intro found
                rcases Option.map_eq_some_iff.mp found with ⟨first, known, same⟩
                cases same
                exact ⟨rfl, known⟩
              · rintro ⟨rfl, known⟩
                rw [known]
                rfl

/-- A later line of it is plain only when it stands between two newlines of the
text. -/
theorem tail_quoted (solidBack : forall char, char ∈ back -> isNewline char = false)
    {text line : List Char} (plain : line.all isPlain = true) :
    line ∈ ((text.flatMap quoteChar ++ singleQuote :: back).splitOnP isNewline).tail <->
      '\n' :: (line ++ ['\n']) <:+: text := by
  induction text with
  | nil =>
      have pieces : (singleQuote :: back).splitOnP isNewline = [singleQuote :: back] := by
        apply List.splitOnP_eq_singleton
        intro char listed
        rcases List.mem_cons.mp listed with rfl | inner
        · rfl
        · exact solidBack char inner
      rw [List.flatMap_nil, List.nil_append, pieces]
      refine iff_of_false List.not_mem_nil ?_
      intro inside
      cases List.infix_nil.mp inside
  | cons char rest inductionHypothesis =>
      rw [List.flatMap_cons, List.append_assoc, List.infix_cons_iff]
      by_cases newline : char = '\n'
      · subst newline
        change _ ∈ (('\n' :: (rest.flatMap quoteChar ++ singleQuote :: back)).splitOnP
          isNewline).tail <-> _
        rw [splitOnP_newline, List.tail_cons, List.cons_prefix_cons, ← inductionHypothesis,
          ← head_quoted solidBack plain]
        cases (rest.flatMap quoteChar ++ singleQuote :: back).splitOnP isNewline with
        | nil => exact iff_of_false List.not_mem_nil (by rintro (⟨-, none⟩ | none) <;> cases none)
        | cons first others =>
            rw [List.mem_cons, List.head?_cons, List.tail_cons, Option.some.injEq, eq_comm]
            exact or_congr ⟨fun same => ⟨rfl, same⟩, fun both => both.2⟩ Iff.rfl
      · have solid : isNewline char = false := beq_eq_false_iff_ne.mpr newline
        have apart : ¬ ('\n' :: (line ++ ['\n']) <+: char :: rest) := fun inside =>
          newline (List.cons_prefix_cons.mp inside).1.symm
        rw [or_iff_right apart, ← inductionHypothesis]
        unfold quoteChar
        by_cases own : char = singleQuote
        · rw [if_pos own]
          simp only [List.cons_append, List.nil_append]
          rw [tail_splitOnP_cons rfl, tail_splitOnP_cons rfl, tail_splitOnP_cons rfl,
            tail_splitOnP_cons rfl, tail_splitOnP_cons rfl]
        · rw [if_neg own, List.singleton_append, tail_splitOnP_cons solid]

/-- The lines of a text behind another one. -/
theorem mem_splitOnP_append {front text line : List Char}
    (solid : forall char, char ∈ front -> isNewline char = false)
    (written : front ≠ []) (apart : front.head? ≠ line.head?) :
    line ∈ (front ++ text).splitOnP isNewline <-> line ∈ (text.splitOnP isNewline).tail := by
  rw [Splitting.splitOnP_append_of_solid solid]
  cases text.splitOnP isNewline with
  | nil => exact Iff.rfl
  | cons first rest =>
      rw [List.modifyHead_cons, List.mem_cons, List.tail_cons]
      apply or_iff_right
      rintro rfl
      apply apart
      rw [List.head?_append_of_ne_nil _ written]

/-- A plain line of a command with a quoted text in it stands between two
newlines of the text. -/
theorem mem_quoted {front text line : List Char}
    (solidFront : forall char, char ∈ front -> isNewline char = false)
    (solidBack : forall char, char ∈ back -> isNewline char = false)
    (written : front ≠ []) (apart : front.head? ≠ line.head?)
    (plain : line.all isPlain = true) :
    line ∈ (front ++ (quote text ++ back)).splitOnP isNewline <->
      '\n' :: (line ++ ['\n']) <:+: text := by
  rw [mem_splitOnP_append solidFront written apart]
  unfold quote
  split
  · rename_i allowed
    have solid : forall char, char ∈ text -> isNewline char = false := by
      intro char listed
      have letter := List.all_eq_true.mp allowed.2 char listed
      cases newline : isNewline char with
      | false => rfl
      | true =>
          rw [beq_iff_eq.mp newline] at letter
          cases letter
    refine iff_of_false ?_ ?_
    · rw [List.splitOnP_eq_singleton]
      · exact List.not_mem_nil
      · intro char listed
        rcases List.mem_append.mp listed with inner | behind
        · exact solid char inner
        · exact solidBack char behind
    · intro inside
      have newline := solid '\n' (inside.subset List.mem_cons_self)
      cases newline
  · rw [List.cons_append, List.append_assoc, tail_splitOnP_cons rfl]
    exact tail_quoted solidBack plain

end Quoted

end HereDocument
end DjangoOps
