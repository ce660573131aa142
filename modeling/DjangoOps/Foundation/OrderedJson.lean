import DjangoOps.Foundation.JsonRoundTrip
import Mathlib.Data.List.TakeWhile

namespace DjangoOps
namespace OrderedJson

open Json (isBlank skipBlanks isNumeral readUnicode Ends Starts)

universe u

/-!
# JSON texts with their members in order

A reader that keeps the members of an object as they stand, repeated keys
included, and a number as the text that it is written with.  What a repeated
key means is left to whoever asks for the members.  The writer takes the
escapes of strings as a parameter, and the reader inverts it on every value.
-/

/-! ## Numbers -/

/-- Digits up to the first other character, of which there is one at least. -/
def readDigits : List Char -> Option (List Char)
  | digit :: rest => if digit.isDigit then some (rest.dropWhile Char.isDigit) else none
  | [] => none

def readInteger : List Char -> Option (List Char)
  | '-' :: '0' :: rest => some rest
  | '-' :: rest => readDigits rest
  | '0' :: rest => some rest
  | rest => readDigits rest

def readFraction : List Char -> Option (List Char)
  | '.' :: rest => readDigits rest
  | rest => some rest

def readExponent : List Char -> Option (List Char)
  | letter :: sign :: rest =>
      if letter = 'e' ∨ letter = 'E' then
        if sign = '+' ∨ sign = '-' then readDigits rest else readDigits (sign :: rest)
      else some (letter :: sign :: rest)
  | rest => some rest

/-- The number that the whole text is. -/
def isLiteral (text : List Char) : Bool :=
  (((readInteger text).bind readFraction).bind readExponent) == some []

/-- A number as it is written. -/
structure Literal where
  text : List Char
  valid : isLiteral text = true
  deriving DecidableEq

/-- What a part of a number leaves is the text behind a run of its characters. -/
def Consumes (part : List Char -> Option (List Char)) : Prop :=
  forall text rest, part text = some rest -> Exists fun front : List Char =>
    text = front ++ rest ∧ forall char, char ∈ front -> isNumeral char = true

theorem isNumeral_digit {char : Char} (digit : char.isDigit = true) : isNumeral char = true := by
  unfold isNumeral
  rw [digit]
  rfl

theorem consumes_readDigits : Consumes readDigits := by
  intro text rest read
  cases text with
  | nil => cases read
  | cons digit more =>
      rw [readDigits] at read
      split at read
      · rename_i isDigit
        cases read
        refine ⟨digit :: more.takeWhile Char.isDigit, ?_, ?_⟩
        · rw [List.cons_append, List.takeWhile_append_dropWhile]
        · intro char member
          rcases List.mem_cons.mp member with rfl | later
          · exact isNumeral_digit isDigit
          · exact isNumeral_digit (List.mem_takeWhile_imp later)
      · cases read

/-- Numeral characters in front of a part. -/
theorem Consumes.behind {part : List Char -> Option (List Char)} (consumes : Consumes part)
    {front text rest : List Char} (numeral : forall char, char ∈ front -> isNumeral char = true)
    (read : part text = some rest) : Exists fun whole : List Char =>
      front ++ text = whole ++ rest ∧ forall char, char ∈ whole -> isNumeral char = true := by
  rcases consumes text rest read with ⟨more, rfl, inner⟩
  refine ⟨front ++ more, (List.append_assoc _ _ _).symm, ?_⟩
  intro char member
  exact (List.mem_append.mp member).elim (numeral char) (inner char)

theorem consumes_readInteger : Consumes readInteger := by
  intro text rest read
  unfold readInteger at read
  split at read
  · cases read
    exact ⟨['-', '0'], rfl, List.forall_mem_cons.mpr ⟨rfl, List.forall_mem_singleton.mpr rfl⟩⟩
  · exact @Consumes.behind _ consumes_readDigits ['-'] _ _ (List.forall_mem_singleton.mpr rfl) read
  · cases read
    exact ⟨['0'], rfl, List.forall_mem_singleton.mpr rfl⟩
  · exact consumes_readDigits _ _ read

theorem consumes_readFraction : Consumes readFraction := by
  intro text rest read
  unfold readFraction at read
  split at read
  · exact @Consumes.behind _ consumes_readDigits ['.'] _ _ (List.forall_mem_singleton.mpr rfl) read
  · cases read
    exact ⟨[], rfl, fun _ impossible => nomatch impossible⟩

theorem consumes_readExponent : Consumes readExponent := by
  intro text rest read
  unfold readExponent at read
  split at read
  · rename_i letter sign more
    split at read
    · rename_i marked
      have first : isNumeral letter = true := by
        rcases marked with rfl | rfl <;> decide
      split at read
      · rename_i signed
        have second : isNumeral sign = true := by
          rcases signed with rfl | rfl <;> decide
        refine @Consumes.behind _ consumes_readDigits [letter, sign] _ _ ?_ read
        intro char member
        rcases List.mem_cons.mp member with rfl | later
        · exact first
        · exact List.mem_singleton.mp later ▸ second
      · refine @Consumes.behind _ consumes_readDigits [letter] _ _ ?_ read
        intro char member
        exact List.mem_singleton.mp member ▸ first
    · cases read
      exact ⟨[], rfl, fun _ impossible => nomatch impossible⟩
  · cases read
    exact ⟨[], rfl, fun _ impossible => nomatch impossible⟩

theorem isNumeral_of_isLiteral {text : List Char} (literal : isLiteral text = true) :
    forall char, char ∈ text -> isNumeral char = true := by
  have read := eq_of_beq literal
  rcases Option.bind_eq_some_iff.mp read with ⟨third, before, last⟩
  rcases Option.bind_eq_some_iff.mp before with ⟨second, first, middle⟩
  rcases consumes_readInteger _ _ first with ⟨front, rfl, whole⟩
  rcases consumes_readFraction.behind whole middle with ⟨longer, same, fraction⟩
  rcases consumes_readExponent.behind fraction last with ⟨all, total, exponent⟩
  rw [same, total, List.append_nil]
  exact exponent

theorem ne_nil_of_isLiteral {text : List Char} (literal : isLiteral text = true) : text ≠ [] := by
  rintro rfl
  cases literal

/-- The digits of a number other than zero do not start with a zero. -/
theorem toDigits_starts (value : Nat) : 0 < value -> Exists fun first : Char =>
    Exists fun more : List Char =>
      Nat.toDigits 10 value = first :: more ∧ first ≠ '0' ∧ first ≠ '-' := by
  induction value using Nat.strong_induction_on with
  | _ value inductionHypothesis =>
      intro positive
      by_cases small : value < 10
      · rw [Nat.toDigits_of_lt_base small]
        refine ⟨Nat.digitChar value, [], rfl, ?_⟩
        have digits : forall digit, digit < 10 -> 0 < digit ->
            Nat.digitChar digit ≠ '0' ∧ Nat.digitChar digit ≠ '-' := by decide
        exact digits value small positive
      · rcases inductionHypothesis (value / 10) (by omega) (by omega) with
          ⟨first, more, starts, other⟩
        rw [Nat.toDigits_of_base_le (by decide) (by omega), starts]
        exact ⟨first, more ++ [_], rfl, other⟩

theorem readDigits_all {text : List Char} (written : text ≠ [])
    (digits : forall char, char ∈ text -> char.isDigit = true) : readDigits text = some [] := by
  cases text with
  | nil => exact absurd rfl written
  | cons first more =>
      rw [readDigits, if_pos (digits first (.head _))]
      exact congrArg some (List.dropWhile_eq_nil_iff.mpr fun char listed =>
        digits char (.tail _ listed))

/-- What begins with neither a zero nor a sign is read as digits. -/
theorem readInteger_plain {first : Char} (other : first ≠ '0' ∧ first ≠ '-') (more : List Char) :
    readInteger (first :: more) = readDigits (first :: more) := by
  unfold readInteger
  split
  · rename_i same
    exact absurd (List.cons.inj same).1 other.2
  · rename_i same
    exact absurd (List.cons.inj same).1 other.2
  · rename_i same
    exact absurd (List.cons.inj same).1 other.1
  · rfl

theorem readInteger_minus {first : Char} (other : first ≠ '0') (more : List Char) :
    readInteger ('-' :: first :: more) = readDigits (first :: more) := by
  unfold readInteger
  split
  · rename_i same
    exact absurd (List.cons.inj (List.cons.inj same).2).1 other
  · rename_i same
    rw [← (List.cons.inj same).2]
  · rename_i same
    exact absurd (List.cons.inj same).1 (by decide)
  · rename_i _ plain _
    exact absurd rfl (plain _)

theorem isLiteral_of_readInteger {text : List Char} (read : readInteger text = some []) :
    isLiteral text = true := by
  unfold isLiteral
  rw [read]
  rfl

/-- The text of an integer is a number. -/
theorem isLiteral_writeInteger (value : Int) : isLiteral (Json.writeInteger value) = true := by
  apply isLiteral_of_readInteger
  have digits : forall number char, char ∈ Nat.toDigits 10 number -> char.isDigit = true :=
    fun _ _ member => Nat.isDigit_of_mem_toDigits (by decide) (by decide) member
  cases value with
  | ofNat number =>
      change readInteger (Nat.toDigits 10 number) = _
      by_cases positive : 0 < number
      · rcases toDigits_starts number positive with ⟨first, more, starts, other⟩
        have all := readDigits_all Nat.toDigits_ne_nil (digits number)
        rw [starts] at all ⊢
        rw [readInteger_plain other, all]
      · rw [Nat.eq_zero_of_not_pos positive]
        rfl
  | negSucc number =>
      change readInteger ('-' :: Nat.toDigits 10 (number + 1)) = _
      rcases toDigits_starts (number + 1) number.succ_pos with ⟨first, more, starts, other⟩
      have all := readDigits_all Nat.toDigits_ne_nil (digits (number + 1))
      rw [starts] at all ⊢
      rw [readInteger_minus other.1, all]

/-- An integer, as it is written. -/
def integer (value : Int) : Literal := ⟨Json.writeInteger value, isLiteral_writeInteger value⟩

/-! ## Strings -/

/-- What stands for a half of a surrogate pair on its own. -/
def replacement : Char := Char.ofNat 0xfffd

/-- The character of an escaped number, with the other half of a surrogate
pair when it follows. -/
def readHalf (value : Nat) (rest : List Char) : Char × List Char :=
  if 0xd800 ≤ value ∧ value < 0xe000 then
    match readUnicode rest with
    | some (low, after) =>
        if value < 0xdc00 ∧ 0xdc00 ≤ low ∧ low < 0xe000 then
          (Char.ofNat (0x10000 + (value - 0xd800) * 1024 + (low - 0xdc00)), after)
        else (replacement, rest)
    | none => (replacement, rest)
  else (Char.ofNat value, rest)

/-- Read one character of a string. -/
def readChar (text : List Char) : Option (Char × List Char) :=
  match text with
  | '\\' :: letter :: rest =>
      match Json.shortEscapes.find? (fun entry => decide (entry.2 = letter)) with
      | some entry => some (entry.1, rest)
      | none =>
          if letter = '/' then some ('/', rest)
          else (readUnicode text).map fun read => readHalf read.1 read.2
  | char :: rest => if char.toNat < 32 then none else some (char, rest)
  | [] => none

theorem readChar_plain {char : Char} (plain : char ≠ '\\') (printable : 32 ≤ char.toNat)
    (rest : List Char) : readChar (char :: rest) = some (char, rest) := by
  unfold readChar
  split
  · rename_i same
    exact absurd (List.cons.inj same).1 plain
  · rename_i same
    cases same
    exact if_neg (by omega)
  · rename_i same
    cases same

/-- The escape of a number that is no half of a surrogate pair. -/
theorem readChar_unicodeEscape {value : Nat} (small : value < 0x10000)
    (whole : value < 0xd800 ∨ 0xe000 ≤ value) (rest : List Char) :
    readChar (Json.unicodeEscape value ++ rest) = some (Char.ofNat value, rest) := by
  have read := Json.readUnicode_unicodeEscape small rest
  unfold Json.unicodeEscape at read ⊢
  have letter : Json.shortEscapes.find? (fun entry => decide (entry.2 = 'u')) = none := by decide
  simp only [List.cons_append, List.nil_append] at read ⊢
  simp only [readChar, letter, read, Option.map_some]
  rw [if_neg (by decide)]
  exact congrArg some (if_neg (by omega))

/-- Read a string behind its opening quotation mark. -/
def readChars : Nat -> List Char -> Option (List Char × List Char)
  | 0, _ => none
  | fuel + 1, text =>
      match text with
      | '"' :: rest => some ([], rest)
      | other =>
          (readChar other).bind fun read =>
            (readChars fuel read.2).map fun more => (read.1 :: more.1, more.2)

def readString (text : List Char) : Option (String × List Char) :=
  match text with
  | '"' :: rest => (readChars (rest.length + 1) rest).map fun read => (String.ofList read.1, read.2)
  | _ => none

/-- How a writer writes the characters of strings. -/
structure Escaping where
  escape : Char -> List Char
  read : forall char rest, readChar (escape char ++ rest) = some (char, rest)
  inside : forall char, (escape char).head? ≠ some '\"'

namespace Escaping

variable (escaping : Escaping)

theorem escape_starts (char : Char) : Exists fun first : Char => Exists fun more : List Char =>
    escaping.escape char = first :: more ∧ first ≠ '\"' := by
  have read := escaping.read char []
  have inside := escaping.inside char
  cases text : escaping.escape char with
  | nil =>
      rw [text] at read
      cases read
  | cons first more =>
      rw [text] at inside
      exact ⟨first, more, rfl, fun same => inside (congrArg some same)⟩

def writeString (text : String) : List Char :=
  '\"' :: (text.toList.flatMap escaping.escape ++ ['\"'])

theorem readChars_flatMap (chars rest : List Char) (fuel : Nat)
    (enough : (chars.flatMap escaping.escape).length < fuel) :
    readChars fuel (chars.flatMap escaping.escape ++ '\"' :: rest) = some (chars, rest) := by
  induction chars generalizing fuel with
  | nil =>
      cases fuel with
      | zero => cases enough
      | succ fuel => rfl
  | cons char others inductionHypothesis =>
      cases fuel with
      | zero => cases enough
      | succ fuel =>
          have read := escaping.read char (others.flatMap escaping.escape ++ '\"' :: rest)
          rcases escaping.escape_starts char with ⟨first, more, starts, different⟩
          rw [List.flatMap_cons, List.length_append, starts, List.length_cons] at enough
          rw [List.flatMap_cons, List.append_assoc]
          rw [starts, List.cons_append] at read ⊢
          unfold readChars
          split
          · rename_i same
            exact absurd (List.cons.inj same).1 different
          · rw [read, Option.bind_some, inductionHypothesis fuel (by omega)]
            rfl

theorem readString_writeString (text : String) (rest : List Char) :
    readString (escaping.writeString text ++ rest) = some (text, rest) := by
  unfold writeString
  rw [List.cons_append, List.append_assoc]
  change (readChars _ (text.toList.flatMap escaping.escape ++ '\"' :: rest)).map _ = _
  rw [escaping.readChars_flatMap _ _ _ (by rw [List.length_append]; omega)]
  exact congrArg (fun name => some (name, rest)) String.ofList_toList

end Escaping

/-! ## Values -/

/-- Read a key and the colon behind it. -/
def readKey (text : List Char) : Option (String × List Char) :=
  (readString text).bind fun read =>
    match skipBlanks read.2 with
    | ':' :: rest => some (read.1, skipBlanks rest)
    | _ => none

def readNumber (text : List Char) : Option (Json Literal × List Char) :=
  if valid : isLiteral (text.takeWhile isNumeral) = true then
    some (.number ⟨text.takeWhile isNumeral, valid⟩, text.dropWhile isNumeral)
  else none

section Sequences

variable {Item : Type u} (item : List Char -> Option (Item × List Char)) (close : Char)

/-- Read the items behind the first one, and the end of their sequence. -/
def readRest : Nat -> List Char -> Option (List Item × List Char)
  | 0, _ => none
  | fuel + 1, text =>
      match skipBlanks text with
      | [] => none
      | first :: rest =>
          if first = close then some ([], rest)
          else if first = ',' then
            (item (skipBlanks rest)).bind fun read =>
              (readRest fuel read.2).map fun more => (read.1 :: more.1, more.2)
          else none

/-- Read the items behind the opening bracket. -/
def readSequence (fuel : Nat) (text : List Char) : Option (List Item × List Char) :=
  match skipBlanks text with
  | [] => none
  | first :: rest =>
      if first = close then some ([], rest)
      else
        (item (first :: rest)).bind fun read =>
          (readRest item close fuel read.2).map fun more => (read.1 :: more.1, more.2)

end Sequences

/-- Read one member, with what reads its value. -/
def readMember (value : List Char -> Option (Json Literal × List Char)) (text : List Char) :
    Option ((String × Json Literal) × List Char) :=
  (readKey text).bind fun key => (value key.2).map fun read => ((key.1, read.1), read.2)

/-- Read a value that starts at the first character. -/
def readValue : Nat -> List Char -> Option (Json Literal × List Char)
  | 0, _ => none
  | fuel + 1, text =>
      match text with
      | 'n' :: 'u' :: 'l' :: 'l' :: rest => some (.null, rest)
      | 't' :: 'r' :: 'u' :: 'e' :: rest => some (.bool true, rest)
      | 'f' :: 'a' :: 'l' :: 's' :: 'e' :: rest => some (.bool false, rest)
      | '"' :: rest => (readString ('"' :: rest)).map fun read => (.string read.1, read.2)
      | '[' :: rest =>
          (readSequence (readValue fuel) ']' fuel rest).map fun read => (.array read.1, read.2)
      | '\x7b' :: rest =>
          (readSequence (readMember (readValue fuel)) '\x7d' fuel rest).map fun read =>
            (.object read.1, read.2)
      | other => readNumber other

/-- The value that a whole text is. -/
def parse (text : String) : Option (Json Literal) :=
  let start := skipBlanks text.toList
  match readValue (start.length + 1) start with
  | some (value, rest) => if skipBlanks rest = [] then some value else none
  | none => none

/-! ## Writing -/

/-- Items that are separated by commas, and the closing bracket. -/
def writeSequence (close : Char) : List (List Char) -> List Char
  | [] => [close]
  | first :: rest => first ++ (rest.flatMap (fun piece => ',' :: piece) ++ [close])

section Writing

variable (escaping : Escaping)

mutual

def write : Json Literal -> List Char
  | .null => ['n', 'u', 'l', 'l']
  | .bool true => ['t', 'r', 'u', 'e']
  | .bool false => ['f', 'a', 'l', 's', 'e']
  | .number literal => literal.text
  | .string text => escaping.writeString text
  | .array elements => '[' :: writeSequence ']' (writeElements elements)
  | .object members => '\x7b' :: writeSequence '\x7d' (writeMembers members)

def writeElements : List (Json Literal) -> List (List Char)
  | [] => []
  | element :: rest => write element :: writeElements rest

def writeMembers : List (String × Json Literal) -> List (List Char)
  | [] => []
  | member :: rest =>
      (escaping.writeString member.1 ++ ':' :: write member.2) :: writeMembers rest

end

/-- One member, as it is written. -/
def writeMember (member : String × Json Literal) : List Char :=
  escaping.writeString member.1 ++ ':' :: write escaping member.2

theorem writeElements_eq (elements : List (Json Literal)) :
    writeElements escaping elements = elements.map (write escaping) := by
  induction elements with
  | nil => rw [writeElements, List.map_nil]
  | cons element rest inductionHypothesis =>
      rw [writeElements, List.map_cons, inductionHypothesis]

theorem writeMembers_eq (members : List (String × Json Literal)) :
    writeMembers escaping members = members.map (writeMember escaping) := by
  induction members with
  | nil => rw [writeMembers, List.map_nil]
  | cons member rest inductionHypothesis =>
      rw [writeMembers, List.map_cons, inductionHypothesis]
      rfl

end Writing

/-! ## Reading what was written -/

section Sequences

variable {Item : Type u} {item : List Char -> Option (Item × List Char)} {close : Char}
  {text : Item -> List Char}

/-- An item is read from its text in front of everything that ends it. -/
def Reads (item : List Char -> Option (Item × List Char)) (text : Item -> List Char)
    (value : Item) : Prop :=
  Starts (text value) ∧ forall rest, Ends rest -> item (text value ++ rest) = some (value, rest)

theorem ends_writeRest (bracket : isNumeral close = false) (pieces : List (List Char))
    (rest : List Char) :
    Ends (pieces.flatMap (fun piece => ',' :: piece) ++ close :: rest) := by
  cases pieces with
  | nil => exact Json.ends_cons bracket rest
  | cons piece others => exact Json.ends_cons (by decide) _

theorem readRest_write (bracket : isNumeral close = false ∧ isBlank close = false ∧ close ≠ ',')
    (items : List Item) (reads : forall value, value ∈ items -> Reads item text value)
    (fuel : Nat) (enough : items.length < fuel) (rest : List Char) :
    readRest item close fuel
        ((items.map text).flatMap (fun piece => ',' :: piece) ++ close :: rest) =
      some (items, rest) := by
  induction items generalizing fuel with
  | nil =>
      cases fuel with
      | zero => cases enough
      | succ fuel =>
          have kept : skipBlanks (close :: rest) = close :: rest :=
            List.dropWhile_cons_of_neg (by rw [bracket.2.1]; exact Bool.false_ne_true)
          rw [List.map_nil, List.flatMap_nil, List.nil_append, readRest, kept]
          exact if_pos rfl
  | cons value others inductionHypothesis =>
      cases fuel with
      | zero => cases enough
      | succ fuel =>
          rcases reads value (.head _) with ⟨starts, read⟩
          have more := inductionHypothesis (fun other listed => reads other (.tail _ listed)) fuel
            (by rw [List.length_cons] at enough; omega)
          have first := read _ (ends_writeRest bracket.1 (others.map text) rest)
          rw [List.map_cons, List.flatMap_cons, List.cons_append, List.cons_append,
            List.append_assoc, readRest]
          have comma : forall behind, skipBlanks (',' :: behind) = ',' :: behind := fun _ => rfl
          have kept : skipBlanks (text value ++ ((others.map text).flatMap
                (fun piece => ',' :: piece) ++ close :: rest)) =
              text value ++ ((others.map text).flatMap (fun piece => ',' :: piece) ++
                close :: rest) := Json.skipBlanks_of_starts (starts.append _)
          simp only [comma, kept, if_neg bracket.2.2.symm, if_true]
          rw [first, Option.bind_some, more, Option.map_some]

/-- A sequence is read back when each of its items is. -/
theorem readSequence_write
    (bracket : close = ']' ∨ close = '\x7d')
    (items : List Item) (reads : forall value, value ∈ items -> Reads item text value)
    (fuel : Nat) (enough : items.length ≤ fuel) (rest : List Char) :
    readSequence item close fuel (writeSequence close (items.map text) ++ rest) =
      some (items, rest) := by
  have plain : isNumeral close = false ∧ isBlank close = false ∧ close ≠ ',' := by
    rcases bracket with rfl | rfl <;> decide
  cases items with
  | nil =>
      have kept : skipBlanks (close :: rest) = close :: rest :=
        List.dropWhile_cons_of_neg (by rw [plain.2.1]; exact Bool.false_ne_true)
      rw [List.map_nil, writeSequence, List.singleton_append, readSequence, kept]
      exact if_pos rfl
  | cons value others =>
      rcases reads value (.head _) with ⟨starts, read⟩
      have first := read _ (ends_writeRest plain.1 (others.map text) rest)
      have more := readRest_write plain others (fun other listed => reads other (.tail _ listed))
        fuel (by rw [List.length_cons] at enough; omega) rest
      have kept := Json.skipBlanks_of_starts (starts.append
        ((others.map text).flatMap (fun piece => ',' :: piece) ++ close :: rest))
      rcases starts with ⟨head, behind, same, _, notArray, notObject⟩
      rw [List.map_cons, writeSequence, List.append_assoc, List.append_assoc,
        List.singleton_append, readSequence, kept]
      rw [same, List.cons_append] at first ⊢
      have different : head ≠ close := by
        rcases bracket with rfl | rfl
        · exact notArray
        · exact notObject
      simp only [if_neg different]
      rw [first, Option.bind_some, more, Option.map_some]

end Sequences

section Values

variable (escaping : Escaping)

theorem starts_string (text : String) : Starts (escaping.writeString text) :=
  ⟨'\"', _, rfl, by decide⟩

theorem write_starts (value : Json Literal) : Starts (write escaping value) := by
  cases value with
  | null => exact ⟨'n', _, by rw [write], by decide⟩
  | bool value => cases value <;> exact ⟨_, _, by rw [write], by decide⟩
  | number literal =>
      have numeral := isNumeral_of_isLiteral literal.valid
      have written := ne_nil_of_isLiteral literal.valid
      rw [write]
      cases text : literal.text with
      | nil => exact absurd text written
      | cons first more =>
          rw [text] at numeral
          exact Json.starts_of_isNumeral (numeral first (.head _)) more
  | string text =>
      rw [write]
      exact starts_string escaping text
  | array elements => exact ⟨'[', _, by rw [write], by decide⟩
  | object members => exact ⟨'\x7b', _, by rw [write], by decide⟩

/-- A run of numeral characters is read as a number. -/
theorem readValue_numeral (fuel : Nat) {first : Char} (numeral : isNumeral first = true)
    (more : List Char) : readValue (fuel + 1) (first :: more) = readNumber (first :: more) := by
  have different : forall other : Char, isNumeral other = false -> first ≠ other := by
    rintro other plain rfl
    rw [plain] at numeral
    cases numeral
  unfold readValue
  split
  · rename_i same
    exact absurd (List.cons.inj same).1 (different _ rfl)
  · rename_i same
    exact absurd (List.cons.inj same).1 (different _ rfl)
  · rename_i same
    exact absurd (List.cons.inj same).1 (different _ rfl)
  · rename_i same
    exact absurd (List.cons.inj same).1 (different _ rfl)
  · rename_i same
    exact absurd (List.cons.inj same).1 (different _ rfl)
  · rename_i same
    exact absurd (List.cons.inj same).1 (different _ rfl)
  · rfl

/-- A number ends where its run of numeral characters ends. -/
theorem readNumber_write (literal : Literal) {rest : List Char} (ends : Ends rest) :
    readNumber (literal.text ++ rest) = some (.number literal, rest) := by
  have numeral := isNumeral_of_isLiteral literal.valid
  have stops : rest.takeWhile isNumeral = [] ∧ rest.dropWhile isNumeral = rest := by
    cases rest with
    | nil => exact ⟨rfl, rfl⟩
    | cons first more =>
        have other : ¬ isNumeral first = true := by
          rw [ends first more rfl]
          exact Bool.false_ne_true
        exact ⟨List.takeWhile_cons_of_neg other, List.dropWhile_cons_of_neg other⟩
  have taken : (literal.text ++ rest).takeWhile isNumeral = literal.text := by
    rw [List.takeWhile_append_of_pos numeral, stops.1, List.append_nil]
  have dropped : (literal.text ++ rest).dropWhile isNumeral = rest := by
    rw [List.dropWhile_append_of_pos numeral, stops.2]
  unfold readNumber
  simp only [taken, dropped, literal.valid, dite_true]

/-- The reader inverts the writer on one value, in front of any text that ends it. -/
def ReadsBack (value : Json Literal) : Prop :=
  forall fuel rest, Ends rest -> (write escaping value).length ≤ fuel ->
    readValue fuel (write escaping value ++ rest) = some (value, rest)

theorem length_le_flatMap (pieces : List (List Char)) :
    pieces.length ≤ (pieces.flatMap fun piece => ',' :: piece).length := by
  induction pieces with
  | nil => exact Nat.le_refl 0
  | cons piece others inductionHypothesis =>
      rw [List.flatMap_cons, List.length_append, List.length_cons, List.length_cons]
      omega

theorem length_le_writeSequence (close : Char) (pieces : List (List Char)) :
    pieces.length ≤ (writeSequence close pieces).length := by
  cases pieces with
  | nil => exact Nat.zero_le _
  | cons piece others =>
      have more := length_le_flatMap others
      rw [writeSequence, List.length_append, List.length_append, List.length_cons,
        List.length_singleton]
      omega

/-- Each piece is shorter than the sequence. -/
theorem length_lt_writeSequence (close : Char) {pieces : List (List Char)} {piece : List Char}
    (listed : piece ∈ pieces) : piece.length < (writeSequence close pieces).length := by
  cases pieces with
  | nil => cases listed
  | cons first others =>
      rw [writeSequence, List.length_append, List.length_append, List.length_singleton]
      rcases List.mem_cons.mp listed with rfl | later
      · omega
      · have inside : (',' :: piece).length ≤
            (others.flatMap fun piece => ',' :: piece).length :=
          (List.sublist_flatten_of_mem (List.mem_map_of_mem later)).length_le
        rw [List.length_cons] at inside
        omega

theorem readsBack_array (elements : List (Json Literal))
    (inner : forall element, element ∈ elements -> ReadsBack escaping element) :
    ReadsBack escaping (.array elements) := by
  intro fuel rest ends enough
  rw [write, writeElements_eq] at enough ⊢
  rw [List.length_cons] at enough
  cases fuel with
  | zero => cases enough
  | succ fuel =>
      have many := length_le_writeSequence ']' (elements.map (write escaping))
      rw [List.length_map] at many
      have read := @readSequence_write _ (readValue fuel) ']' (write escaping) (.inl rfl) elements
        (fun element listed => ⟨write_starts escaping element, fun behind stops =>
          inner element listed fuel behind stops (by
            have shorter := length_lt_writeSequence ']' (List.mem_map_of_mem (f := write escaping)
              listed)
            omega)⟩) fuel (by omega) rest
      rw [List.cons_append]
      change (readSequence (readValue fuel) ']' fuel _).map _ = _
      rw [read]
      rfl

theorem readMember_write (member : String × Json Literal) (fuel : Nat) {rest : List Char}
    (read : readValue fuel (write escaping member.2 ++ rest) = some (member.2, rest)) :
    readMember (readValue fuel) (writeMember escaping member ++ rest) = some (member, rest) := by
  have colon : forall behind, skipBlanks (':' :: behind) = ':' :: behind := fun _ => rfl
  have kept := Json.skipBlanks_of_starts ((write_starts escaping member.2).append rest)
  unfold readMember readKey writeMember
  rw [List.append_assoc, List.cons_append, escaping.readString_writeString, Option.bind_some]
  simp only [colon, kept, Option.bind_some, read, Option.map_some]

theorem readsBack_object (members : List (String × Json Literal))
    (inner : forall member, member ∈ members -> ReadsBack escaping member.2) :
    ReadsBack escaping (.object members) := by
  intro fuel rest ends enough
  rw [write, writeMembers_eq] at enough ⊢
  rw [List.length_cons] at enough
  cases fuel with
  | zero => cases enough
  | succ fuel =>
      have many := length_le_writeSequence '\x7d' (members.map (writeMember escaping))
      rw [List.length_map] at many
      have read := @readSequence_write _ (readMember (readValue fuel)) '\x7d'
        (writeMember escaping) (.inr rfl) members
        (fun member listed => ⟨(starts_string escaping member.1).append _, fun behind stops =>
          readMember_write escaping member fuel (inner member listed fuel behind stops (by
            have shorter := length_lt_writeSequence '\x7d'
              (List.mem_map_of_mem (f := writeMember escaping) listed)
            have parts : (writeMember escaping member).length =
                (escaping.writeString member.1).length + ((write escaping member.2).length + 1) :=
              List.length_append
            omega))⟩) fuel (by omega) rest
      rw [List.cons_append]
      change (readSequence (readMember (readValue fuel)) '\x7d' fuel _).map _ = _
      rw [read]
      rfl

/-- Every value is read back from its text. -/
theorem readsBack (value : Json Literal) : ReadsBack escaping value := by
  induction value using Json.induct with
  | null =>
      intro fuel rest ends enough
      rw [write] at enough ⊢
      cases fuel with
      | zero => cases enough
      | succ fuel => rfl
  | bool value =>
      intro fuel rest ends enough
      cases fuel with
      | zero => cases value <;> rw [write] at enough <;> cases enough
      | succ fuel => cases value <;> rw [write] <;> rfl
  | number literal =>
      intro fuel rest ends enough
      have read := readNumber_write literal ends
      have numeral := isNumeral_of_isLiteral literal.valid
      have written := ne_nil_of_isLiteral literal.valid
      rw [write] at enough ⊢
      cases text : literal.text with
      | nil => exact absurd text written
      | cons first more =>
          rw [text] at enough read numeral
          cases fuel with
          | zero => cases enough
          | succ fuel =>
              rw [List.cons_append] at read ⊢
              rw [readValue_numeral fuel (numeral first (.head _)), read]
  | string text =>
      intro fuel rest ends enough
      have read := escaping.readString_writeString text rest
      rw [write] at enough ⊢
      cases fuel with
      | zero => cases enough
      | succ fuel =>
          change (readString (escaping.writeString text ++ rest)).map _ = _
          rw [read]
          rfl
  | array elements inductionHypothesis =>
      exact readsBack_array escaping elements inductionHypothesis
  | object members inductionHypothesis =>
      exact readsBack_object escaping members inductionHypothesis

/-- The reader inverts the writer. -/
theorem parse_write (value : Json Literal) :
    parse (String.ofList (write escaping value)) = some value := by
  have kept := Json.skipBlanks_of_starts (write_starts escaping value)
  have read := readsBack escaping value ((write escaping value).length + 1) []
    (fun _ _ impossible => nomatch impossible) (Nat.le_succ _)
  rw [List.append_nil] at read
  unfold parse
  simp only [String.toList_ofList, kept, read]
  rfl

end Values

end OrderedJson
end DjangoOps
