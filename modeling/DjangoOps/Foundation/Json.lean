import Mathlib.Data.List.Sort
import Mathlib.Data.String.Basic

namespace DjangoOps

universe u

/-!
# JSON texts in the ASCII encoding

Values, the text that a writer makes of them with its members in order of their
keys and no blanks, and a reader that accepts blanks and every escape.  A
reader makes a dictionary of an object, so it loses members with equal keys;
on values whose keys are distinct it inverts the writer.

Numbers are a parameter: a type whose members are written as runs of numeral
characters that can be read back.
-/

inductive Json (Number : Type u)
  | null
  | bool (value : Bool)
  | number (value : Number)
  | string (text : String)
  | array (elements : List (Json Number))
  | object (members : List (String × Json Number))

namespace Json

/-- The characters of which numbers are written. -/
def isNumeral (char : Char) : Bool :=
  char.isDigit || char == '-' || char == '+' || char == '.' || char == 'e' || char == 'E'

/-- How numbers are written and read. -/
structure Numerals (Number : Type u) where
  write : Number -> List Char
  read : List Char -> Option Number
  read_write : forall number, read (write number) = some number
  numeral : forall number char, char ∈ write number -> isNumeral char = true
  written : forall number, write number ≠ []

def writeInteger : Int -> List Char
  | .ofNat value => Nat.toDigits 10 value
  | .negSucc value => '-' :: Nat.toDigits 10 (value + 1)

def readInteger : List Char -> Option Int
  | [] => none
  | '-' :: digits => some (-(Nat.ofDigitChars 10 digits 0 : Int))
  | digits => some (Nat.ofDigitChars 10 digits 0 : Int)

theorem readInteger_writeInteger (value : Int) : readInteger (writeInteger value) = some value := by
  cases value with
  | ofNat value =>
      have digits : forall char, char ∈ Nat.toDigits 10 value -> char.isDigit = true :=
        fun _ member => Nat.isDigit_of_mem_toDigits (by decide) (by decide) member
      have back : Nat.ofDigitChars 10 (Nat.toDigits 10 value) 0 = value :=
        Nat.ofDigitChars_toDigits (by decide) (by decide)
      have written : Nat.toDigits 10 value ≠ [] := Nat.toDigits_ne_nil
      unfold writeInteger
      dsimp only
      generalize Nat.toDigits 10 value = text at digits back written
      unfold readInteger
      split
      · exact absurd rfl written
      · have sign : '-'.isDigit = true := digits '-' (.head _)
        exact absurd sign (by decide)
      · rw [back]
        rfl
  | negSucc value =>
      have back : Nat.ofDigitChars 10 (Nat.toDigits 10 (value + 1)) 0 = value + 1 :=
        Nat.ofDigitChars_toDigits (by decide) (by decide)
      change some (-(Nat.ofDigitChars 10 (Nat.toDigits 10 (value + 1)) 0 : Int)) = _
      rw [back]
      rfl

/-- The integers in decimal notation. -/
def Numerals.decimal : Numerals Int where
  write := writeInteger
  read := readInteger
  read_write := readInteger_writeInteger
  numeral := by
    intro value char member
    have digits : forall number, char ∈ Nat.toDigits 10 number -> isNumeral char = true := by
      intro number listed
      unfold isNumeral
      rw [Nat.isDigit_of_mem_toDigits (by decide) (by decide) listed]
      rfl
    cases value with
    | ofNat value => exact digits value member
    | negSucc value =>
        rcases List.mem_cons.mp member with rfl | listed
        · rfl
        · exact digits (value + 1) listed
  written := by
    intro value
    cases value with
    | ofNat value => exact Nat.toDigits_ne_nil
    | negSucc value => exact List.cons_ne_nil _ _

variable {Number : Type u}

/-- Induction over values, elements and members. -/
theorem induct {property : Json Number -> Prop} (null : property .null)
    (bool : forall value, property (.bool value)) (number : forall value, property (.number value))
    (string : forall text, property (.string text))
    (array : forall elements, (forall element, element ∈ elements -> property element) ->
      property (.array elements))
    (object : forall members, (forall member, member ∈ members -> property member.2) ->
      property (.object members)) (value : Json Number) : property value :=
  Json.rec null bool number string array object (fun _ impossible => nomatch impossible)
    (fun _ _ head tail _ member => by
      rcases List.mem_cons.mp member with same | later
      · rw [same]
        exact head
      · exact tail _ later)
    (fun _ impossible => nomatch impossible)
    (fun _ _ head tail _ member => by
      rcases List.mem_cons.mp member with same | later
      · rw [same]
        exact head
      · exact tail _ later)
    (fun _ _ inner => inner) value

/-! ## Dictionaries -/

/-- The value of a key. -/
def get (key : String) (members : List (String × Json Number)) : Option (Json Number) :=
  (members.find? fun member => decide (member.1 = key)).map Prod.snd

/-- Write a key, in its place when it is there. -/
def set (key : String) (value : Json Number) :
    List (String × Json Number) -> List (String × Json Number)
  | [] => [(key, value)]
  | member :: rest =>
      if member.1 = key then (key, value) :: rest else member :: set key value rest

def erase (key : String) (members : List (String × Json Number)) : List (String × Json Number) :=
  members.filter fun member => decide (member.1 ≠ key)

/-- The dictionary of the members of an object, of which the last one counts. -/
def dictionary (members : List (String × Json Number)) : List (String × Json Number) :=
  members.foldl (fun made member => set member.1 member.2 made) []

/-- The members in order of their keys. -/
def sortMembers (members : List (String × Json Number)) : List (String × Json Number) :=
  members.insertionSort fun left right => left.1 ≤ right.1

/-- No object of the value has two members with one key. -/
inductive Distinct : Json Number -> Prop
  | null : Distinct .null
  | bool (value : Bool) : Distinct (.bool value)
  | number (value : Number) : Distinct (.number value)
  | string (text : String) : Distinct (.string text)
  | array (elements : List (Json Number))
      (inner : forall element, element ∈ elements -> Distinct element) : Distinct (.array elements)
  | object (members : List (String × Json Number)) (keys : (members.map Prod.fst).Nodup)
      (inner : forall member, member ∈ members -> Distinct member.2) : Distinct (.object members)

mutual

/-- The value with the members of every object in order. -/
def canonical : Json Number -> Json Number
  | .null => .null
  | .bool value => .bool value
  | .number value => .number value
  | .string text => .string text
  | .array elements => .array (canonicalElements elements)
  | .object members => .object (sortMembers (canonicalMembers members))

def canonicalElements : List (Json Number) -> List (Json Number)
  | [] => []
  | element :: rest => canonical element :: canonicalElements rest

def canonicalMembers : List (String × Json Number) -> List (String × Json Number)
  | [] => []
  | member :: rest => (member.1, canonical member.2) :: canonicalMembers rest

end

/-! ## Writing -/

/-- One lower-case hexadecimal digit. -/
def hexDigit (value : Nat) : Char := Nat.digitChar value

/-- The escape of a number below `16 ^ 4`. -/
def unicodeEscape (value : Nat) : List Char :=
  ['\\', 'u', hexDigit (value / 4096), hexDigit (value / 256 % 16), hexDigit (value / 16 % 16),
    hexDigit (value % 16)]

/-- The characters that are escaped with a letter of their own. -/
def shortEscapes : List (Char × Char) :=
  [('\"', '\"'), ('\\', '\\'), ('\n', 'n'), ('\r', 'r'), ('\t', 't'), (Char.ofNat 12, 'f'),
    (Char.ofNat 8, 'b')]

/-- One character of a string; a character above the basic plane is written as
a surrogate pair. -/
def escapeChar (char : Char) : List Char :=
  match shortEscapes.find? (fun entry => decide (entry.1 = char)) with
  | some entry => ['\\', entry.2]
  | none =>
      if 32 ≤ char.toNat ∧ char.toNat ≤ 126 then [char]
      else if char.toNat < 0x10000 then unicodeEscape char.toNat
      else
        unicodeEscape (0xd800 + (char.toNat - 0x10000) / 1024) ++
          unicodeEscape (0xdc00 + (char.toNat - 0x10000) % 1024)

def writeString (text : String) : List Char :=
  '\"' :: (text.toList.flatMap escapeChar ++ ['\"'])

mutual

def write (numerals : Numerals Number) : Json Number -> List Char
  | .null => ['n', 'u', 'l', 'l']
  | .bool true => ['t', 'r', 'u', 'e']
  | .bool false => ['f', 'a', 'l', 's', 'e']
  | .number value => numerals.write value
  | .string text => writeString text
  | .array [] => ['[', ']']
  | .array (element :: rest) =>
      '[' :: (write numerals element ++ (writeElements numerals rest ++ [']']))
  | .object [] => ['\x7b', '\x7d']
  | .object (member :: rest) =>
      '\x7b' :: (writeString member.1 ++ ':' :: (write numerals member.2 ++
        (writeMembers numerals rest ++ ['\x7d'])))

/-- The elements behind the first one. -/
def writeElements (numerals : Numerals Number) : List (Json Number) -> List Char
  | [] => []
  | element :: rest => ',' :: (write numerals element ++ writeElements numerals rest)

/-- The members behind the first one. -/
def writeMembers (numerals : Numerals Number) : List (String × Json Number) -> List Char
  | [] => []
  | member :: rest =>
      ',' :: (writeString member.1 ++ ':' :: (write numerals member.2 ++
        writeMembers numerals rest))

end

/-- `json.dumps(value, sort_keys=True, separators=(",", ":"))` -/
def dumps (numerals : Numerals Number) (value : Json Number) : String :=
  String.ofList (write numerals value.canonical)

/-! ## Reading -/

def isBlank (char : Char) : Bool :=
  char == ' ' || char == '\t' || char == '\n' || char == '\r'

def skipBlanks (text : List Char) : List Char := text.dropWhile isBlank

def hexValue? (char : Char) : Option Nat :=
  if char.isDigit then some (char.toNat - 48)
  else if 97 ≤ char.toNat ∧ char.toNat ≤ 102 then some (char.toNat - 87)
  else if 65 ≤ char.toNat ∧ char.toNat ≤ 70 then some (char.toNat - 55)
  else none

/-- Read what `unicodeEscape` writes. -/
def readUnicode : List Char -> Option (Nat × List Char)
  | '\\' :: 'u' :: first :: second :: third :: fourth :: rest =>
      match hexValue? first, hexValue? second, hexValue? third, hexValue? fourth with
      | some high, some middle, some low, some last =>
          some (4096 * high + 256 * middle + 16 * low + last, rest)
      | _, _, _, _ => none
  | _ => none

/-- Read a character by its number, or the other half of a surrogate pair.  A
half on its own is no character. -/
def readPair (value : Nat) (rest : List Char) : Option (Char × List Char) :=
  if 0xd800 ≤ value ∧ value < 0xdc00 then
    match readUnicode rest with
    | some (low, after) =>
        if 0xdc00 ≤ low ∧ low < 0xe000 then
          some (Char.ofNat (0x10000 + (value - 0xd800) * 1024 + (low - 0xdc00)), after)
        else none
    | none => none
  else if 0xdc00 ≤ value ∧ value < 0xe000 then none
  else some (Char.ofNat value, rest)

/-- Read one character of a string. -/
def readChar (text : List Char) : Option (Char × List Char) :=
  match text with
  | '\\' :: letter :: rest =>
      match shortEscapes.find? (fun entry => decide (entry.2 = letter)) with
      | some entry => some (entry.1, rest)
      | none =>
          if letter = '/' then some ('/', rest)
          else (readUnicode text).bind fun read => readPair read.1 read.2
  | char :: rest => if char.toNat < 32 then none else some (char, rest)
  | [] => none

/-- Read a string behind its opening quotation mark. -/
def readChars : Nat -> List Char -> Option (List Char × List Char)
  | 0, _ => none
  | fuel + 1, text =>
      match text with
      | '"' :: rest => some ([], rest)
      | other =>
          (readChar other).bind fun read =>
            (readChars fuel read.2).map fun more => (read.1 :: more.1, more.2)

def readString (text : List Char) : Option (String × List Char) :=
  match text with
  | '"' :: rest => (readChars (rest.length + 1) rest).map fun read => (String.ofList read.1, read.2)
  | _ => none

/-- Read a key and the colon behind it. -/
def readKey (text : List Char) : Option (String × List Char) :=
  (readString text).bind fun read =>
    match skipBlanks read.2 with
    | ':' :: rest => some (read.1, skipBlanks rest)
    | _ => none

def readNumber (numerals : Numerals Number) (text : List Char) :
    Option (Json Number × List Char) :=
  (numerals.read (text.takeWhile isNumeral)).map fun number =>
    (.number number, text.dropWhile isNumeral)

mutual

/-- Read a value that starts at the first character. -/
def readValue (numerals : Numerals Number) : Nat -> List Char -> Option (Json Number × List Char)
  | 0, _ => none
  | fuel + 1, text =>
      match text with
      | 'n' :: 'u' :: 'l' :: 'l' :: rest => some (.null, rest)
      | 't' :: 'r' :: 'u' :: 'e' :: rest => some (.bool true, rest)
      | 'f' :: 'a' :: 'l' :: 's' :: 'e' :: rest => some (.bool false, rest)
      | '"' :: rest => (readString ('"' :: rest)).map fun read => (.string read.1, read.2)
      | '[' :: rest =>
          match skipBlanks rest with
          | ']' :: after => some (.array [], after)
          | first =>
              (readValue numerals fuel first).bind fun read =>
                (readElements numerals fuel read.2).map fun more =>
                  (.array (read.1 :: more.1), more.2)
      | '\x7b' :: rest =>
          match skipBlanks rest with
          | '\x7d' :: after => some (.object [], after)
          | first =>
              (readKey first).bind fun key =>
                (readValue numerals fuel key.2).bind fun read =>
                  (readMembers numerals fuel read.2).map fun more =>
                    (.object (dictionary ((key.1, read.1) :: more.1)), more.2)
      | other => readNumber numerals other

/-- Read the elements behind the first one, and the end of their array. -/
def readElements (numerals : Numerals Number) :
    Nat -> List Char -> Option (List (Json Number) × List Char)
  | 0, _ => none
  | fuel + 1, text =>
      match skipBlanks text with
      | ']' :: after => some ([], after)
      | ',' :: rest =>
          (readValue numerals fuel (skipBlanks rest)).bind fun read =>
            (readElements numerals fuel read.2).map fun more => (read.1 :: more.1, more.2)
      | _ => none

/-- Read the members behind the first one, and the end of their object. -/
def readMembers (numerals : Numerals Number) :
    Nat -> List Char -> Option (List (String × Json Number) × List Char)
  | 0, _ => none
  | fuel + 1, text =>
      match skipBlanks text with
      | '\x7d' :: after => some ([], after)
      | ',' :: rest =>
          (readKey (skipBlanks rest)).bind fun key =>
            (readValue numerals fuel key.2).bind fun read =>
              (readMembers numerals fuel read.2).map fun more =>
                ((key.1, read.1) :: more.1, more.2)
      | _ => none

end

/-- `json.loads(text)`, or no value where it raises. -/
def loads (numerals : Numerals Number) (text : String) : Option (Json Number) :=
  let start := skipBlanks text.toList
  match readValue numerals (start.length + 1) start with
  | some (value, rest) => if skipBlanks rest = [] then some value else none
  | none => none

end Json
end DjangoOps
