import DjangoOps.Foundation.JsonScan

namespace DjangoOps
namespace Agent
namespace Executor

universe u

/-!
# Decoding the Helm values

`json.Unmarshal` into a `map[string]any`.  The whole text is checked against
the grammar first, with a limit on its nesting; then every number becomes a
`float64`, and a number that is too large for one is an error.
-/

/-- The digits behind a decimal point, and what follows them. -/
def readFraction : List Char -> Option (List Char × List Char)
  | '.' :: rest =>
      let digits := rest.takeWhile Char.isDigit
      if digits = [] then none else some (digits, rest.dropWhile Char.isDigit)
  | rest => some ([], rest)

/-- Digits that reach to the end. -/
def readDigits (text : List Char) : Option Nat :=
  if text ≠ [] ∧ text.all Char.isDigit then some (Nat.ofDigitChars 10 text 0) else none

/-- The exponent, which ends the number. -/
def readExponent : List Char -> Option Int
  | [] => some 0
  | letter :: rest =>
      if letter = 'e' ∨ letter = 'E' then
        match rest with
        | '-' :: digits => (readDigits digits).map fun value => -(value : Int)
        | '+' :: digits => (readDigits digits).map fun value => (value : Int)
        | digits => (readDigits digits).map fun value => (value : Int)
      else none

/-- A number literal: its digits, and the power of ten that they are multiplied
with.  The sign is left out. -/
def readLiteral (text : List Char) : Option (Nat × Int) :=
  let plain := if text.head? = some '-' then text.drop 1 else text
  let whole := plain.takeWhile Char.isDigit
  if whole = [] ∨ (whole.head? = some '0' ∧ whole ≠ ['0']) then none
  else
    (readFraction (plain.dropWhile Char.isDigit)).bind fun part =>
      (readExponent part.2).map fun exponent =>
        (Nat.ofDigitChars 10 (whole ++ part.1) 0, exponent - (part.1.length : Int))

/-- Everything from here on is rounded to infinity. -/
def floatLimit : Nat := 2 ^ 1024 - 2 ^ 970

/-- `strconv.ParseFloat` does not overflow. -/
def isFinite (digits : Nat) : Int -> Bool
  | .ofNat exponent => decide (digits * 10 ^ exponent < floatLimit)
  | .negSucc exponent => decide (digits < floatLimit * 10 ^ (exponent + 1))

/-- A number literal that becomes a `float64`. -/
def isFloat (text : List Char) : Bool :=
  ((readLiteral text).map fun literal => isFinite literal.1 literal.2).getD false

/-- `maxNestingDepth` of `encoding/json`. -/
def maxNestingDepth : Nat := 10000

/-- `json.Unmarshal([]byte(req.ValuesJSON), &values)` has no error. -/
def unmarshalsMap (text : String) : Bool :=
  let start := Json.skipBlanks text.toList
  decide (start.head? = some '\x7b' ∨ start.head? = some 'n') &&
    ((Json.scanValue isFloat (start.length + 1) maxNestingDepth start).map fun rest =>
      (Json.skipBlanks rest).isEmpty).getD false

variable {Number : Type u}

/-- Values that the agent can decode: every number is a `float64`, and the
nesting stays within the limit. -/
def decodable (numerals : Json.Numerals Number) (value : Json Number) : Bool :=
  Json.fits (Json.passes numerals isFloat) maxNestingDepth value

/-- The text of a dictionary is decoded exactly when its values are decodable. -/
theorem unmarshalsMap_dumps (numerals : Json.Numerals Number)
    (members : List (String × Json Number)) :
    unmarshalsMap (Json.dumps numerals (.object members)) =
      decodable numerals (.object members) := by
  have judged := Json.judges numerals isFloat (Json.object members).canonical
  have starts := Json.write_starts numerals (Json.object members).canonical
  have brace : (Json.write numerals (Json.object members).canonical).head? = some '\x7b' := by
    rw [Json.canonical_object]
    cases Json.sortMembers (members.map Json.canonicalMember) <;> rw [Json.write] <;> rfl
  unfold Json.dumps unmarshalsMap decodable
  rw [String.toList_ofList]
  dsimp only
  rw [Json.skipBlanks_of_starts starts, brace]
  have scanned := judged _ maxNestingDepth [] (fun _ _ impossible => by cases impossible)
    (Nat.le_succ _)
  rw [List.append_nil] at scanned
  rw [scanned, Json.fits_canonical]
  cases Json.fits (Json.passes numerals isFloat) maxNestingDepth (Json.object members) <;> rfl

example : isFloat "-1.5e+308".toList = true := by decide +kernel

example : isFloat "1e309".toList = false := by decide +kernel

end Executor
end Agent
end DjangoOps
