import DjangoOps.Foundation.JsonRoundTrip

namespace DjangoOps
namespace Json

universe u

/-!
# Checking a JSON text

A scanner that accepts texts and makes no values of them, with a limit on how
deep arrays and objects are nested and a test of the numbers.  On the text of a
value it accepts exactly when the value fits the limit and its numbers pass.
-/

/-! ## Strings -/

/-- Where the scanner stands inside of a string; `digits` counts the
hexadecimal digits that an escape still lacks. -/
inductive TextState
  | plain
  | escaped
  | digits (count : Nat)

def isHexDigit (char : Char) : Bool := (hexValue? char).isSome

/-- The letters that may follow a backslash, besides the one of a number. -/
def escapeLetters : List Char := ['\"', '\\', '/', 'b', 'f', 'n', 'r', 't']

/-- Skip a string behind its opening quotation mark. -/
def scanText : TextState -> List Char -> Option (List Char)
  | _, [] => none
  | .plain, char :: rest =>
      if char = '\"' then some rest
      else if char = '\\' then scanText .escaped rest
      else if char.toNat < 32 then none
      else scanText .plain rest
  | .escaped, char :: rest =>
      if char ∈ escapeLetters then scanText .plain rest
      else if char = 'u' then scanText (.digits 4) rest
      else none
  | .digits 0, _ :: _ => none
  | .digits (count + 1), char :: rest =>
      if isHexDigit char then scanText (if count = 0 then .plain else .digits count) rest else none

theorem isHexDigit_hexDigit : forall value, value < 16 -> isHexDigit (hexDigit value) = true := by
  intro value small
  unfold isHexDigit
  rw [hexValue?_hexDigit value small]
  rfl

theorem scanText_unicodeEscape {value : Nat} (small : value < 0x10000) (rest : List Char) :
    scanText .plain (unicodeEscape value ++ rest) = scanText .plain rest := by
  have high := isHexDigit_hexDigit (value / 4096) (by omega)
  have middle := isHexDigit_hexDigit (value / 256 % 16) (by omega)
  have low := isHexDigit_hexDigit (value / 16 % 16) (by omega)
  have last := isHexDigit_hexDigit (value % 16) (by omega)
  have letter : 'u' ∉ escapeLetters := by decide
  simp only [unicodeEscape, List.cons_append, List.nil_append, scanText, high, middle, low, last,
    letter, if_true, if_false, Nat.succ_ne_zero, Char.reduceEq]

theorem scanText_short {entry : Char × Char} (listed : entry ∈ shortEscapes) (rest : List Char) :
    scanText .plain ('\\' :: entry.2 :: rest) = scanText .plain rest := by
  have letters : forall other : Char × Char, other ∈ shortEscapes -> other.2 ∈ escapeLetters := by
    decide
  simp only [scanText, if_pos (letters entry listed), Char.reduceEq, if_true, if_false]

/-- The text of a character is skipped. -/
theorem scanText_escapeChar (char : Char) (rest : List Char) :
    scanText .plain (escapeChar char ++ rest) = scanText .plain rest := by
  unfold escapeChar
  split
  · rename_i entry found
    exact scanText_short (List.mem_of_find?_eq_some found) rest
  · rename_i missing
    have valid : char.toNat < 0xd800 ∨ (0xdfff < char.toNat ∧ char.toNat < 0x110000) := char.valid
    have different (other : Char) (known : (shortEscapes.find? fun entry =>
        decide (entry.1 = other)).isSome = true) : char ≠ other := by
      rintro rfl
      rw [missing] at known
      cases known
    split
    · rename_i printable
      rw [List.cons_append, List.nil_append, scanText, if_neg (different '\"' (by decide)),
        if_neg (different '\\' (by decide)), if_neg (by omega)]
    · split
      · rename_i basic
        exact scanText_unicodeEscape basic rest
      · rw [List.append_assoc, scanText_unicodeEscape (by omega),
          scanText_unicodeEscape (by omega)]

theorem scanText_flatMap (chars rest : List Char) :
    scanText .plain (chars.flatMap escapeChar ++ '\"' :: rest) = some rest := by
  induction chars with
  | nil => rfl
  | cons char others inductionHypothesis =>
      rw [List.flatMap_cons, List.append_assoc, scanText_escapeChar, inductionHypothesis]

/-! ## Values -/

/-- Skip a key, the colon behind it and the blanks around. -/
def scanKey : List Char -> Option (List Char)
  | '"' :: rest =>
      (scanText .plain rest).bind fun after =>
        match skipBlanks after with
        | ':' :: value => some (skipBlanks value)
        | _ => none
  | _ => none

mutual

/-- Skip a value that starts at the first character. -/
def scanValue (number : List Char -> Bool) : Nat -> Nat -> List Char -> Option (List Char)
  | 0, _, _ => none
  | fuel + 1, depth, text =>
      match text with
      | 'n' :: 'u' :: 'l' :: 'l' :: rest => some rest
      | 't' :: 'r' :: 'u' :: 'e' :: rest => some rest
      | 'f' :: 'a' :: 'l' :: 's' :: 'e' :: rest => some rest
      | '"' :: rest => scanText .plain rest
      | '[' :: rest =>
          if depth = 0 then none
          else
            match skipBlanks rest with
            | ']' :: after => some after
            | first =>
                (scanValue number fuel (depth - 1) first).bind fun more =>
                  scanElements number fuel (depth - 1) more
      | '\x7b' :: rest =>
          if depth = 0 then none
          else
            match skipBlanks rest with
            | '\x7d' :: after => some after
            | first =>
                (scanKey first).bind fun value =>
                  (scanValue number fuel (depth - 1) value).bind fun more =>
                    scanMembers number fuel (depth - 1) more
      | other =>
          if number (other.takeWhile isNumeral) then some (other.dropWhile isNumeral) else none

/-- Skip the elements behind the first one, and the end of their array. -/
def scanElements (number : List Char -> Bool) : Nat -> Nat -> List Char -> Option (List Char)
  | 0, _, _ => none
  | fuel + 1, depth, text =>
      match skipBlanks text with
      | ']' :: after => some after
      | ',' :: rest =>
          (scanValue number fuel depth (skipBlanks rest)).bind fun more =>
            scanElements number fuel depth more
      | _ => none

/-- Skip the members behind the first one, and the end of their object. -/
def scanMembers (number : List Char -> Bool) : Nat -> Nat -> List Char -> Option (List Char)
  | 0, _, _ => none
  | fuel + 1, depth, text =>
      match skipBlanks text with
      | '\x7d' :: after => some after
      | ',' :: rest =>
          (scanKey (skipBlanks rest)).bind fun value =>
            (scanValue number fuel depth value).bind fun more =>
              scanMembers number fuel depth more
      | _ => none

end

variable {Number : Type u}

mutual

/-- The numbers pass a test, and arrays and objects are nested no deeper. -/
def fits (number : Number -> Bool) : Nat -> Json Number -> Bool
  | _, .null => true
  | _, .bool _ => true
  | _, .number value => number value
  | _, .string _ => true
  | depth, .array elements => decide (depth ≠ 0) && fitsElements number (depth - 1) elements
  | depth, .object members => decide (depth ≠ 0) && fitsMembers number (depth - 1) members

def fitsElements (number : Number -> Bool) : Nat -> List (Json Number) -> Bool
  | _, [] => true
  | depth, element :: rest => fits number depth element && fitsElements number depth rest

def fitsMembers (number : Number -> Bool) : Nat -> List (String × Json Number) -> Bool
  | _, [] => true
  | depth, member :: rest => fits number depth member.2 && fitsMembers number depth rest

end

theorem fitsElements_eq (number : Number -> Bool) (depth : Nat) (elements : List (Json Number)) :
    fitsElements number depth elements = elements.all (fits number depth) := by
  induction elements with
  | nil => rfl
  | cons element rest inductionHypothesis =>
      rw [fitsElements, List.all_cons, inductionHypothesis]

theorem fitsMembers_eq (number : Number -> Bool) (depth : Nat)
    (members : List (String × Json Number)) :
    fitsMembers number depth members = members.all fun member => fits number depth member.2 := by
  induction members with
  | nil => rfl
  | cons member rest inductionHypothesis =>
      rw [fitsMembers, List.all_cons, inductionHypothesis]

/-- The order of members does not matter. -/
theorem fits_canonical (number : Number -> Bool) (value : Json Number) (depth : Nat) :
    fits number depth value.canonical = fits number depth value := by
  induction value using induct generalizing depth with
  | null => rfl
  | bool value => rfl
  | number value => rfl
  | string text => rfl
  | array elements inductionHypothesis =>
      rw [canonical_array, fits, fits, fitsElements_eq, fitsElements_eq, List.all_map]
      congr 1
      rw [Bool.eq_iff_iff, List.all_eq_true, List.all_eq_true]
      refine forall_congr' fun element => forall_congr' fun listed => ?_
      rw [Function.comp_apply, inductionHypothesis element listed]
  | object members inductionHypothesis =>
      rw [canonical_object, fits, fits, fitsMembers_eq, fitsMembers_eq,
        (sortMembers_perm _).all_eq, List.all_map]
      congr 1
      rw [Bool.eq_iff_iff, List.all_eq_true, List.all_eq_true]
      refine forall_congr' fun member => forall_congr' fun listed => ?_
      rw [Function.comp_apply, canonicalMember, inductionHypothesis member listed]

/-- A member that is replaced by an equally good one. -/
theorem fitsMembers_set {number : Number -> Bool} {depth : Nat} {key : String}
    {value old : Json Number} {members : List (String × Json Number)}
    (known : get key members = some old)
    (same : fits number depth value = fits number depth old) :
    fitsMembers number depth (set key value members) = fitsMembers number depth members := by
  induction members with
  | nil => cases known
  | cons member rest inductionHypothesis =>
      by_cases own : member.1 = key
      · simp only [get, List.find?_cons, decide_eq_true own, Option.map_some,
          Option.some.injEq] at known
        rw [set, if_pos own, fitsMembers, fitsMembers, same, known]
      · have later : get key rest = some old := by
          simp only [get, List.find?_cons, decide_eq_false own] at known ⊢
          exact known
        rw [set, if_neg own, fitsMembers, fitsMembers, inductionHypothesis later]

/-! ## The text of a value -/

section Values

variable (numerals : Numerals Number) (number : List Char -> Bool)

/-- A number is tested as it is written. -/
def passes (value : Number) : Bool := number (numerals.write value)

/-- The scanner judges the text of one value, in front of any text that ends it. -/
def Judges (value : Json Number) : Prop :=
  forall fuel depth rest, Ends rest -> (write numerals value).length ≤ fuel ->
    scanValue number fuel depth (write numerals value ++ rest) =
      if fits (passes numerals number) depth value then some rest else none

theorem scanValue_numeral (fuel depth : Nat) {first : Char} (numeral : isNumeral first = true)
    (more : List Char) :
    scanValue number (fuel + 1) depth (first :: more) =
      if number ((first :: more).takeWhile isNumeral) then
        some ((first :: more).dropWhile isNumeral) else none := by
  have different : forall other : Char, isNumeral other = false -> first ≠ other := by
    rintro other plain rfl
    rw [plain] at numeral
    cases numeral
  unfold scanValue
  split
  · rename_i same
    exact absurd (List.cons.inj same).1 (different _ rfl)
  · rename_i same
    exact absurd (List.cons.inj same).1 (different _ rfl)
  · rename_i same
    exact absurd (List.cons.inj same).1 (different _ rfl)
  · rename_i same
    exact absurd (List.cons.inj same).1 (different _ rfl)
  · rename_i same
    exact absurd (List.cons.inj same).1 (different _ rfl)
  · rename_i same
    exact absurd (List.cons.inj same).1 (different _ rfl)
  · rfl

/-- Two scans, one behind the other. -/
theorem bind_scan {first second : Bool} {next rest : List Char}
    {scan : List Char -> Option (List Char)}
    (same : scan next = if second then some rest else none) :
    (if first then some next else none).bind scan =
      if first && second then some rest else none := by
  cases first with
  | false => rfl
  | true => exact same

theorem scanElements_write (elements : List (Json Number)) (depth : Nat) (rest : List Char)
    (inner : forall element, element ∈ elements -> Judges numerals number element) (fuel : Nat)
    (enough : (writeElements numerals elements).length < fuel) :
    scanElements number fuel depth (writeElements numerals elements ++ ']' :: rest) =
      if fitsElements (passes numerals number) depth elements then some rest else none := by
  induction elements generalizing fuel with
  | nil =>
      cases fuel with
      | zero => cases enough
      | succ fuel =>
          rw [writeElements, List.nil_append, scanElements]
          rfl
  | cons element others inductionHypothesis =>
      cases fuel with
      | zero => cases enough
      | succ fuel =>
          rw [writeElements, List.length_cons, List.length_append] at enough
          have first := inner element (.head _) fuel depth _
            (ends_writeElements numerals others rest) (by omega)
          have more := inductionHypothesis (fun other member => inner other (.tail _ member)) fuel
            (by omega)
          rw [writeElements, List.cons_append, List.append_assoc, scanElements]
          have comma : skipBlanks (',' :: (write numerals element ++
              (writeElements numerals others ++ ']' :: rest))) = ',' :: (write numerals element ++
                (writeElements numerals others ++ ']' :: rest)) := rfl
          simp only [comma, skipBlanks_of_starts ((write_starts numerals element).append _), first,
            fitsElements]
          exact bind_scan more

theorem scanKey_write (key : String) (value : Json Number) (rest : List Char) :
    scanKey (writeString key ++ ':' :: (write numerals value ++ rest)) =
      some (write numerals value ++ rest) := by
  have starts := (write_starts numerals value).append rest
  generalize write numerals value ++ rest = text at starts
  have colon : skipBlanks (':' :: text) = ':' :: text := rfl
  unfold writeString
  rw [List.cons_append, List.append_assoc]
  change (scanText .plain (key.toList.flatMap escapeChar ++ '\"' :: (':' :: text))).bind _ = _
  rw [scanText_flatMap, Option.bind_some]
  simp only [colon, skipBlanks_of_starts starts]

theorem scanMembers_write (members : List (String × Json Number)) (depth : Nat) (rest : List Char)
    (inner : forall member, member ∈ members -> Judges numerals number member.2) (fuel : Nat)
    (enough : (writeMembers numerals members).length < fuel) :
    scanMembers number fuel depth (writeMembers numerals members ++ '\x7d' :: rest) =
      if fitsMembers (passes numerals number) depth members then some rest else none := by
  induction members generalizing fuel with
  | nil =>
      cases fuel with
      | zero => cases enough
      | succ fuel =>
          rw [writeMembers, List.nil_append, scanMembers]
          rfl
  | cons member others inductionHypothesis =>
      cases fuel with
      | zero => cases enough
      | succ fuel =>
          rw [writeMembers, List.length_cons, List.length_append, List.length_cons,
            List.length_append] at enough
          have first := inner member (.head _) fuel depth _
            (ends_writeMembers numerals others rest) (by omega)
          have more := inductionHypothesis (fun other listed => inner other (.tail _ listed)) fuel
            (by omega)
          rw [writeMembers, List.cons_append, List.append_assoc, List.cons_append,
            List.append_assoc, scanMembers]
          have comma : forall text, skipBlanks (',' :: text) = ',' :: text := fun _ => rfl
          have key : forall text, skipBlanks (writeString member.1 ++ text) =
              writeString member.1 ++ text := fun _ => rfl
          simp only [comma, key, scanKey_write, first, Option.bind_some, fitsMembers]
          exact bind_scan more

/-- A bracket that is not closed at once starts elements. -/
theorem scanValue_array (fuel depth : Nat) {text : List Char} (starts : Starts text) :
    scanValue number (fuel + 1) (depth + 1) ('[' :: text) =
      (scanValue number fuel depth text).bind fun more =>
        scanElements number fuel depth more := by
  have kept := skipBlanks_of_starts starts
  rcases starts with ⟨first, more, rfl, _, different, _⟩
  rw [scanValue]
  simp only [kept, Nat.succ_ne_zero, if_false, Nat.add_sub_cancel]
  split
  · rename_i same
    exact absurd (List.cons.inj same).1 different
  · rfl

/-- A brace that is not closed at once starts members. -/
theorem scanValue_object (fuel depth : Nat) {text : List Char} (starts : Starts text) :
    scanValue number (fuel + 1) (depth + 1) ('\x7b' :: text) =
      (scanKey text).bind fun value =>
        (scanValue number fuel depth value).bind fun more =>
          scanMembers number fuel depth more := by
  have kept := skipBlanks_of_starts starts
  rcases starts with ⟨first, more, rfl, _, _, different⟩
  rw [scanValue]
  simp only [kept, Nat.succ_ne_zero, if_false, Nat.add_sub_cancel]
  split
  · rename_i same
    exact absurd (List.cons.inj same).1 different
  · rfl

theorem judges_array (elements : List (Json Number))
    (inner : forall element, element ∈ elements -> Judges numerals number element) :
    Judges numerals number (.array elements) := by
  intro fuel depth rest ends enough
  cases fuel with
  | zero => cases elements <;> rw [write] at enough <;> cases enough
  | succ fuel =>
      cases depth with
      | zero => cases elements <;> rw [write, fits] <;> rfl
      | succ depth =>
          cases elements with
          | nil =>
              rw [write, fits]
              rfl
          | cons element others =>
              rw [write, List.length_cons, List.length_append, List.length_append,
                List.length_singleton] at enough
              have first := inner element (.head _) fuel depth _
                (ends_writeElements numerals others rest) (by omega)
              have more := scanElements_write numerals number others depth rest
                (fun other member => inner other (.tail _ member)) fuel (by omega)
              rw [write, List.cons_append, List.append_assoc, List.append_assoc,
                scanValue_array number fuel depth ((write_starts numerals element).append _)]
              change (scanValue number fuel depth (write numerals element ++
                (writeElements numerals others ++ ']' :: rest))).bind _ = _
              rw [first, fits, Nat.add_sub_cancel, fitsElements]
              exact bind_scan more

theorem judges_object (members : List (String × Json Number))
    (inner : forall member, member ∈ members -> Judges numerals number member.2) :
    Judges numerals number (.object members) := by
  intro fuel depth rest ends enough
  cases fuel with
  | zero => cases members <;> rw [write] at enough <;> cases enough
  | succ fuel =>
      cases depth with
      | zero => cases members <;> rw [write, fits] <;> rfl
      | succ depth =>
          cases members with
          | nil =>
              rw [write, fits]
              rfl
          | cons member others =>
              rw [write, List.length_cons, List.length_append, List.length_cons,
                List.length_append, List.length_append, List.length_singleton] at enough
              have first := inner member (.head _) fuel depth _
                (ends_writeMembers numerals others rest) (by omega)
              have more := scanMembers_write numerals number others depth rest
                (fun other listed => inner other (.tail _ listed)) fuel (by omega)
              have starts : Starts (writeString member.1) := ⟨'\"', _, rfl, by decide⟩
              rw [write, List.cons_append, List.append_assoc, List.cons_append, List.append_assoc,
                List.append_assoc, scanValue_object number fuel depth (starts.append _)]
              change (scanKey (writeString member.1 ++ ':' :: (write numerals member.2 ++
                (writeMembers numerals others ++ '\x7d' :: rest)))).bind _ = _
              rw [scanKey_write, Option.bind_some, first, fits, Nat.add_sub_cancel, fitsMembers]
              exact bind_scan more

/-- The scanner judges every value by its text. -/
theorem judges (value : Json Number) : Judges numerals number value := by
  induction value using induct with
  | null =>
      intro fuel depth rest ends enough
      cases fuel with
      | zero => rw [write] at enough; cases enough
      | succ fuel => rw [write, fits]; rfl
  | bool value =>
      intro fuel depth rest ends enough
      cases fuel with
      | zero => cases value <;> rw [write] at enough <;> cases enough
      | succ fuel => cases value <;> rw [write, fits] <;> rfl
  | number value =>
      intro fuel depth rest ends enough
      rw [write] at enough ⊢
      rcases numerals.starts value with ⟨first, more, same, numeral⟩
      have run := numeral_run numerals value ends
      rw [fits, passes]
      rw [same] at enough run ⊢
      cases fuel with
      | zero => cases enough
      | succ fuel =>
          rw [List.cons_append, scanValue_numeral number fuel depth numeral, ← List.cons_append,
            run.1, run.2]
  | string text =>
      intro fuel depth rest ends enough
      cases fuel with
      | zero => rw [write] at enough; cases enough
      | succ fuel =>
          rw [write, fits, if_pos rfl, writeString, List.cons_append, List.append_assoc]
          exact scanText_flatMap text.toList rest
  | array elements inductionHypothesis =>
      exact judges_array numerals number elements inductionHypothesis
  | object members inductionHypothesis =>
      exact judges_object numerals number members inductionHypothesis

end Values

end Json
end DjangoOps
