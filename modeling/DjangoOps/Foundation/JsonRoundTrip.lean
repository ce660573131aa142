import DjangoOps.Foundation.Dictionary
import DjangoOps.Foundation.Json

namespace DjangoOps
namespace Json

universe u

/-!
# Reading what was written

The reader inverts the writer on values with distinct keys.  The induction
follows the value; a text that ends a value must not go on with a numeral
character, because a number ends where its run of numeral characters ends.
-/

/-! ## Strings -/

theorem hexValue?_hexDigit : forall value, value < 16 ->
    hexValue? (hexDigit value) = some value := by
  decide

theorem readUnicode_unicodeEscape {value : Nat} (small : value < 0x10000) (rest : List Char) :
    readUnicode (unicodeEscape value ++ rest) = some (value, rest) := by
  have high := hexValue?_hexDigit (value / 4096) (by omega)
  have middle := hexValue?_hexDigit (value / 256 % 16) (by omega)
  have low := hexValue?_hexDigit (value / 16 % 16) (by omega)
  have last := hexValue?_hexDigit (value % 16) (by omega)
  have total : 4096 * (value / 4096) + 256 * (value / 256 % 16) + 16 * (value / 16 % 16) +
      value % 16 = value := by
    omega
  simp only [unicodeEscape, List.cons_append, List.nil_append, readUnicode, high, middle, low,
    last, total]

/-- An escape by number is read as the number says. -/
theorem readChar_unicodeEscape {value : Nat} (small : value < 0x10000) (rest : List Char) :
    readChar (unicodeEscape value ++ rest) = readPair value rest := by
  have read := readUnicode_unicodeEscape small rest
  unfold unicodeEscape at read ⊢
  have letter : shortEscapes.find? (fun entry => decide (entry.2 = 'u')) = none := by decide
  simp only [List.cons_append, List.nil_append] at read ⊢
  simp only [readChar, letter, read, Option.bind_some]
  exact if_neg (by decide)

theorem readChar_short {entry : Char × Char} (listed : entry ∈ shortEscapes) (rest : List Char) :
    readChar ('\\' :: entry.2 :: rest) = some (entry.1, rest) := by
  simp only [shortEscapes, List.mem_cons, List.not_mem_nil, or_false] at listed
  rcases listed with same | same | same | same | same | same | same <;> rw [same] <;> rfl

theorem readChar_plain {char : Char} (plain : char ≠ '\\') (printable : 32 ≤ char.toNat)
    (rest : List Char) : readChar (char :: rest) = some (char, rest) := by
  unfold readChar
  split
  · rename_i same
    exact absurd (List.cons.inj same).1 plain
  · rename_i same
    cases same
    exact if_neg (by omega)
  · rename_i same
    cases same

/-- Every character is read back from its text. -/
theorem readChar_escapeChar (char : Char) (rest : List Char) :
    readChar (escapeChar char ++ rest) = some (char, rest) := by
  unfold escapeChar
  split
  · rename_i entry found
    have named : entry.1 = char := by
      simpa only [decide_eq_true_eq] using List.find?_some found
    rw [← named]
    exact readChar_short (List.mem_of_find?_eq_some found) rest
  · rename_i missing
    have valid : char.toNat < 0xd800 ∨ (0xdfff < char.toNat ∧ char.toNat < 0x110000) := char.valid
    split
    · rename_i printable
      refine readChar_plain ?_ printable.1 rest
      intro same
      rw [same] at missing
      cases missing
    · split
      · rename_i basic
        rw [readChar_unicodeEscape basic]
        unfold readPair
        rw [if_neg (by omega), if_neg (by omega), Char.ofNat_toNat]
      · rename_i beyond
        rw [List.append_assoc, readChar_unicodeEscape (by omega)]
        unfold readPair
        rw [if_pos (by omega), readUnicode_unicodeEscape (by omega)]
        have total : 0x10000 + (0xd800 + (char.toNat - 0x10000) / 1024 - 0xd800) * 1024 +
            (0xdc00 + (char.toNat - 0x10000) % 1024 - 0xdc00) = char.toNat := by
          omega
        simp only [total, Char.ofNat_toNat]
        exact if_pos (by omega)

/-- The text of a character is not the end of a string. -/
theorem escapeChar_starts (char : Char) :
    Exists fun first : Char => Exists fun more : List Char =>
      escapeChar char = first :: more ∧ first ≠ '\"' := by
  unfold escapeChar
  split
  · exact ⟨'\\', _, rfl, by decide⟩
  · rename_i missing
    split
    · refine ⟨char, [], rfl, ?_⟩
      intro same
      rw [same] at missing
      cases missing
    · split <;> exact ⟨'\\', _, rfl, by decide⟩

theorem readChars_flatMap (chars rest : List Char) (fuel : Nat)
    (enough : (chars.flatMap escapeChar).length < fuel) :
    readChars fuel (chars.flatMap escapeChar ++ '\"' :: rest) = some (chars, rest) := by
  induction chars generalizing fuel with
  | nil =>
      cases fuel with
      | zero => cases enough
      | succ fuel => rfl
  | cons char others inductionHypothesis =>
      cases fuel with
      | zero => cases enough
      | succ fuel =>
          have read := readChar_escapeChar char (others.flatMap escapeChar ++ '\"' :: rest)
          rcases escapeChar_starts char with ⟨first, more, starts, different⟩
          rw [List.flatMap_cons, List.length_append] at enough
          have fewer : (others.flatMap escapeChar).length < fuel := by
            rw [starts, List.length_cons] at enough
            omega
          rw [List.flatMap_cons, List.append_assoc]
          rw [starts, List.cons_append] at read ⊢
          unfold readChars
          split
          · rename_i same
            exact absurd (List.cons.inj same).1 different
          · rw [read, Option.bind_some, inductionHypothesis fuel fewer]
            rfl

theorem readString_writeString (text : String) (rest : List Char) :
    readString (writeString text ++ rest) = some (text, rest) := by
  unfold writeString
  rw [List.cons_append, List.append_assoc]
  change (readChars _ (text.toList.flatMap escapeChar ++ '\"' :: rest)).map _ = _
  rw [readChars_flatMap _ _ _ (by rw [List.length_append]; omega)]
  exact congrArg (fun name => some (name, rest)) String.ofList_toList

theorem readKey_writeString (text : String) {first : Char} (visible : isBlank first = false)
    (rest : List Char) :
    readKey (writeString text ++ ':' :: first :: rest) = some (text, first :: rest) := by
  unfold readKey
  rw [readString_writeString, Option.bind_some]
  have colon : skipBlanks (':' :: first :: rest) = ':' :: first :: rest := rfl
  have kept : skipBlanks (first :: rest) = first :: rest :=
    List.dropWhile_cons_of_neg (by rw [visible]; exact Bool.false_ne_true)
  simp only [colon, kept]

/-! ## Dictionaries -/

section Dictionaries

variable {Number : Type u}

theorem set_eq (key : String) (value : Json Number) (members : List (String × Json Number)) :
    set key value members = Dictionary.set key value members := by
  induction members with
  | nil => rfl
  | cons member rest inductionHypothesis => rw [set, Dictionary.set, inductionHypothesis]

/-- Members with distinct keys are a dictionary. -/
theorem dictionary_of_nodup {members : List (String × Json Number)}
    (distinct : (members.map Prod.fst).Nodup) : dictionary members = members := by
  simp only [dictionary, set_eq]
  exact @Dictionary.foldl_set_of_nodup _ members [] distinct

end Dictionaries

/-! ## Values -/

/-- The text does not go on with a numeral character. -/
def Ends (text : List Char) : Prop :=
  forall first more, text = first :: more -> isNumeral first = false

theorem ends_cons {first : Char} (other : isNumeral first = false) (more : List Char) :
    Ends (first :: more) := by
  intro head rest same
  rw [← (List.cons.inj same).1]
  exact other

/-- The text starts with a character that can start a value. -/
def Starts (text : List Char) : Prop :=
  Exists fun first : Char => Exists fun more : List Char => text = first :: more ∧
    isBlank first = false ∧ first ≠ ']' ∧ first ≠ '\x7d'

theorem Starts.append {text : List Char} (starts : Starts text) (rest : List Char) :
    Starts (text ++ rest) := by
  rcases starts with ⟨first, more, same, visible⟩
  exact ⟨first, more ++ rest, by rw [same]; rfl, visible⟩

theorem skipBlanks_of_starts {text : List Char} (starts : Starts text) :
    skipBlanks text = text := by
  rcases starts with ⟨first, more, rfl, visible, _⟩
  exact List.dropWhile_cons_of_neg (by rw [visible]; exact Bool.false_ne_true)

theorem starts_of_isNumeral {first : Char} (numeral : isNumeral first = true)
    (more : List Char) : Starts (first :: more) := by
  refine ⟨first, more, rfl, ?_, ?_, ?_⟩
  · cases blank : isBlank first with
    | false => rfl
    | true =>
        simp only [isBlank, Bool.or_eq_true, beq_iff_eq] at blank
        rcases blank with ((same | same) | same) | same <;>
        · rw [same] at numeral
          revert numeral
          decide
  · rintro rfl
    revert numeral
    decide
  · rintro rfl
    revert numeral
    decide

section Values

variable {Number : Type u} (numerals : Numerals Number)

theorem Numerals.starts (value : Number) :
    Exists fun first : Char => Exists fun more : List Char =>
      numerals.write value = first :: more ∧ isNumeral first = true := by
  have written := numerals.written value
  have numeral := numerals.numeral value
  generalize numerals.write value = text at written numeral
  cases text with
  | nil => exact absurd rfl written
  | cons first more => exact ⟨first, more, rfl, numeral first (.head _)⟩

theorem write_starts (value : Json Number) : Starts (write numerals value) := by
  cases value with
  | null => exact ⟨'n', _, by rw [write], by decide⟩
  | bool value => cases value <;> exact ⟨_, _, by rw [write], by decide⟩
  | number value =>
      rcases numerals.starts value with ⟨first, more, same, numeral⟩
      rw [write, same]
      exact starts_of_isNumeral numeral more
  | string text => exact ⟨'\"', _, by rw [write, writeString], by decide⟩
  | array elements => cases elements <;> exact ⟨'[', _, by rw [write], by decide⟩
  | object members => cases members <;> exact ⟨'\x7b', _, by rw [write], by decide⟩

/-- A run of numeral characters is read as a number. -/
theorem readValue_numeral (fuel : Nat) {first : Char} (numeral : isNumeral first = true)
    (more : List Char) :
    readValue numerals (fuel + 1) (first :: more) = readNumber numerals (first :: more) := by
  have different : forall other : Char, isNumeral other = false -> first ≠ other := by
    rintro other plain rfl
    rw [plain] at numeral
    cases numeral
  unfold readValue
  split
  · rename_i same
    exact absurd (List.cons.inj same).1 (different _ rfl)
  · rename_i same
    exact absurd (List.cons.inj same).1 (different _ rfl)
  · rename_i same
    exact absurd (List.cons.inj same).1 (different _ rfl)
  · rename_i same
    exact absurd (List.cons.inj same).1 (different _ rfl)
  · rename_i same
    exact absurd (List.cons.inj same).1 (different _ rfl)
  · rename_i same
    exact absurd (List.cons.inj same).1 (different _ rfl)
  · rfl

/-- A number ends where its run of numeral characters ends. -/
theorem numeral_run (value : Number) {rest : List Char} (ends : Ends rest) :
    (numerals.write value ++ rest).takeWhile isNumeral = numerals.write value ∧
      (numerals.write value ++ rest).dropWhile isNumeral = rest := by
  have numeral := numerals.numeral value
  have stops : rest.takeWhile isNumeral = [] ∧ rest.dropWhile isNumeral = rest := by
    cases rest with
    | nil => exact ⟨rfl, rfl⟩
    | cons first more =>
        have other : ¬ isNumeral first = true := by
          rw [ends first more rfl]
          exact Bool.false_ne_true
        exact ⟨List.takeWhile_cons_of_neg other, List.dropWhile_cons_of_neg other⟩
  rw [List.takeWhile_append_of_pos numeral, List.dropWhile_append_of_pos numeral, stops.1, stops.2,
    List.append_nil]
  exact ⟨rfl, rfl⟩

theorem readNumber_write (value : Number) {rest : List Char} (ends : Ends rest) :
    readNumber numerals (numerals.write value ++ rest) = some (.number value, rest) := by
  have run := numeral_run numerals value ends
  unfold readNumber
  rw [run.1, run.2, numerals.read_write]
  rfl

/-- The reader inverts the writer on one value, in front of any text that ends it. -/
def ReadsBack (value : Json Number) : Prop :=
  forall fuel rest, Ends rest -> (write numerals value).length ≤ fuel ->
    readValue numerals fuel (write numerals value ++ rest) = some (value, rest)

theorem ends_writeElements (elements : List (Json Number)) (rest : List Char) :
    Ends (writeElements numerals elements ++ ']' :: rest) := by
  cases elements with
  | nil =>
      rw [writeElements]
      exact ends_cons rfl _
  | cons element others =>
      rw [writeElements]
      exact ends_cons rfl _

theorem ends_writeMembers (members : List (String × Json Number)) (rest : List Char) :
    Ends (writeMembers numerals members ++ '\x7d' :: rest) := by
  cases members with
  | nil =>
      rw [writeMembers]
      exact ends_cons rfl _
  | cons member others =>
      rw [writeMembers]
      exact ends_cons rfl _

theorem readElements_write (elements : List (Json Number)) (rest : List Char)
    (inner : forall element, element ∈ elements -> ReadsBack numerals element) (fuel : Nat)
    (enough : (writeElements numerals elements).length < fuel) :
    readElements numerals fuel (writeElements numerals elements ++ ']' :: rest) =
      some (elements, rest) := by
  induction elements generalizing fuel with
  | nil =>
      cases fuel with
      | zero => cases enough
      | succ fuel =>
          rw [writeElements, List.nil_append, readElements]
          rfl
  | cons element others inductionHypothesis =>
      cases fuel with
      | zero => cases enough
      | succ fuel =>
          rw [writeElements, List.length_cons, List.length_append] at enough
          have first := inner element (.head _) fuel _ (ends_writeElements numerals others rest)
            (by omega)
          have more := inductionHypothesis (fun other member => inner other (.tail _ member)) fuel
            (by omega)
          rw [writeElements, List.cons_append, List.append_assoc, readElements]
          have comma : skipBlanks (',' :: (write numerals element ++
              (writeElements numerals others ++ ']' :: rest))) = ',' :: (write numerals element ++
                (writeElements numerals others ++ ']' :: rest)) := rfl
          simp only [comma, skipBlanks_of_starts ((write_starts numerals element).append _), first,
            Option.bind_some, more, Option.map_some]

theorem readKey_write (key : String) (value : Json Number) (rest : List Char) :
    readKey (writeString key ++ ':' :: (write numerals value ++ rest)) =
      some (key, write numerals value ++ rest) := by
  rcases write_starts numerals value with ⟨first, more, same, visible, _⟩
  rw [same]
  exact readKey_writeString key visible (more ++ rest)

theorem readMembers_write (members : List (String × Json Number)) (rest : List Char)
    (inner : forall member, member ∈ members -> ReadsBack numerals member.2) (fuel : Nat)
    (enough : (writeMembers numerals members).length < fuel) :
    readMembers numerals fuel (writeMembers numerals members ++ '\x7d' :: rest) =
      some (members, rest) := by
  induction members generalizing fuel with
  | nil =>
      cases fuel with
      | zero => cases enough
      | succ fuel =>
          rw [writeMembers, List.nil_append, readMembers]
          rfl
  | cons member others inductionHypothesis =>
      cases fuel with
      | zero => cases enough
      | succ fuel =>
          rw [writeMembers, List.length_cons, List.length_append, List.length_cons,
            List.length_append] at enough
          have first := inner member (.head _) fuel _ (ends_writeMembers numerals others rest)
            (by omega)
          have more := inductionHypothesis (fun other listed => inner other (.tail _ listed)) fuel
            (by omega)
          rw [writeMembers, List.cons_append, List.append_assoc, List.cons_append,
            List.append_assoc, readMembers]
          have comma : forall text, skipBlanks (',' :: text) = ',' :: text := fun _ => rfl
          have key : forall text, skipBlanks (writeString member.1 ++ text) =
              writeString member.1 ++ text := fun _ => rfl
          simp only [comma, key, readKey_write, first, Option.bind_some, more, Option.map_some]

/-- A bracket that is not closed at once starts elements. -/
theorem readValue_array (fuel : Nat) {text : List Char} (starts : Starts text) :
    readValue numerals (fuel + 1) ('[' :: text) =
      (readValue numerals fuel text).bind fun read =>
        (readElements numerals fuel read.2).map fun more =>
          (.array (read.1 :: more.1), more.2) := by
  have kept := skipBlanks_of_starts starts
  rcases starts with ⟨first, more, rfl, _, different, _⟩
  rw [readValue]
  simp only [kept]
  split
  · rename_i same
    exact absurd (List.cons.inj same).1 different
  · rfl

/-- A brace that is not closed at once starts members. -/
theorem readValue_object (fuel : Nat) {text : List Char} (starts : Starts text) :
    readValue numerals (fuel + 1) ('\x7b' :: text) =
      (readKey text).bind fun key =>
        (readValue numerals fuel key.2).bind fun read =>
          (readMembers numerals fuel read.2).map fun more =>
            (.object (dictionary ((key.1, read.1) :: more.1)), more.2) := by
  have kept := skipBlanks_of_starts starts
  rcases starts with ⟨first, more, rfl, _, _, different⟩
  rw [readValue]
  simp only [kept]
  split
  · rename_i same
    exact absurd (List.cons.inj same).1 different
  · rfl

theorem readsBack_array (elements : List (Json Number))
    (inner : forall element, element ∈ elements -> ReadsBack numerals element) :
    ReadsBack numerals (.array elements) := by
  intro fuel rest ends enough
  cases fuel with
  | zero => cases elements <;> rw [write] at enough <;> cases enough
  | succ fuel =>
      cases elements with
      | nil =>
          rw [write]
          rfl
      | cons element others =>
          rw [write, List.length_cons, List.length_append, List.length_append,
            List.length_singleton] at enough
          have first := inner element (.head _) fuel _ (ends_writeElements numerals others rest)
            (by omega)
          have more := readElements_write numerals others rest
            (fun other member => inner other (.tail _ member)) fuel (by omega)
          rw [write, List.cons_append, List.append_assoc, List.append_assoc,
            readValue_array numerals fuel ((write_starts numerals element).append _)]
          change ((readValue numerals fuel (write numerals element ++
            (writeElements numerals others ++ ']' :: rest))).bind _) = _
          rw [first, Option.bind_some, more, Option.map_some]

theorem readsBack_object (members : List (String × Json Number))
    (distinct : (members.map Prod.fst).Nodup)
    (inner : forall member, member ∈ members -> ReadsBack numerals member.2) :
    ReadsBack numerals (.object members) := by
  intro fuel rest ends enough
  cases fuel with
  | zero => cases members <;> rw [write] at enough <;> cases enough
  | succ fuel =>
      cases members with
      | nil =>
          rw [write]
          rfl
      | cons member others =>
          rw [write, List.length_cons, List.length_append, List.length_cons, List.length_append,
            List.length_append, List.length_singleton] at enough
          have first := inner member (.head _) fuel _ (ends_writeMembers numerals others rest)
            (by omega)
          have more := readMembers_write numerals others rest
            (fun other listed => inner other (.tail _ listed)) fuel (by omega)
          have starts : Starts (writeString member.1) := ⟨'\"', _, rfl, by decide⟩
          rw [write, List.cons_append, List.append_assoc, List.cons_append, List.append_assoc,
            List.append_assoc, readValue_object numerals fuel (starts.append _)]
          change ((readKey (writeString member.1 ++ ':' :: (write numerals member.2 ++
            (writeMembers numerals others ++ '\x7d' :: rest)))).bind _) = _
          rw [readKey_write, Option.bind_some, first, Option.bind_some, more, Option.map_some,
            dictionary_of_nodup distinct]

/-- A value with distinct keys is read back from its text. -/
theorem readsBack_of_distinct (value : Json Number) (distinct : value.Distinct) :
    ReadsBack numerals value := by
  induction value using induct with
  | null =>
      intro fuel rest ends enough
      cases fuel with
      | zero => rw [write] at enough; cases enough
      | succ fuel => rw [write]; rfl
  | bool value =>
      intro fuel rest ends enough
      cases fuel with
      | zero => cases value <;> rw [write] at enough <;> cases enough
      | succ fuel => cases value <;> rw [write] <;> rfl
  | number value =>
      intro fuel rest ends enough
      rw [write] at enough ⊢
      rcases numerals.starts value with ⟨first, more, same, numeral⟩
      have read := readNumber_write numerals value ends
      rw [same] at enough read ⊢
      cases fuel with
      | zero => cases enough
      | succ fuel => rwa [List.cons_append, readValue_numeral numerals fuel numeral]
  | string text =>
      intro fuel rest ends enough
      have read := readString_writeString text rest
      cases fuel with
      | zero => rw [write] at enough; cases enough
      | succ fuel =>
          rw [write]
          change (readString (writeString text ++ rest)).map _ = _
          rw [read]
          rfl
  | array elements inductionHypothesis =>
      cases distinct with
      | array _ inner =>
          exact readsBack_array numerals elements fun element member =>
            inductionHypothesis element member (inner element member)
  | object members inductionHypothesis =>
      cases distinct with
      | object _ keys inner =>
          exact readsBack_object numerals members keys fun member listed =>
            inductionHypothesis member listed (inner member listed)

end Values

/-! ## The canonical value -/

section Canonical

variable {Number : Type u}

/-- The canonical form of a member. -/
def canonicalMember (member : String × Json Number) : String × Json Number :=
  (member.1, canonical member.2)

theorem canonicalElements_eq (elements : List (Json Number)) :
    canonicalElements elements = elements.map canonical := by
  induction elements with
  | nil => rfl
  | cons element rest inductionHypothesis =>
      rw [canonicalElements, inductionHypothesis, List.map_cons]

theorem canonicalMembers_eq (members : List (String × Json Number)) :
    canonicalMembers members = members.map canonicalMember := by
  induction members with
  | nil => rfl
  | cons member rest inductionHypothesis =>
      rw [canonicalMembers, inductionHypothesis, List.map_cons]
      rfl

theorem canonical_array (elements : List (Json Number)) :
    canonical (.array elements) = .array (elements.map canonical) := by
  rw [canonical, canonicalElements_eq]

theorem canonical_object (members : List (String × Json Number)) :
    canonical (.object members) = .object (sortMembers (members.map canonicalMember)) := by
  rw [canonical, canonicalMembers_eq]

theorem sortMembers_perm (members : List (String × Json Number)) :
    (sortMembers members).Perm members := List.perm_insertionSort _ members

/-- Members that are in order stay where they are. -/
theorem sortMembers_of_sorted {members : List (String × Json Number)}
    (sorted : (members.map Prod.fst).Pairwise fun left right => left ≤ right) :
    sortMembers members = members :=
  (List.pairwise_map.mp sorted).insertionSort_eq

theorem sortMembers_sorted (members : List (String × Json Number)) :
    (sortMembers members).Pairwise fun left right => left.1 ≤ right.1 := by
  have : Std.Total fun left right : String × Json Number => left.1 ≤ right.1 :=
    ⟨fun left right => Std.Total.total left.1 right.1⟩
  have : IsTrans (String × Json Number) fun left right => left.1 ≤ right.1 :=
    ⟨fun _ _ _ first second => le_trans first second⟩
  exact List.pairwise_insertionSort _ members

theorem sortMembers_sortMembers (members : List (String × Json Number)) :
    sortMembers (sortMembers members) = sortMembers members :=
  (sortMembers_sorted members).insertionSort_eq

theorem keys_canonicalMember (members : List (String × Json Number)) :
    (members.map canonicalMember).map Prod.fst = members.map Prod.fst := by
  rw [List.map_map]
  rfl

theorem Distinct.canonical {value : Json Number} (distinct : value.Distinct) :
    value.canonical.Distinct := by
  induction value using induct with
  | null => exact .null
  | bool value => exact .bool value
  | number value => exact .number value
  | string text => exact .string text
  | array elements inductionHypothesis =>
      cases distinct with
      | array _ inner =>
          rw [canonical_array]
          refine .array _ fun element member => ?_
          rcases List.mem_map.mp member with ⟨source, listed, rfl⟩
          exact inductionHypothesis source listed (inner source listed)
  | object members inductionHypothesis =>
      cases distinct with
      | object _ keys inner =>
          rw [canonical_object]
          refine .object _ ?_ fun member listed => ?_
          · rw [((sortMembers_perm _).map Prod.fst).nodup_iff, keys_canonicalMember]
            exact keys
          · rcases List.mem_map.mp ((sortMembers_perm _).mem_iff.mp listed) with
              ⟨source, sourceListed, rfl⟩
            exact inductionHypothesis source sourceListed (inner source sourceListed)

theorem canonical_canonical (value : Json Number) : value.canonical.canonical = value.canonical := by
  induction value using induct with
  | array elements inductionHypothesis =>
      rw [canonical_array, canonical_array, List.map_map]
      refine congrArg Json.array (List.map_congr_left fun element member => ?_)
      exact inductionHypothesis element member
  | object members inductionHypothesis =>
      have fixed : (sortMembers (members.map canonicalMember)).map canonicalMember =
          sortMembers (members.map canonicalMember) := by
        refine (List.map_congr_left fun member listed => ?_).trans (List.map_id _)
        rcases List.mem_map.mp ((sortMembers_perm _).mem_iff.mp listed) with
          ⟨source, sourceListed, rfl⟩
        exact congrArg (Prod.mk source.1) (inductionHypothesis source sourceListed)
      rw [canonical_object, canonical_object, fixed, sortMembers_sortMembers]
  | _ => rfl

/-- The reader makes of a text the value that was written. -/
theorem loads_write (numerals : Numerals Number) {value : Json Number}
    (distinct : value.Distinct) :
    loads numerals (String.ofList (write numerals value)) = some value := by
  have read := readsBack_of_distinct numerals _ distinct ((write numerals value).length + 1) []
    (fun _ _ impossible => nomatch impossible) (Nat.le_succ _)
  rw [List.append_nil] at read
  unfold loads
  simp only [String.toList_ofList, skipBlanks_of_starts (write_starts numerals value), read]
  rfl

/-- The reader makes the canonical value of what was written. -/
theorem loads_dumps (numerals : Numerals Number) {value : Json Number}
    (distinct : value.Distinct) :
    loads numerals (dumps numerals value) = some value.canonical :=
  loads_write numerals distinct.canonical

/-- Equal texts have one canonical value. -/
theorem canonical_of_dumps (numerals : Numerals Number) {left right : Json Number}
    (leftDistinct : left.Distinct) (rightDistinct : right.Distinct)
    (same : dumps numerals left = dumps numerals right) : left.canonical = right.canonical := by
  have read := loads_dumps numerals leftDistinct
  rw [same, loads_dumps numerals rightDistinct] at read
  exact (Option.some.inj read).symm

/-! ## Members by their keys -/

theorem get_eq_some {key : String} {members : List (String × Json Number)} {value : Json Number}
    (found : get key members = some value) : (key, value) ∈ members :=
  Dictionary.mem_of_get found

theorem get_eq_none {key : String} {members : List (String × Json Number)}
    (missing : get key members = none) (value : Json Number) : (key, value) ∉ members :=
  Dictionary.not_mem_of_get_eq_none missing value

/-- With distinct keys, a listed member is the one that its key gets. -/
theorem get_of_mem {key : String} {members : List (String × Json Number)} {value : Json Number}
    (distinct : (members.map Prod.fst).Nodup) (member : (key, value) ∈ members) :
    get key members = some value :=
  Dictionary.get_of_mem distinct member

theorem get_of_perm {left right : List (String × Json Number)} (perm : left.Perm right)
    (distinct : (right.map Prod.fst).Nodup) (key : String) : get key left = get key right := by
  cases found : get key left with
  | none =>
      cases other : get key right with
      | none => rfl
      | some value =>
          exact absurd (perm.mem_iff.mpr (get_eq_some other)) (get_eq_none found value)
  | some value => exact (get_of_mem distinct (perm.mem_iff.mp (get_eq_some found))).symm

theorem get_map_canonicalMember (key : String) (members : List (String × Json Number)) :
    get key (members.map canonicalMember) = (get key members).map canonical := by
  unfold get
  rw [List.find?_map, Option.map_map, Option.map_map]
  rfl

/-- The canonical value of an object has the canonical values of its members. -/
theorem get_sortMembers {members : List (String × Json Number)}
    (distinct : (members.map Prod.fst).Nodup) (key : String) :
    get key (sortMembers (members.map canonicalMember)) = (get key members).map canonical := by
  rw [get_of_perm (sortMembers_perm _) (by rw [keys_canonicalMember]; exact distinct),
    get_map_canonicalMember]

theorem get_set_self (key : String) (value : Json Number) (members : List (String × Json Number)) :
    get key (set key value members) = some value := by
  rw [set_eq]
  exact Dictionary.get_set_self key value members

theorem get_set_ne {key other : String} (different : other ≠ key) (value : Json Number)
    (members : List (String × Json Number)) :
    get other (set key value members) = get other members := by
  rw [set_eq]
  exact Dictionary.get_set_ne different value members

theorem get_erase_self (key : String) (members : List (String × Json Number)) :
    get key (erase key members) = none := by
  have missing : (erase key members).find? (fun member => decide (member.1 = key)) = none := by
    apply List.find?_eq_none.mpr
    intro member listed same
    exact of_decide_eq_true (List.mem_filter.mp listed).2 (of_decide_eq_true same)
  unfold get
  rw [missing]
  rfl

/-- What is left without one key decides the values of all other keys. -/
theorem get_of_erase {left right : List (String × Json Number)} {key other : String}
    (same : erase other left = erase other right) (different : key ≠ other) :
    get key left = get key right := by
  have kept : forall members : List (String × Json Number),
      get key (erase other members) = get key members := by
    intro members
    unfold get erase
    rw [List.find?_filter]
    refine congrArg (fun test => (members.find? test).map Prod.snd) (funext fun member => ?_)
    by_cases own : member.1 = key
    · simp only [own, different, ne_eq, not_false_eq_true, decide_true, and_self]
    · simp only [own, decide_false, Bool.false_eq_true, and_false]
  rw [← kept left, same, kept right]

theorem mem_set {key : String} {value : Json Number} {members : List (String × Json Number)}
    {member : String × Json Number} (listed : member ∈ set key value members) :
    member = (key, value) ∨ member ∈ members := by
  rw [set_eq] at listed
  exact Dictionary.mem_set listed

theorem nodup_set {key : String} {value : Json Number} {members : List (String × Json Number)}
    (distinct : (members.map Prod.fst).Nodup) :
    ((set key value members).map Prod.fst).Nodup := by
  rw [set_eq]
  exact Dictionary.nodup_set distinct

theorem Distinct.keys {members : List (String × Json Number)}
    (distinct : (Json.object members).Distinct) : (members.map Prod.fst).Nodup := by
  cases distinct with
  | object _ keys _ => exact keys

/-- Writing a key keeps the keys of the object distinct. -/
theorem Distinct.set {members : List (String × Json Number)}
    (distinct : (Json.object members).Distinct) (key : String) {value : Json Number}
    (inner : value.Distinct) : (Json.object (Json.set key value members)).Distinct := by
  cases distinct with
  | object _ keys values =>
      refine .object _ (nodup_set keys) fun member listed => ?_
      rcases mem_set listed with rfl | earlier
      · exact inner
      · exact values member earlier

theorem Distinct.erase {members : List (String × Json Number)}
    (distinct : (Json.object members).Distinct) (key : String) :
    (Json.object (Json.erase key members)).Distinct := by
  cases distinct with
  | object _ keys values =>
      refine .object _ (keys.sublist (List.filter_sublist.map _)) fun member listed => ?_
      exact values member (List.mem_of_mem_filter listed)

end Canonical

end Json
end DjangoOps
