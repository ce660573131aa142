import Mathlib.Data.List.TakeWhile
import DjangoOps.ControlPlane.Redaction
import DjangoOps.Foundation.Replacement

namespace DjangoOps
namespace ControlPlane

open Replacement

/-!
# The two patterns of secret assignments

The operations service and the telemetry redact texts by patterns of one form:
one of some words in any case, a colon or an equals sign between optional
blanks, and a run of other characters.  The pattern is given as the language
that it denotes, and apart from it as the function that finds its matches.
-/

/-- `[REDACTED]` -/
def redacted : List Char := "[REDACTED]".toList

/-- `\s*` -/
def blanks : Language Char := {text | forall char, char ∈ text -> isSpace char = true}

/-- `[:=]` -/
def separators : Language Char := {text | text = [':'] ∨ text = ['=']}

/-- The words of a pattern, and how letters are compared. -/
structure SecretPattern where
  fold : Char -> Char
  words : List String
  blank : forall char, isSpace char = true -> isSpace (fold char) = true
  distinct : forall first, first ∈ words -> forall second, second ∈ words ->
    first.toList <+: second.toList -> first = second
  starts : forall word, word ∈ words -> word.toList.head?.map isSpace = some false
  opening : forall word, word ∈ words -> fold '[' ∉ word.toList
  apart : forall tail, tail ∈ redacted.tails -> tail ≠ [] -> forall word, word ∈ words ->
    ¬ (word.toList <+: tail.map fold ∨ tail.map fold <+: word.toList)

namespace SecretPattern

variable (pattern : SecretPattern)

/-- A word in any case. -/
def spellings : Language Char :=
  {text | Exists fun word : String => word ∈ pattern.words ∧ text.map pattern.fold = word.toList}

/-- What stands in front of the value. -/
def heads : Language Char := pattern.spellings * (blanks * (separators * blanks))

/-- The whole pattern. -/
def language : Language Char := pattern.heads * runs fun char => isSpace char = false

/-! ## The mark and the pattern -/

theorem head_cases {text : List Char} (listed : text ∈ pattern.heads) :
    Exists fun word : String => Exists fun spelling : List Char => Exists fun before : List Char =>
      Exists fun separator : Char => Exists fun after : List Char =>
        word ∈ pattern.words ∧ spelling.map pattern.fold = word.toList ∧
          (forall char, char ∈ before -> isSpace char = true) ∧
          (separator = ':' ∨ separator = '=') ∧
          (forall char, char ∈ after -> isSpace char = true) ∧
          text = spelling ++ (before ++ separator :: after) := by
  rcases Language.mem_mul.mp listed with ⟨spelling, ⟨word, known, spelled⟩, behind, rest, rfl⟩
  rcases Language.mem_mul.mp rest with ⟨before, blank, value, divided, rfl⟩
  rcases Language.mem_mul.mp divided with ⟨separator, divides, after, blankAfter, rfl⟩
  rcases divides with rfl | rfl
  · exact ⟨word, spelling, before, ':', after, known, spelled, blank, .inl rfl, blankAfter, rfl⟩
  · exact ⟨word, spelling, before, '=', after, known, spelled, blank, .inr rfl, blankAfter, rfl⟩

theorem head_of_parts {word : String} {spelling before after : List Char} {separator : Char}
    (known : word ∈ pattern.words) (spelled : spelling.map pattern.fold = word.toList)
    (blank : forall char, char ∈ before -> isSpace char = true)
    (divides : separator = ':' ∨ separator = '=')
    (blankAfter : forall char, char ∈ after -> isSpace char = true) :
    spelling ++ (before ++ separator :: after) ∈ pattern.heads := by
  refine Language.mem_mul.mpr ⟨spelling, ⟨word, known, spelled⟩, _, ?_, rfl⟩
  refine Language.mem_mul.mpr ⟨before, blank, _, ?_, rfl⟩
  refine Language.mem_mul.mpr ⟨[separator], ?_, after, blankAfter, rfl⟩
  rcases divides with rfl | rfl
  · exact .inl rfl
  · exact .inr rfl

theorem seamless : Seamless pattern.heads (fun char => isSpace char = false) redacted := by
  constructor
  · refine ⟨'[', by decide, ?_⟩
    intro text listed
    rcases pattern.head_cases listed with
      ⟨word, spelling, before, separator, after, known, spelled, blank, divides, blankAfter, rfl⟩
    have other : '[' ≠ separator := by
      rcases divides with rfl | rfl <;> decide
    intro opening
    simp only [List.mem_append, List.mem_cons] at opening
    rcases opening with inWord | inBlanks | same | inBlanks
    · apply pattern.opening word known
      rw [← spelled]
      exact List.mem_map_of_mem inWord
    · exact absurd (blank _ inBlanks) (by decide)
    · exact other same
    · exact absurd (blankAfter _ inBlanks) (by decide)
  · intro text listed
    rcases pattern.head_cases listed with
      ⟨word, spelling, before, separator, after, known, spelled, blank, divides, blankAfter, rfl⟩
    have starts := pattern.starts word known
    rw [← spelled] at starts
    cases spelling with
    | nil => cases starts
    | cons letter spelling =>
        refine ⟨letter, rfl, ?_⟩
        have solid : isSpace (pattern.fold letter) = false := Option.some.inj starts
        cases space : isSpace letter with
        | false => rfl
        | true => rw [pattern.blank letter space] at solid; cases solid
  · intro tail inMark nonempty text listed
    rcases pattern.head_cases listed with
      ⟨word, spelling, before, separator, after, known, spelled, blank, divides, blankAfter, rfl⟩
    have apart := pattern.apart tail ((List.mem_tails tail redacted).mpr inMark) nonempty word known
    rw [← spelled] at apart
    rintro (front | front)
    · exact apart (.inl (((List.prefix_append _ _).trans front).map pattern.fold))
    · rcases List.prefix_or_prefix_of_prefix front (List.prefix_append spelling _) with
        shorter | longer
      · exact apart (.inr (shorter.map pattern.fold))
      · exact apart (.inl (longer.map pattern.fold))

/-! ## The matches -/

/-- What follows a word that the text starts with. -/
def stripWord : List Char -> List Char -> Option (List Char)
  | [], text => some text
  | letter :: word, char :: text =>
      if pattern.fold char = letter then stripWord word text else none
  | _ :: _, [] => none

/-- The length of the match at the start of a text. -/
def matchLength (text : List Char) : Option Nat :=
  (pattern.words.findSome? fun word =>
    (pattern.stripWord word.toList text).bind stripAssignment).map fun rest =>
      text.length - rest.length

theorem stripWord_iff {word text rest : List Char} : pattern.stripWord word text = some rest <->
    Exists fun spelling : List Char =>
      text = spelling ++ rest ∧ spelling.map pattern.fold = word := by
  induction word generalizing text with
  | nil =>
      constructor
      · rintro ⟨⟩
        exact ⟨[], rfl, rfl⟩
      · rintro ⟨spelling, rfl, spelled⟩
        rw [List.map_eq_nil_iff.mp spelled]
        rfl
  | cons letter word inductionHypothesis =>
      cases text with
      | nil =>
          refine iff_of_false (fun impossible => by cases impossible) ?_
          rintro ⟨spelling, split, spelled⟩
          rw [(List.append_eq_nil_iff.mp split.symm).1] at spelled
          cases spelled
      | cons char text =>
          rw [stripWord]
          by_cases same : pattern.fold char = letter
          · rw [if_pos same, inductionHypothesis]
            constructor
            · rintro ⟨spelling, rfl, spelled⟩
              exact ⟨char :: spelling, rfl, by rw [List.map_cons, same, spelled]⟩
            · rintro ⟨spelling, split, spelled⟩
              cases spelling with
              | nil => cases spelled
              | cons other spelling =>
                  cases split
                  exact ⟨spelling, rfl, (List.cons.inj spelled).2⟩
          · rw [if_neg same]
            refine iff_of_false (fun impossible => by cases impossible) ?_
            rintro ⟨spelling, split, spelled⟩
            cases spelling with
            | nil => cases spelled
            | cons other spelling =>
                cases split
                exact same (List.cons.inj spelled).1

/-- The words of the pattern are told apart by what a text starts with. -/
theorem word_unique {first second : String} {text rest other : List Char}
    (known : first ∈ pattern.words) (knownToo : second ∈ pattern.words)
    (stripped : pattern.stripWord first.toList text = some rest)
    (strippedToo : pattern.stripWord second.toList text = some other) : first = second := by
  rcases pattern.stripWord_iff.mp stripped with ⟨spelling, rfl, spelled⟩
  rcases pattern.stripWord_iff.mp strippedToo with ⟨spellingToo, split, spelledToo⟩
  have front : spellingToo <+: spelling ++ rest := ⟨other, split.symm⟩
  rcases List.prefix_or_prefix_of_prefix front (List.prefix_append spelling rest) with
    shorter | longer
  · have words := shorter.map pattern.fold
    rw [spelled, spelledToo] at words
    exact (pattern.distinct second knownToo first known words).symm
  · have words := longer.map pattern.fold
    rw [spelled, spelledToo] at words
    exact pattern.distinct first known second knownToo words

end SecretPattern

theorem stripAssignment_parts {text rest : List Char}
    (stripped : stripAssignment text = some rest) :
    Exists fun before : List Char => Exists fun separator : Char => Exists fun after : List Char =>
      Exists fun value : List Char =>
        (forall char, char ∈ before -> isSpace char = true) ∧
          (separator = ':' ∨ separator = '=') ∧
          (forall char, char ∈ after -> isSpace char = true) ∧
          value ∈ runs (fun char => isSpace char = false) ∧
          text = before ++ separator :: (after ++ (value ++ rest)) := by
  unfold stripAssignment at stripped
  cases first : text.dropWhile isSpace with
  | nil =>
      rw [first] at stripped
      cases stripped
  | cons separator behind =>
      rw [first] at stripped
      dsimp only at stripped
      by_cases divides : separator = ':' ∨ separator = '='
      · rw [if_pos divides] at stripped
        cases second : behind.dropWhile isSpace with
        | nil =>
            rw [second] at stripped
            cases stripped
        | cons letter others =>
            rw [second] at stripped
            have remains := Option.some.inj stripped
            have solid : isSpace letter = false := by
              have starts := List.head_dropWhile_not isSpace (l := behind)
                (by rw [second]; exact List.cons_ne_nil _ _)
              simpa only [second, List.head_cons] using starts
            refine ⟨text.takeWhile isSpace, separator, behind.takeWhile isSpace,
              (letter :: others).takeWhile fun char => !isSpace char,
              fun char listed => List.mem_takeWhile_imp listed, divides,
              fun char listed => List.mem_takeWhile_imp listed, ⟨?_, ?_⟩, ?_⟩
            · rw [List.takeWhile_cons_of_pos (by rw [solid]; rfl)]
              exact List.cons_ne_nil _ _
            · intro char listed
              have kept := @List.mem_takeWhile_imp _ (fun char => !isSpace char) _ _ listed
              rwa [Bool.not_eq_true'] at kept
            · rw [← remains, List.takeWhile_append_dropWhile, ← second,
                List.takeWhile_append_dropWhile, ← first, List.takeWhile_append_dropWhile]
      · rw [if_neg divides] at stripped
        cases stripped

theorem stripAssignment_of_parts {before after value tail : List Char} {separator : Char}
    (blank : forall char, char ∈ before -> isSpace char = true)
    (divides : separator = ':' ∨ separator = '=')
    (blankAfter : forall char, char ∈ after -> isSpace char = true)
    (run : value ∈ runs (fun char => isSpace char = false)) :
    stripAssignment (before ++ separator :: (after ++ (value ++ tail))) =
      some (tail.dropWhile fun char => !isSpace char) := by
  rcases run with ⟨nonempty, solid⟩
  have divider : isSpace separator = false := by
    rcases divides with rfl | rfl <;> decide
  unfold stripAssignment
  rw [List.dropWhile_append_of_pos blank, List.dropWhile_cons_of_neg (by rw [divider]; decide)]
  dsimp only
  rw [if_pos divides, List.dropWhile_append_of_pos blankAfter]
  cases value with
  | nil => exact absurd rfl nonempty
  | cons letter value =>
      rw [List.cons_append, List.dropWhile_cons_of_neg (by rw [solid letter (.head _)]; decide)]
      dsimp only
      rw [← List.cons_append, List.dropWhile_append_of_pos]
      intro char listed
      rw [solid char listed]
      rfl

namespace SecretPattern

variable (pattern : SecretPattern)

theorem matched_of_strip {word : String} {text rest : List Char} (known : word ∈ pattern.words)
    (stripped : (pattern.stripWord word.toList text).bind stripAssignment = some rest) :
    Exists fun found : List Char =>
      found ∈ pattern.language ∧ found ≠ [] ∧ text = found ++ rest := by
  rcases Option.bind_eq_some_iff.mp stripped with ⟨behind, starts, assigned⟩
  rcases pattern.stripWord_iff.mp starts with ⟨spelling, rfl, spelled⟩
  rcases stripAssignment_parts assigned with
    ⟨before, separator, after, value, blank, divides, blankAfter, run, rfl⟩
  have inHead := pattern.head_of_parts known spelled blank divides blankAfter
  refine ⟨_, Language.mem_mul.mpr ⟨_, inHead, value, run, rfl⟩, ?_, ?_⟩
  · exact fun none => run.1 (List.append_eq_nil_iff.mp none).2
  · simp only [List.append_assoc, List.cons_append]

theorem strip_of_matched {text other : List Char} (matched : other ∈ pattern.language)
    (front : other <+: text) :
    Exists fun word : String => Exists fun rest : List Char =>
      word ∈ pattern.words ∧
        (pattern.stripWord word.toList text).bind stripAssignment = some rest ∧
        other.length + rest.length ≤ text.length := by
  rcases front with ⟨tail, rfl⟩
  rcases Language.mem_mul.mp matched with ⟨head, inHead, value, run, rfl⟩
  rcases pattern.head_cases inHead with
    ⟨word, spelling, before, separator, after, known, spelled, blank, divides, blankAfter, rfl⟩
  refine ⟨word, tail.dropWhile fun char => !isSpace char, known, ?_, ?_⟩
  · have split : spelling ++ (before ++ separator :: after) ++ value ++ tail =
        spelling ++ (before ++ separator :: (after ++ (value ++ tail))) := by
      simp only [List.append_assoc, List.cons_append]
    rw [split, pattern.stripWord_iff.mpr ⟨spelling, rfl, spelled⟩, Option.bind_some]
    exact stripAssignment_of_parts blank divides blankAfter run
  · rw [@List.length_append _ _ tail]
    exact Nat.add_le_add_left (List.length_dropWhile_le _ tail) _

theorem finds : Finds pattern.language pattern.matchLength := by
  constructor
  · intro text length found
    rcases Option.map_eq_some_iff.mp found with ⟨rest, hit, rfl⟩
    rcases List.exists_of_findSome?_eq_some hit with ⟨word, known, stripped⟩
    rcases pattern.matched_of_strip known stripped with ⟨here, matched, nonempty, split⟩
    have positive := List.length_pos_iff.mpr nonempty
    have size : text.length - rest.length = here.length := by
      rw [split, List.length_append]
      omega
    rw [size]
    refine ⟨positive, by rw [split, List.length_append]; omega, ?_, ?_⟩
    · rw [split, List.take_left]
      exact matched
    · intro other otherMatched front
      rcases pattern.strip_of_matched otherMatched front with
        ⟨second, remaining, knownToo, strippedToo, short⟩
      rcases Option.bind_eq_some_iff.mp stripped with ⟨behind, spelled, _⟩
      rcases Option.bind_eq_some_iff.mp strippedToo with ⟨behindToo, spelledToo, _⟩
      have same := pattern.word_unique known knownToo spelled spelledToo
      rw [← same, stripped] at strippedToo
      cases strippedToo
      omega
  · intro text missed other matched front
    rcases pattern.strip_of_matched matched front with ⟨word, rest, known, stripped, _⟩
    have none := List.findSome?_eq_none_iff.mp (Option.map_eq_none_iff.mp missed) word known
    rw [stripped] at none
    cases none

/-- What the pattern makes of a text. -/
theorem replaced (text : List Char) : Replaced pattern.language redacted text
    (replace pattern.matchLength redacted 0 text) :=
  replaced_replace pattern.finds text

end SecretPattern

/-! ## The two redactions -/

/-- The words of `_SECRET_RE`. -/
def secretPattern : SecretPattern where
  fold := foldCase
  words := secretWords
  blank := by
    intro char space
    rw [foldCase_of_isSpace space]
    exact space
  distinct := by decide +kernel
  starts := by decide +kernel
  opening := by decide +kernel
  apart := by decide +kernel

namespace Telemetry

/-- `_MAX_VALUE` -/
def maxValue : Nat := 256

/-- The letter that a pattern letter is compared with when case is ignored; the
letter `i` has two more spellings outside the ASCII range. -/
def foldCase (char : Char) : Char :=
  if char.toNat = 0x130 ∨ char.toNat = 0x131 then 'i' else ControlPlane.foldCase char

theorem foldCase_of_isSpace {char : Char} (space : isSpace char = true) : foldCase char = char := by
  have others := (code_of_isSpace space).2
  unfold foldCase
  rw [if_neg (not_or.mpr ⟨others _ (by decide), others _ (by decide)⟩)]
  exact ControlPlane.foldCase_of_isSpace space

/-- `_SENSITIVE` -/
def sensitivePattern : SecretPattern where
  fold := foldCase
  words :=
    ["credential", "password", "secret", "token", "authorization", "access_key", "access-key",
      "accesskey", "database_url", "database-url", "databaseurl", "kubeconfig"]
  blank := by
    intro char space
    rw [foldCase_of_isSpace space]
    exact space
  distinct := by decide +kernel
  starts := by decide +kernel
  opening := by decide +kernel
  apart := by decide +kernel

/-- `value.replace("\r", " ").replace("\n", " ")` -/
def blankLineEnd (char : Char) : Char := if char = '\r' ∨ char = '\n' then ' ' else char

/-- `redact` -/
def redact (value : String) : String :=
  String.ofList ((replace sensitivePattern.matchLength redacted 0
    (value.toList.map blankLineEnd)).take maxValue)

end Telemetry

theorem stripWord_secretPattern (word text : List Char) :
    secretPattern.stripWord word text = stripWord word text := by
  induction word generalizing text with
  | nil => rfl
  | cons letter word inductionHypothesis =>
      cases text with
      | nil => rfl
      | cons char text =>
          rw [SecretPattern.stripWord, stripWord, inductionHypothesis]
          rfl

theorem matchLength_secretPattern (text : List Char) :
    secretPattern.matchLength text = matchLength text := by
  unfold SecretPattern.matchLength matchLength
  simp only [stripWord_secretPattern]
  rfl

/-- The substitution of the service replaces by its pattern. -/
theorem substitute_eq (count : Nat) (text : List Char) :
    substitute count text = replace secretPattern.matchLength redacted count text := by
  induction text generalizing count with
  | nil => cases count <;> rfl
  | cons char rest inductionHypothesis =>
      cases count with
      | succ skipped => rw [substitute, replace, inductionHypothesis]
      | zero =>
          rw [substitute, replace, matchLength_secretPattern]
          cases matchLength (char :: rest) with
          | none => exact congrArg (List.cons char) (inductionHypothesis 0)
          | some length => exact congrArg (redacted ++ ·) (inductionHypothesis (length - 1))

/-! ## What a redaction is good for -/

/-- The result has no match, is the text with its matches replaced, and cannot
be redacted further. -/
structure Redacts (language : Language Char) (blanked : Char -> Char) (bound : Nat)
    (redact : String -> String) : Prop where
  clean : forall value : String, Free language (redact value).toList
  kept : forall value : String, Exists fun output : List Char =>
    (forall other : List Char,
      Replaced language redacted (value.toList.map blanked) other <-> other = output) ∧
      (redact value).toList = output.take bound
  again : forall value : String, redact (redact value) = redact value

theorem redacts_of_replace {pattern : SecretPattern} {blanked : Char -> Char} {bound : Nat}
    {redact : String -> String}
    (replaces : forall value : String, redact value = String.ofList
      ((replace pattern.matchLength redacted 0 (value.toList.map blanked)).take bound))
    (twice : forall char, blanked (blanked char) = blanked char)
    (marks : forall char, char ∈ redacted -> blanked char = char) :
    Redacts pattern.language blanked bound redact := by
  have clean : forall value : String, Free pattern.language (redact value).toList := by
    intro value
    rw [replaces, String.toList_ofList]
    exact ((pattern.replaced _).free pattern.seamless).take bound
  have plain : forall value : String,
      (redact value).toList.map blanked = (redact value).toList := by
    intro value
    refine (List.map_congr_left ?_).trans (List.map_id _)
    intro char listed
    rw [replaces, String.toList_ofList] at listed
    rcases (pattern.replaced _).mem (List.mem_of_mem_take listed) with inText | inMark
    · rcases List.mem_map.mp inText with ⟨other, _, rfl⟩
      exact twice other
    · exact marks char inMark
  refine ⟨clean, ?_, ?_⟩
  · intro value
    have replaced := pattern.replaced (value.toList.map blanked)
    refine ⟨_, fun other => ⟨fun second => second.unique replaced, ?_⟩, ?_⟩
    · rintro rfl
      exact replaced
    · rw [replaces, String.toList_ofList]
  · intro value
    have same := (pattern.replaced (redact value).toList).of_free (clean value)
    have short : (redact value).toList.length ≤ bound := by
      rw [replaces, String.toList_ofList]
      exact List.length_take_le _ _
    rw [replaces (redact value), plain, same, List.take_of_length_le short, String.ofList_toList]

/-- Neither redaction leaves a secret assignment.  Both patterns are read as
languages: every match is replaced, what stands in its place makes no other one,
and the cut to the greatest length, which comes last, opens none.  So a text that
has been redacted stays as it is. -/
theorem redactions_clean :
    Redacts secretPattern.language id maxDetail redact ∧
      Redacts Telemetry.sensitivePattern.language Telemetry.blankLineEnd Telemetry.maxValue
        Telemetry.redact := by
  constructor
  · refine redacts_of_replace ?_ (fun _ => rfl) fun _ _ => rfl
    intro value
    rw [List.map_id, ← substitute_eq]
    rfl
  · refine redacts_of_replace (fun _ => rfl) ?_ ?_
    · intro char
      unfold Telemetry.blankLineEnd
      by_cases ends : char = '\r' ∨ char = '\n'
      · rw [if_pos ends]
        rfl
      · rw [if_neg ends, if_neg ends]
    · intro char listed
      refine if_neg ?_
      rintro (rfl | rfl)
      · exact absurd listed (by decide)
      · exact absurd listed (by decide)

example : Telemetry.redact "DATABASE_URL=\na b; kubeconfig :\n" =
    "[REDACTED] b; kubeconfig : " := by
  decide +kernel

end ControlPlane
end DjangoOps
