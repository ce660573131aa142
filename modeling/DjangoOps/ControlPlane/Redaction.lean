import Mathlib.Data.Char
import Mathlib.Data.List.Basic

namespace DjangoOps
namespace ControlPlane

/-!
# Redaction of agent texts

`_redact` of the operations service replaces every assignment to a
secret-like word by a fixed mark and bounds the length of what is left.  The
pattern is `(?i)(secret|password|token|access[_-]?key)\s*[:=]\s*\S+`.  No
alternative is a prefix of another one, and neither separator is a blank, so
there is at most one way to match at a position.
-/

def maxDetail : Nat := 2048

/-- `\s` of a text pattern. -/
def isSpace (char : Char) : Bool :=
  let code := char.toNat
  (9 ≤ code && code ≤ 13) || (28 ≤ code && code ≤ 32) || code == 0x85 || code == 0xA0 ||
    code == 0x1680 || (0x2000 ≤ code && code ≤ 0x200A) || code == 0x2028 || code == 0x2029 ||
    code == 0x202F || code == 0x205F || code == 0x3000

/-- The letter that a pattern letter is compared with when case is ignored.
Two letters outside the ASCII range fold into it. -/
def foldCase (char : Char) : Char :=
  if char.toNat = 0x17F then 's' else if char.toNat = 0x212A then 'k' else char.toLower

/-- `secret|password|token|access[_-]?key`. -/
def secretWords : List String :=
  ["secret", "password", "token", "access_key", "access-key", "accesskey"]

/-- What follows a word that the text starts with. -/
def stripWord : List Char -> List Char -> Option (List Char)
  | [], text => some text
  | letter :: word, char :: text => if foldCase char = letter then stripWord word text else none
  | _ :: _, [] => none

/-- `\s*[:=]\s*\S+`; the value is what follows the match. -/
def stripAssignment (text : List Char) : Option (List Char) :=
  match text.dropWhile isSpace with
  | [] => none
  | separator :: value =>
      if separator = ':' ∨ separator = '=' then
        match value.dropWhile isSpace with
        | [] => none
        | run => some (run.dropWhile fun char => !isSpace char)
      else none

/-- The length of the match of `_SECRET_RE` at the start of a text. -/
def matchLength (text : List Char) : Option Nat :=
  (secretWords.findSome? fun word =>
    (stripWord word.toList text).bind stripAssignment).map fun rest => text.length - rest.length

/-- `_SECRET_RE.sub("[REDACTED]", ...)`, with the number of characters that
still belong to the last match. -/
def substitute : Nat -> List Char -> List Char
  | _, [] => []
  | skipped + 1, _ :: rest => substitute skipped rest
  | 0, char :: rest =>
      match matchLength (char :: rest) with
      | some length => "[REDACTED]".toList ++ substitute (length - 1) rest
      | none => char :: substitute 0 rest

/-- `_redact` -/
def redact (value : String) : String :=
  String.ofList ((substitute 0 value.toList).take maxDetail)

example : redact "TOKEN = abc; access-key:x y" = "[REDACTED] [REDACTED] y" := by
  decide +kernel

/-! ## Blanks and the case of letters -/

theorem code_of_isSpace {char : Char} (space : isSpace char = true) :
    (char.toNat < 65 ∨ 90 < char.toNat) ∧
      forall code, code ∈ [0x130, 0x131, 0x17F, 0x212A] -> char.toNat ≠ code := by
  simp only [isSpace, Bool.or_eq_true, Bool.and_eq_true, decide_eq_true_eq, beq_iff_eq] at space
  refine ⟨by omega, ?_⟩
  intro code listed
  simp only [List.mem_cons, List.not_mem_nil, or_false] at listed
  omega

theorem toLower_of_code {char : Char} (other : char.toNat < 65 ∨ 90 < char.toNat) :
    char.toLower = char := by
  unfold Char.toLower
  rw [dif_neg]
  intro letter
  have lower : 65 ≤ char.toNat := letter.1
  have upper : char.toNat ≤ 90 := letter.2
  omega

/-- A blank has no case. -/
theorem foldCase_of_isSpace {char : Char} (space : isSpace char = true) : foldCase char = char := by
  rcases code_of_isSpace space with ⟨code, others⟩
  unfold foldCase
  rw [if_neg (others _ (by decide)), if_neg (others _ (by decide)), toLower_of_code code]

end ControlPlane
end DjangoOps
