import Mathlib.Logic.Equiv.Basic
import DjangoOps.Foundation.PrefixCode
import DjangoOps.Protocol.Frames

namespace DjangoOps
namespace Agent

open Protocol PrefixCode

/-!
# The fingerprint of a release request

`kubernetesFingerprint` hashes the JSON text of the eleven fields that say
what a release does.  The text is modelled as `encoding/json` writes it, with
the escapes that are on by default, and is shown to determine the fields.
The hash function itself is a parameter.
-/

/-- One lower-case hexadecimal digit. -/
def hexDigit (value : Nat) : Char := Nat.digitChar value

/-- The characters that `encoding/json` escapes with a letter of their own. -/
def shortEscapes : List (Char × Char) :=
  [('\"', '\"'), ('\\', '\\'), (Char.ofNat 8, 'b'), (Char.ofNat 12, 'f'), ('\n', 'n'),
    ('\r', 'r'), ('\t', 't')]

/-- `encoding/json` writes one character of a string. -/
def escapeChar (char : Char) : List Char :=
  match shortEscapes.find? (fun entry => entry.1 = char) with
  | some entry => ['\\', entry.2]
  | none =>
      if char.toNat < 32 ∨ char = '<' ∨ char = '>' ∨ char = '&' then
        ['\\', 'u', '0', '0', hexDigit (char.toNat / 16), hexDigit (char.toNat % 16)]
      else if char.toNat = 0x2028 ∨ char.toNat = 0x2029 then
        ['\\', 'u', '2', '0', '2', hexDigit (char.toNat % 16)]
      else [char]

/-- The text of a string value. -/
def jsonString (text : String) : List Char := '\"' :: (text.toList.flatMap escapeChar ++ ['\"'])

/-- The text of an unsigned number. -/
def jsonNumber (value : Nat) : List Char := Nat.toDigits 10 value

/-- One member of an object, from the brace or comma before it to its value. -/
def jsonMember (before : Char) (name : String) (value rest : List Char) : List Char :=
  before :: '\"' :: (name.toList ++ ('\"' :: ':' :: (value ++ rest)))

/-- The text that `kubernetesFingerprint` hashes. -/
def fingerprintText (request : KubernetesReleaseRequest) : List Char :=
  jsonMember '\x7b' "Namespace" (jsonString request.namespaceName) <|
  jsonMember ',' "ReleaseName" (jsonString request.releaseName) <|
  jsonMember ',' "ChartPath" (jsonString request.chartPath) <|
  jsonMember ',' "Image" (jsonString request.image) <|
  jsonMember ',' "ValuesJSON" (jsonString request.valuesJson) <|
  jsonMember ',' "CredentialRef" (jsonString request.credentialRef) <|
  jsonMember ',' "MigrationTimeout" (jsonNumber request.migrationTimeoutSeconds) <|
  jsonMember ',' "RolloutTimeout" (jsonNumber request.rolloutTimeoutSeconds) <|
  jsonMember ',' "RollbackPolicy" (jsonString request.rollbackPolicy) <|
  jsonMember ',' "Mode" (jsonString request.mode) <|
  jsonMember ',' "PreviousRevision" (jsonNumber request.previousRevision) <|
  ['\x7d']

/-- `kubernetesFingerprint`, with `hex.EncodeToString(sha256.Sum256(...))` as a
parameter. -/
def kubernetesFingerprint (sha256 : String -> String) (request : KubernetesReleaseRequest) :
    String :=
  sha256 (String.ofList (fingerprintText request))

/-- Two requests agree in the eleven fields of the fingerprint. -/
structure SameOperation (left right : KubernetesReleaseRequest) : Prop where
  namespaceName : left.namespaceName = right.namespaceName
  releaseName : left.releaseName = right.releaseName
  chartPath : left.chartPath = right.chartPath
  image : left.image = right.image
  valuesJson : left.valuesJson = right.valuesJson
  credentialRef : left.credentialRef = right.credentialRef
  migrationTimeoutSeconds : left.migrationTimeoutSeconds = right.migrationTimeoutSeconds
  rolloutTimeoutSeconds : left.rolloutTimeoutSeconds = right.rolloutTimeoutSeconds
  rollbackPolicy : left.rollbackPolicy = right.rollbackPolicy
  mode : left.mode = right.mode
  previousRevision : left.previousRevision = right.previousRevision

/-! ## Reading the text back -/

def hexValue (char : Char) : Nat :=
  if char.isDigit then char.toNat - 48 else char.toNat - 87

/-- Read one character of a JSON string. -/
def unescape : List Char -> Option (Char × List Char)
  | '\\' :: 'u' :: first :: second :: third :: fourth :: rest =>
      some (Char.ofNat (4096 * hexValue first + 256 * hexValue second + 16 * hexValue third +
        hexValue fourth), rest)
  | '\\' :: 'n' :: rest => some ('\n', rest)
  | '\\' :: 'r' :: rest => some ('\r', rest)
  | '\\' :: 't' :: rest => some ('\t', rest)
  | '\\' :: 'b' :: rest => some (Char.ofNat 8, rest)
  | '\\' :: 'f' :: rest => some (Char.ofNat 12, rest)
  | '\\' :: char :: rest => some (char, rest)
  | char :: rest => some (char, rest)
  | [] => none

theorem hexValue_hexDigit : forall value, value < 16 -> hexValue (hexDigit value) = value := by
  decide

/-- A character below 256 is read back from its two digits. -/
theorem unescape_byte {char : Char} (small : char.toNat < 256) (rest : List Char) :
    unescape (['\\', 'u', '0', '0', hexDigit (char.toNat / 16), hexDigit (char.toNat % 16)] ++
      rest) = some (char, rest) := by
  have zero : hexValue '0' = 0 := by decide
  have high := hexValue_hexDigit (char.toNat / 16) (by omega)
  have low := hexValue_hexDigit (char.toNat % 16) (by omega)
  have value : 4096 * 0 + 256 * 0 + 16 * (char.toNat / 16) + char.toNat % 16 = char.toNat := by
    omega
  simp only [List.cons_append, List.nil_append, unescape, zero, high, low, value,
    Char.ofNat_toNat]

theorem unescape_short {entry : Char × Char} (listed : entry ∈ shortEscapes) (rest : List Char) :
    unescape ('\\' :: entry.2 :: rest) = some (entry.1, rest) := by
  simp only [shortEscapes, List.mem_cons, List.not_mem_nil, or_false] at listed
  rcases listed with same | same | same | same | same | same | same <;> rw [same] <;> rfl

theorem unescape_plain {char : Char} (plain : char ≠ '\\') (rest : List Char) :
    unescape (char :: rest) = some (char, rest) := by
  unfold unescape
  split <;> rename_i same
  all_goals first | exact absurd (List.cons.inj same).1 plain | skip
  · cases same
    rfl
  · cases same

/-- Every character is read back from its text. -/
theorem unescape_escapeChar (char : Char) (rest : List Char) :
    unescape (escapeChar char ++ rest) = some (char, rest) := by
  unfold escapeChar
  split
  · rename_i entry found
    have named : entry.1 = char := by
      simpa only [decide_eq_true_eq] using List.find?_some found
    rw [← named]
    exact unescape_short (List.mem_of_find?_eq_some found) rest
  · rename_i missing
    split
    · rename_i escaped
      apply unescape_byte
      rcases escaped with small | same | same | same
      · omega
      · rw [same]
        decide
      · rw [same]
        decide
      · rw [same]
        decide
    · split
      · rename_i separator
        rw [← Char.ofNat_toNat char]
        rcases separator with same | same <;> rw [same] <;> rfl
      · refine unescape_plain ?_ rest
        intro same
        rw [same] at missing
        cases missing

theorem separates_escapeChar : Separates escapeChar := by
  intro left right leftRest rightRest same
  have read := congrArg unescape same
  rw [unescape_escapeChar, unescape_escapeChar] at read
  exact ⟨(Prod.mk.inj (Option.some.inj read)).1, (Prod.mk.inj (Option.some.inj read)).2⟩

/-- An unescaped quotation mark is not part of a string. -/
theorem avoids_escapeChar : Avoids escapeChar '\"' := by
  intro char rest tail same
  unfold escapeChar at same
  split at same
  · cases same
  · rename_i missing
    split at same
    · cases same
    · split at same
      · cases same
      · rw [(List.cons.inj same).1] at missing
        cases missing

theorem separates_jsonString : Separates jsonString := by
  intro left right leftRest rightRest same
  have closed := separates_closed separates_escapeChar avoids_escapeChar
  rcases closed _ _ _ _ (List.cons.inj same).2 with ⟨texts, rests⟩
  exact ⟨String.toList_inj.mp texts, rests⟩

/-- A number followed by a character that is no digit. -/
theorem jsonNumber_cancel {left right : Nat} {leftRest rightRest : List Char}
    {leftStop rightStop : Char} (leftEnd : leftStop.isDigit = false)
    (rightEnd : rightStop.isDigit = false)
    (same : jsonNumber left ++ leftStop :: leftRest = jsonNumber right ++ rightStop :: rightRest) :
    left = right ∧ leftStop :: leftRest = rightStop :: rightRest := by
  have digits : forall value char, char ∈ jsonNumber value -> char.isDigit = true :=
    fun _ _ member => Nat.isDigit_of_mem_toDigits (by decide) (by decide) member
  rcases run_cancel (digits left) (digits right) (by rw [leftEnd]; decide)
    (by rw [rightEnd]; decide) same with ⟨sameDigits, sameEnd⟩
  have values := congrArg (fun text => Nat.ofDigitChars 10 text 0) sameDigits
  simp only [jsonNumber, Nat.ofDigitChars_toDigits (by decide : 1 < 10) (by decide : 10 ≤ 10)]
    at values
  exact ⟨values, sameEnd⟩

/-- The hashed text determines the eleven fields. -/
theorem sameOperation_of_fingerprintText {left right : KubernetesReleaseRequest}
    (same : fingerprintText left = fingerprintText right) : SameOperation left right := by
  have next : forall {before : Char} {name : String} {left right leftRest rightRest : List Char},
      jsonMember before name left leftRest = jsonMember before name right rightRest ->
        left ++ leftRest = right ++ rightRest := by
    intro before name left right leftRest rightRest equal
    have texts := List.append_cancel_left (List.cons.inj (List.cons.inj equal).2).2
    exact (List.cons.inj (List.cons.inj texts).2).2
  rcases separates_jsonString _ _ _ _ (next same) with ⟨namespaceName, rest1⟩
  rcases separates_jsonString _ _ _ _ (next rest1) with ⟨releaseName, rest2⟩
  rcases separates_jsonString _ _ _ _ (next rest2) with ⟨chartPath, rest3⟩
  rcases separates_jsonString _ _ _ _ (next rest3) with ⟨image, rest4⟩
  rcases separates_jsonString _ _ _ _ (next rest4) with ⟨valuesJson, rest5⟩
  rcases separates_jsonString _ _ _ _ (next rest5) with ⟨credentialRef, rest6⟩
  rcases jsonNumber_cancel rfl rfl (next rest6) with ⟨migration, rest7⟩
  rcases jsonNumber_cancel rfl rfl (next rest7) with ⟨rollout, rest8⟩
  rcases separates_jsonString _ _ _ _ (next rest8) with ⟨policy, rest9⟩
  rcases separates_jsonString _ _ _ _ (next rest9) with ⟨mode, rest10⟩
  rcases jsonNumber_cancel rfl rfl (next rest10) with ⟨previous, _⟩
  exact ⟨namespaceName, releaseName, chartPath, image, valuesJson, credentialRef, migration,
    rollout, policy, mode, previous⟩

/-- Without collisions, equal fingerprints mean equal operations. -/
theorem sameOperation_of_fingerprint {sha256 : String -> String}
    (noCollision : Function.Injective sha256) {left right : KubernetesReleaseRequest}
    (same : kubernetesFingerprint sha256 left = kubernetesFingerprint sha256 right) :
    SameOperation left right :=
  sameOperation_of_fingerprintText (String.ofList_injective (noCollision same))

/-- The fingerprint is made of nothing but the eleven fields. -/
theorem fingerprint_of_sameOperation (sha256 : String -> String)
    {left right : KubernetesReleaseRequest} (same : SameOperation left right) :
    kubernetesFingerprint sha256 left = kubernetesFingerprint sha256 right := by
  simp only [kubernetesFingerprint, fingerprintText, same.namespaceName, same.releaseName,
    same.chartPath, same.image, same.valuesJson, same.credentialRef,
    same.migrationTimeoutSeconds, same.rolloutTimeoutSeconds, same.rollbackPolicy, same.mode,
    same.previousRevision]

/-! ## A sample -/

/-- A release request of the kind that the service sends. -/
def sampleRequest : KubernetesReleaseRequest where
  jobId := "release-1"
  namespaceName := "shop"
  releaseName := "web"
  chartPath := "charts/djangoops"
  image := "registry/web@sha256:0000000000000000000000000000000000000000000000000000000000000000"
  valuesJson := "\x7b\x7d"
  credentialRef := "file:cluster"
  migrationTimeoutSeconds := 120
  rolloutTimeoutSeconds := 120
  rollbackPolicy := "allow"
  mode := "release"
  previousRevision := 0

/-- An injective function that has the value of SHA-256 at the sample's text. -/
def sampleDigest : String -> String :=
  Equiv.swap (String.ofList (fingerprintText sampleRequest))
    "cd17659e3ce88531f985e44ef33cf0291b7c22126ccd4bfdb353fe71173ccf64"

end Agent
end DjangoOps
