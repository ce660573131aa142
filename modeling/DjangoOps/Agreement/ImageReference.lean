import DjangoOps.Agent.Image
import DjangoOps.ControlPlane.Values
import DjangoOps.Foundation.SetSyntax

namespace DjangoOps
namespace Agreement

open Agent.Executor

/-!
# Image references from the request to Helm

Both validators accept every name in front of the digest.  The agent cuts the
repository off at the first digest separator and the digest at the first `@`,
and Helm reads both parts in its own syntax.
-/

/-! ## One pattern on both sides -/

theorem isHex_eq (char : Char) :
    (char.isDigit || decide (97 ≤ char.toNat ∧ char.toNat ≤ 102)) = isHex char := by
  have letter : ('a' ≤ char && char ≤ 'f') = decide (97 ≤ char.toNat ∧ char.toNat ≤ 102) := by
    apply Bool.eq_iff_iff.mpr
    rw [Bool.and_eq_true, decide_eq_true_eq, decide_eq_true_eq, decide_eq_true_eq]
    rfl
  have digit : ('0' ≤ char && char ≤ '9') = char.isDigit := rfl
  unfold isHex
  rw [letter, digit, Bool.or_comm]

/-- The two patterns are the same. -/
theorem matchesDigestImage_eq (image : String) :
    ControlPlane.matchesDigestImage image = digestImage image := by
  have digits : (fun char : Char => char.isDigit || decide (97 ≤ char.toNat ∧ char.toNat ≤ 102)) =
      isHex := by
    funext char
    exact isHex_eq char
  unfold ControlPlane.matchesDigestImage digestImage
  dsimp only
  rw [digits]
  generalize image.toList = chars
  by_cases long : 72 < chars.length
  · have tail : (chars.drop (chars.length - 72)).drop 8 = chars.drop (chars.length - 64) := by
      rw [List.drop_drop]
      congr 1
      omega
    have named : (chars.take (chars.length - 72)).isEmpty = false := by
      rw [List.isEmpty_eq_false_iff]
      intro empty
      have length := congrArg List.length empty
      rw [List.length_take, List.length_nil] at length
      omega
    have separator : (chars.drop (chars.length - 72) =
        "@sha256:".toList ++ chars.drop (chars.length - 64)) <->
        (chars.drop (chars.length - 72)).take 8 = "@sha256:".toList := by
      rw [← tail]
      constructor
      · intro same
        rw [same]
        rfl
      · intro same
        rw [← same, List.take_append_drop]
    rw [tail, named, decide_eq_true long, decide_eq_decide.mpr separator]
    rfl
  · have empty : chars.take (chars.length - 72) = [] := by
      rw [show chars.length - 72 = 0 by omega, List.take_zero]
    rw [empty, decide_eq_false long]
    rfl

/-! ## What reaches Helm -/

/-- The repository and the digest that the agent cuts out of an image make it up again,
the digest is one of SHA-256, and Helm reads from each argument of `--set` the value
that was put in. -/
structure ImageReferenceKept (image : String) : Prop where
  joined : imageRepository image ++ "@" ++ imageDigest image = image
  digest : Exists fun hex : List Char =>
    imageDigest image = "sha256:" ++ String.ofList hex ∧ hex.length = 64 ∧ hex.all isHex = true
  repositorySet : SetSyntax.setString (repositoryArgument image).toList =
    some [(["image".toList, "repository".toList], .text (imageRepository image).toList)]
  digestSet : SetSyntax.setString (digestArgument image).toList =
    some [(["image".toList, "digest".toList], .text (imageDigest image).toList)]

/-- The name in front of the digest has no `@`, and `--set` takes it literally. -/
structure PlainName (image : String) : Prop where
  single : '@' ∉ image.toList.take (image.toList.length - 72)
  verbatim : SetSyntax.Verbatim (image.toList.take (image.toList.length - 72))

theorem argument_toList (key : List Char) (value : String) :
    (String.ofList (key ++ ['=']) ++ value).toList = key ++ '=' :: value.toList := by
  rw [String.toList_append, String.toList_ofList, List.append_assoc]
  rfl

theorem repositorySet_iff (image : String) :
    SetSyntax.setString (repositoryArgument image).toList =
        some [(["image".toList, "repository".toList], .text (imageRepository image).toList)] <->
      SetSyntax.Verbatim (imageRepository image).toList := by
  have parts := @SetSyntax.setString_iff "image.repository".toList (imageRepository image).toList
    (by decide) (by decide)
  have text := argument_toList "image.repository".toList (imageRepository image)
  unfold repositoryArgument
  rw [← parts, ← text]
  rfl

theorem digestSet_iff (image : String) :
    SetSyntax.setString (digestArgument image).toList =
        some [(["image".toList, "digest".toList], .text (imageDigest image).toList)] <->
      SetSyntax.Verbatim (imageDigest image).toList := by
  have parts := @SetSyntax.setString_iff "image.digest".toList (imageDigest image).toList
    (by decide) (by decide)
  have text := argument_toList "image.digest".toList (imageDigest image)
  unfold digestArgument
  rw [← parts, ← text]
  rfl

/-- An image whose only `@` is that of its digest is cut there by both. -/
theorem parts_of_single {image : String} {name hex : List Char} (digested : Digested image name hex)
    (single : '@' ∉ name) :
    imageRepository image = String.ofList name ∧
      imageDigest image = "sha256:" ++ String.ofList hex := by
  have repository := @cut_append '@' "sha256:".toList name single hex
  have digest := cut_single_append single ("sha256:".toList ++ hex)
  have text : image.toList = name ++ '@' :: ("sha256:".toList ++ hex) := by
    rw [digested.text, List.append_assoc]
    rfl
  constructor
  · unfold imageRepository
    change cut "@sha256:".toList (name ++ "@sha256:".toList ++ hex) = _ at repository
    rw [digested.text, repository]
  · unfold imageDigest
    rw [text, digest]
    change String.ofList ("sha256:".toList ++ hex) = _
    rw [String.ofList_append]
    rfl

theorem verbatim_digest {hex : List Char} (digits : hex.all isHex = true) :
    SetSyntax.Verbatim ("sha256:".toList ++ hex) := by
  have absent : forall char, isHex char = false -> char ∉ "sha256:".toList ->
      char ∉ "sha256:".toList ++ hex := by
    intro char other front listed
    rcases List.mem_append.mp listed with early | late
    · exact front early
    · exact absurd (List.all_eq_true.mp digits char late) (by rw [other]; decide)
  refine ⟨absent ',' (by decide) (by decide), absent '\\' (by decide) (by decide), ?_⟩
  intro brace
  cases brace

/-- Of an image that both sides accept Helm gets the repository and the digest,
exactly when its name is plain.  The name is pasted into an argument of `--set`,
where a comma starts another assignment, a backslash takes the next character as
it is, and an opening brace starts a list. -/
theorem image_reference_kept {image : String}
    (accepted : ControlPlane.validateImage image = .ok image ∧ digestImage image = true) :
    ImageReferenceKept image <-> PlainName image := by
  have digested := digestImage_ok accepted.2
  generalize frontName : image.toList.take (image.toList.length - 72) = name at digested
  generalize image.toList.drop (image.toList.length - 64) = hex at digested
  constructor
  · intro kept
    rcases kept.digest with ⟨digits, digest, long, _⟩
    have found : Exists fun front : List Char =>
        cut ['@'] image.toList = some (front, "sha256:".toList ++ digits) := by
      unfold imageDigest at digest
      split at digest
      · rename_i parts cutAt
        have same := congrArg String.toList digest
        simp only [String.toList_ofList, String.toList_append] at same
        exact ⟨parts.1, by rw [cutAt, ← same]⟩
      · have same := congrArg String.toList digest
        rw [String.toList_append] at same
        cases same
    rcases found with ⟨front, cutAt⟩
    have single := cut_single_eq cutAt
    have front : name = front := by
      have whole := digested.text.symm.trans single.1
      rw [List.append_assoc] at whole
      refine (List.append_inj' whole ?_).1
      simp only [List.length_append, List.length_cons, digested.digits, long]
      rfl
    have once : '@' ∉ name := front ▸ single.2
    have same := (parts_of_single digested once).1
    have verbatim := (repositorySet_iff image).mp kept.repositorySet
    rw [same, String.toList_ofList] at verbatim
    rw [← frontName] at once verbatim
    exact ⟨once, verbatim⟩
  · rintro ⟨single, verbatim⟩
    rw [frontName] at single verbatim
    have parts := parts_of_single digested single
    have digest : (imageDigest image).toList = "sha256:".toList ++ hex := by
      rw [parts.2, String.toList_append]
      exact congrArg _ String.toList_ofList
    constructor
    · apply String.toList_inj.mp
      rw [String.toList_append, String.toList_append, digest, parts.1, String.toList_ofList,
        digested.text, List.append_assoc, List.append_assoc]
      rfl
    · exact ⟨hex, parts.2, digested.digits, digested.hex⟩
    · rw [repositorySet_iff, parts.1, String.toList_ofList]
      exact verbatim
    · rw [digestSet_iff, digest]
      exact verbatim_digest digested.hex

/-- Sixty-four zeros. -/
def sampleDigest : String := String.ofList (List.replicate 64 '0')

theorem image_reference_kept_plain :
    ImageReferenceKept ("registry.example:5000/team/app@sha256:" ++ sampleDigest) := by
  refine (image_reference_kept ⟨by decide, by decide⟩).mpr ⟨by decide, ?_⟩
  exact ⟨by decide, by decide, by decide⟩

/-- A second `@` is part of the digest, and a comma in the name sets a value
that the allowlist has not seen. -/
theorem image_reference_lost :
    imageDigest ("team@app@sha256:" ++ sampleDigest) = "app@sha256:" ++ sampleDigest ∧
      SetSyntax.setString
          (repositoryArgument ("team/app,webReplicas=9@sha256:" ++ sampleDigest)).toList =
        some [(["image".toList, "repository".toList], .text "team/app".toList),
          (["webReplicas".toList], .text "9".toList)] ∧
      ControlPlane.validateImage ("team/app,webReplicas=9@sha256:" ++ sampleDigest) =
        .ok ("team/app,webReplicas=9@sha256:" ++ sampleDigest) ∧
      digestImage ("team/app,webReplicas=9@sha256:" ++ sampleDigest) = true ∧
      ¬ ImageReferenceKept ("team/app,webReplicas=9@sha256:" ++ sampleDigest) := by
  refine ⟨by decide, by decide, by rfl, by decide, ?_⟩
  intro kept
  have verbatim := (repositorySet_iff _).mp kept.repositorySet
  exact absurd verbatim.comma (by decide)

end Agreement
end DjangoOps
