import DjangoOps.Agent.Executor

namespace DjangoOps
namespace Agent
namespace Executor

/-!
# The parts of an image reference

`Runner.Run` hands an image to Helm in two parts, the repository and the digest.
They are cut at two different separators.
-/

/-- `strings.Cut`: the text before and behind the first separator. -/
def cut (separator : List Char) : List Char -> Option (List Char × List Char)
  | [] => if separator = [] then some ([], []) else none
  | char :: rest =>
      if separator.isPrefixOf (char :: rest) then
        some ([], (char :: rest).drop separator.length)
      else (cut separator rest).map fun parts => (char :: parts.1, parts.2)

/-- `imageRepository` -/
def imageRepository (image : String) : String :=
  match cut "@sha256:".toList image.toList with
  | some parts => String.ofList parts.1
  | none => image

/-- `imageDigest` -/
def imageDigest (image : String) : String :=
  match cut ['@'] image.toList with
  | some parts => String.ofList parts.2
  | none => ""

/-- The arguments of both `--set-string` options. -/
def repositoryArgument (image : String) : String := "image.repository=" ++ imageRepository image

def digestArgument (image : String) : String := "image.digest=" ++ imageDigest image

/-- A lower-case hexadecimal digit. -/
def isHex (char : Char) : Bool :=
  ('a' ≤ char && char ≤ 'f') || ('0' ≤ char && char ≤ '9')

/-- An image is a name in front of a digest. -/
structure Digested (image : String) (name hex : List Char) : Prop where
  text : image.toList = name ++ "@sha256:".toList ++ hex
  named : name ≠ []
  line : '\n' ∉ name
  digits : hex.length = 64
  hex : hex.all isHex = true

theorem digestImage_ok {image : String} (accepted : digestImage image = true) :
    Digested image (image.toList.take (image.toList.length - 72))
      (image.toList.drop (image.toList.length - 64)) := by
  unfold digestImage at accepted
  dsimp only at accepted
  rw [Bool.and_eq_true, Bool.and_eq_true, Bool.and_eq_true, decide_eq_true_eq,
    decide_eq_true_eq] at accepted
  rcases accepted with ⟨⟨⟨long, line⟩, separator⟩, digits⟩
  have tail : (image.toList.drop (image.toList.length - 72)).drop 8 =
      image.toList.drop (image.toList.length - 64) := by
    rw [List.drop_drop]
    congr 1
    omega
  rw [tail] at digits
  constructor
  · have parts := List.take_append_drop 8 (image.toList.drop (image.toList.length - 72))
    rw [tail, separator] at parts
    rw [List.append_assoc, parts, List.take_append_drop]
  · intro empty
    have length := congrArg List.length empty
    rw [List.length_take, List.length_nil] at length
    omega
  · intro newline
    have different := List.all_eq_true.mp line _ newline
    exact absurd different (by decide)
  · rw [List.length_drop]
    omega
  · exact digits

/-! ## Cutting -/

theorem cut_single_append {stop : Char} {front : List Char} (absent : stop ∉ front)
    (back : List Char) : cut [stop] (front ++ stop :: back) = some (front, back) := by
  induction front with
  | nil =>
      rw [List.nil_append, cut, if_pos (by rw [List.isPrefixOf_iff_prefix]; exact ⟨back, rfl⟩)]
      rfl
  | cons char rest inductionHypothesis =>
      have other : char ≠ stop := fun same => absurd List.mem_cons_self (same ▸ absent)
      have later := inductionHypothesis fun listed => absent (List.mem_cons_of_mem _ listed)
      have unmatched : ¬ [stop].isPrefixOf (char :: (rest ++ stop :: back)) = true := by
        rw [List.isPrefixOf_iff_prefix]
        rintro ⟨more, same⟩
        exact other (List.cons.inj same).1.symm
      rw [List.cons_append, cut, if_neg unmatched, later]
      rfl

/-- A single letter is cut at its first place. -/
theorem cut_single_eq {stop : Char} {text front back : List Char}
    (found : cut [stop] text = some (front, back)) :
    text = front ++ stop :: back ∧ stop ∉ front := by
  induction text generalizing front with
  | nil => cases found
  | cons char rest inductionHypothesis =>
      rw [cut] at found
      split at found
      · rename_i matched
        cases found
        rw [List.isPrefixOf_iff_prefix] at matched
        rcases matched with ⟨more, same⟩
        rw [List.singleton_append, List.cons.injEq] at same
        rw [same.1]
        exact ⟨rfl, List.not_mem_nil⟩
      · rename_i unmatched
        rcases Option.map_eq_some_iff.mp found with ⟨parts, later, same⟩
        cases same
        have inner := inductionHypothesis later
        refine ⟨congrArg (List.cons char) inner.1, ?_⟩
        intro listed
        rcases List.mem_cons.mp listed with own | further
        · apply unmatched
          rw [List.isPrefixOf_iff_prefix, own]
          exact ⟨rest, rfl⟩
        · exact inner.2 further

/-- In front of a separator that starts with an absent letter nothing is cut. -/
theorem cut_append {first : Char} {more front : List Char} (absent : first ∉ front)
    (back : List Char) :
    cut (first :: more) (front ++ (first :: more) ++ back) = some (front, back) := by
  induction front with
  | nil =>
      rw [List.nil_append, List.cons_append, cut, if_pos (by
        rw [List.isPrefixOf_iff_prefix]
        exact ⟨back, rfl⟩)]
      rw [← List.cons_append, List.drop_left]
  | cons char rest inductionHypothesis =>
      have other : char ≠ first := fun same => absurd List.mem_cons_self (same ▸ absent)
      have later := inductionHypothesis fun listed => absent (List.mem_cons_of_mem _ listed)
      have unmatched : ¬ (first :: more).isPrefixOf
          (char :: (rest ++ (first :: more) ++ back)) = true := by
        rw [List.isPrefixOf_iff_prefix]
        rintro ⟨behind, same⟩
        exact other (List.cons.inj same).1.symm
      rw [List.cons_append, List.cons_append, cut, if_neg unmatched, later]
      rfl

end Executor
end Agent
end DjangoOps
