import DjangoOps.Cli.IntegrationRoundTrip

namespace DjangoOps
namespace Cli

/-!
# The letters of validated values

Most validators let nothing through but ASCII letters, digits and four marks.
E-mail addresses, endpoints and module names have more letters.
-/

variable {Other : Type}

def isMark (char : Char) : Bool :=
  char.isAlphanum || char == '.' || char == '-' || char == '_' || char == '/'

/-- A text of plain letters. -/
def IsPlain (text : String) : Prop := forall char, char ∈ text.toList -> isMark char = true

theorem isMark_of_alphanum {char : Char} (letter : char.isAlphanum = true) :
    isMark char = true := by
  unfold isMark
  rw [letter]
  rfl

theorem isMark_of_alpha {char : Char} (letter : char.isAlpha = true) : isMark char = true := by
  apply isMark_of_alphanum
  unfold Char.isAlphanum
  rw [letter]
  rfl

theorem mem_matchesEnclosed {outer inner : Char -> Bool} {least most : Nat} {text : List Char}
    (matched : matchesEnclosed outer inner least most text = true) {char : Char}
    (listed : char ∈ text) : inner char = true := by
  unfold matchesEnclosed at matched
  simp only [Bool.and_eq_true] at matched
  exact List.all_eq_true.mp matched.2 char listed

theorem isPlain_projectName {value : String} (valid : validateProjectName value = .ok value) :
    IsPlain value := by
  intro char listed
  rcases mem_matchesRun (accept_ok valid).1 listed with letter | inner
  · exact isMark_of_alpha letter
  · rw [Bool.or_eq_true, Bool.or_eq_true] at inner
    unfold isMark
    rcases inner with (letter | underscore) | dash
    · exact isMark_of_alphanum letter
    · rw [underscore]
      simp only [Bool.or_true, Bool.true_or]
    · rw [dash]
      simp only [Bool.or_true, Bool.true_or]

theorem isPlain_namespace {text : String} (matched : matchesNamespace text.toList = true) :
    IsPlain text := by
  intro char listed
  rcases mem_matchesRun matched listed with letter | inner
  · exact isMark_of_alphanum letter
  · unfold isMark
    simp only [Bool.or_eq_true] at inner ⊢
    tauto

theorem isPlain_healthPath {text : String} (matched : matchesHealthPath text.toList = true) :
    IsPlain text := by
  intro char listed
  unfold isMark
  rcases mem_matchesRun matched listed with slash | inner
  · rw [slash]
    simp only [Bool.or_true]
  · simp only [Bool.or_eq_true] at inner ⊢
    tauto

theorem isPlain_bucket {value field : String} (valid : validateBucket value field = .ok value) :
    IsPlain value := by
  intro char listed
  have matched := (accept_ok valid).1
  rw [Bool.and_eq_true] at matched
  have inner := mem_matchesEnclosed matched.1 listed
  unfold isMark Char.isAlphanum Char.isAlpha
  simp only [Bool.or_eq_true] at inner ⊢
  tauto

theorem isPlain_region {region : String}
    (valid : validateRegion (some region) = .ok (some region)) : IsPlain region := by
  intro char listed
  have matched := (accept_ok valid).1
  rw [Bool.and_eq_true] at matched
  have inner := List.all_eq_true.mp matched.2 char listed
  unfold isMark
  simp only [Bool.or_eq_true] at inner ⊢
  tauto

theorem isPlain_backupPrefix {value : String} (valid : validateBackupPrefix value = .ok value) :
    IsPlain value := by
  intro char listed
  have matched := (accept_ok valid).1
  rw [Bool.and_eq_true] at matched
  rcases mem_matchesRun matched.2 listed with letter | inner
  · exact isMark_of_alphanum letter
  · unfold isMark
    simp only [Bool.or_eq_true] at inner ⊢
    tauto

/-- The letters of a text are dots or letters of a piece between dots. -/
theorem mem_splitOn_dot {text : List Char} {char : Char} (listed : char ∈ text) :
    char = '.' ∨ Exists fun piece : List Char => piece ∈ text.splitOn '.' ∧ char ∈ piece := by
  have joined : char ∈ ['.'].intercalate (text.splitOn '.') := by
    rw [List.intercalate_splitOn]
    exact listed
  exact Splitting.mem_intercalate joined

theorem isPlain_hostname {value : String} (valid : validateHostname value = .ok value) :
    IsPlain value := by
  intro char listed
  have facts := accept_ok valid
  rw [← facts.2, String.toList_ofList] at listed
  rcases List.mem_map.mp listed with ⟨letter, member, rfl⟩
  have labels := facts.1
  rw [Bool.and_eq_true] at labels
  rcases mem_splitOn_dot member with rfl | ⟨label, found, inner⟩
  · rfl
  · have plain := mem_matchesEnclosed (List.all_eq_true.mp labels.2 label found) inner
    rw [Bool.or_eq_true] at plain
    rcases plain with alphanum | dash
    · exact isMark_of_alphanum (isAlphanum_toLower letter ▸ alphanum)
    · rw [beq_iff_eq.mp dash]
      rfl

/-- Beyond the plain letters a module has word characters. -/
theorem mem_module {python : Python Other} {value : String}
    (valid : validateDjangoModule python value = .ok value) {char : Char}
    (listed : char ∈ value.toList) : isMark char = true ∨ python.isWord char = true := by
  have matched := (accept_ok valid).1
  rcases mem_splitOn_dot listed with rfl | ⟨piece, found, inner⟩
  · exact Or.inl rfl
  · rcases mem_matchesRun (List.all_eq_true.mp matched piece found) inner with first | word
    · left
      rw [Bool.or_eq_true] at first
      rcases first with letter | underscore
      · exact isMark_of_alpha letter
      · unfold isMark
        rw [underscore]
        simp only [Bool.or_true, Bool.true_or]
    · exact Or.inr word

end Cli
end DjangoOps
