import DjangoOps.Cli.Integrations
import DjangoOps.Foundation.Splitting
import Mathlib

namespace DjangoOps
namespace Cli

open ControlPlane (isSpace)
open Splitting

/-!
# Validators on what they return

Most validators return their argument.  The hostname loses its final dots and
its case, an endpoint the slash at its end, a schedule the extra blanks between
its fields; each of them is returned as it is when it is validated once more.
-/

variable {Other : Type}

theorem bind_ok {Source Target : Type} {first : Except ConfigError Source}
    {next : Source -> Except ConfigError Target} {result : Target}
    (returned : first >>= next = .ok result) :
    Exists fun value : Source => first = .ok value ∧ next value = .ok result := by
  cases first with
  | error error => cases returned
  | ok value => exact ⟨value, rfl, returned⟩

theorem bind_of {Source Target : Type} {first : Except ConfigError Source}
    {next : Source -> Except ConfigError Target} {value : Source}
    (returned : first = .ok value) : first >>= next = next value := by
  rw [returned]
  rfl

section Accept

variable {Value : Type} {valid : Bool} {message : String} {value accepted : Value}

theorem accept_ok (returned : accept valid message value = .ok accepted) :
    valid = true ∧ value = accepted := by
  cases valid with
  | true => exact ⟨rfl, Except.ok.inj returned⟩
  | false => cases returned

theorem accept_of (checked : valid = true) : accept valid message value = .ok value := by
  rw [checked]
  rfl

end Accept

/-- The characters of a run are of one of its two classes. -/
theorem mem_matchesRun {first rest : Char -> Bool} {limit : Nat} {text : List Char}
    (matched : matchesRun first rest limit text = true) {char : Char} (listed : char ∈ text) :
    first char = true ∨ rest char = true := by
  unfold matchesRun at matched
  cases text with
  | nil => cases listed
  | cons head more =>
      simp only [Bool.and_eq_true] at matched
      rcases List.mem_cons.mp listed with rfl | later
      · exact .inl matched.1.1
      · exact .inr (List.all_eq_true.mp matched.2 char later)

/-- What a validator that returns its argument accepts, it accepts again. -/
theorem accept_again {Value : Type} {valid : Value -> Bool} {message : String}
    {value accepted : Value} (returned : accept (valid value) message value = .ok accepted) :
    accept (valid accepted) message accepted = .ok accepted := by
  have facts := accept_ok returned
  rw [← facts.2]
  exact accept_of facts.1

theorem validateProjectName_again {value accepted : String}
    (returned : validateProjectName value = .ok accepted) :
    validateProjectName accepted = .ok accepted :=
  @accept_again _ (fun value : String => matchesProject value.toList) _ _ _ returned

theorem validateDjangoModule_again {python : Python Other} {value accepted : String}
    (returned : validateDjangoModule python value = .ok accepted) :
    validateDjangoModule python accepted = .ok accepted :=
  @accept_again _ (fun value : String => matchesModule python.isWord value.toList) _ _ _ returned

theorem validateEmail_again {value accepted : String}
    (returned : validateEmail value = .ok accepted) : validateEmail accepted = .ok accepted := by
  have facts := accept_ok returned
  rw [← facts.2]
  exact accept_of facts.1

theorem validateBucket_again {value field accepted : String}
    (returned : validateBucket value field = .ok accepted) :
    validateBucket accepted field = .ok accepted := by
  have facts := accept_ok returned
  rw [← facts.2]
  exact accept_of facts.1

theorem validateBackupPrefix_again {value accepted : String}
    (returned : validateBackupPrefix value = .ok accepted) :
    validateBackupPrefix accepted = .ok accepted := by
  have facts := accept_ok returned
  rw [← facts.2]
  exact accept_of facts.1

theorem validateRegion_again {value accepted : Option String}
    (returned : validateRegion value = .ok accepted) : validateRegion accepted = .ok accepted := by
  cases value with
  | none =>
      rw [← Except.ok.inj returned]
      rfl
  | some region =>
      have facts := accept_ok returned
      rw [← facts.2]
      exact accept_of facts.1

/-! ## Hostnames -/

theorem toLower_eq_iff {char other : Char} (lower : other.isAlpha = false) :
    char.toLower = other ↔ char = other := by
  by_cases upper : char.isUpper = true
  · have folded : char.toLower.isAlpha = true := by
      rw [Char.isAlpha_toLower_eq_isAlpha, Char.isAlpha, upper]
      rfl
    have letter : char.isAlpha = true := by
      rw [Char.isAlpha, upper]
      rfl
    constructor
    · intro same
      rw [same, lower] at folded
      cases folded
    · intro same
      rw [same, lower] at letter
      cases letter
  · rw [Char.toLower_eq_of_not_isUpper upper]

theorem isAlphanum_toLower (char : Char) : char.toLower.isAlphanum = char.isAlphanum := by
  by_cases upper : char.isUpper = true
  · have letter : char.isAlpha = true := by
      rw [Char.isAlpha, upper]
      rfl
    rw [Char.isAlphanum, Char.isAlphanum, Char.isAlpha_toLower_eq_isAlpha, letter]
    rfl
  · rw [Char.toLower_eq_of_not_isUpper upper]

/-- The class of the inner characters of a label does not see their case. -/
theorem matchesHostLabel_map (label : List Char) :
    matchesHostLabel (label.map Char.toLower) = matchesHostLabel label := by
  have outer : Char.isAlphanum ∘ Char.toLower = Char.isAlphanum := by
    funext char
    exact isAlphanum_toLower char
  have inner : (fun char : Char => char.isAlphanum || char == '-') ∘ Char.toLower =
      fun char => char.isAlphanum || char == '-' := by
    funext char
    have dash : (char.toLower == '-') = (char == '-') := by
      apply Bool.eq_iff_iff.mpr
      rw [beq_iff_eq, beq_iff_eq]
      exact toLower_eq_iff (by decide)
    simp only [Function.comp_apply, isAlphanum_toLower, dash]
  unfold matchesHostLabel matchesEnclosed
  rw [List.length_map, List.head?_map, List.getLast?_map, List.all_map, Option.map_map,
    Option.map_map, outer, inner]

theorem validateHostname_again {value accepted : String}
    (returned : validateHostname value = .ok accepted) :
    validateHostname accepted = .ok accepted := by
  have facts := accept_ok returned
  generalize shape : (value.toList.rdropWhile fun char => char == '.') = candidate at facts
  have dot : (fun char : Char => char == '.') ∘ Char.toLower = fun char => char == '.' := by
    funext char
    apply Bool.eq_iff_iff.mpr
    simp only [Function.comp_apply, beq_iff_eq]
    exact toLower_eq_iff (by decide)
  have stripped : candidate.rdropWhile (fun char => char == '.') = candidate := by
    rw [← shape]
    exact List.rdropWhile_idempotent _ _
  have lowered : (candidate.map Char.toLower).rdropWhile (fun char => char == '.') =
      candidate.map Char.toLower := by
    unfold List.rdropWhile at stripped ⊢
    rw [← List.map_reverse, List.dropWhile_map, dot, ← List.map_reverse, stripped]
  have again : (candidate.map Char.toLower).map Char.toLower = candidate.map Char.toLower := by
    rw [List.map_map]
    refine List.map_congr_left ?_
    intro char _
    exact Char.toLower_toLower_eq_toLower char
  have labels : ((candidate.map Char.toLower).splitOn '.').all matchesHostLabel =
      (candidate.splitOn '.').all matchesHostLabel := by
    have unseen : matchesHostLabel ∘ List.map Char.toLower = matchesHostLabel := by
      funext label
      exact matchesHostLabel_map label
    rw [List.splitOn_eq_splitOnP, splitOnP_map, List.all_map, dot, unseen,
      ← List.splitOn_eq_splitOnP]
  have dotted : '.' ∈ candidate.map Char.toLower ↔ '.' ∈ candidate := by
    constructor
    · intro member
      rcases List.mem_map.mp member with ⟨char, listed, same⟩
      exact (toLower_eq_iff (by decide)).mp same ▸ listed
    · intro member
      exact List.mem_map.mpr ⟨'.', member, rfl⟩
  rw [← facts.2]
  unfold validateHostname
  simp only [String.toList_ofList, lowered, again, labels, List.length_map, dotted]
  exact accept_of facts.1

/-! ## Endpoints -/

theorem stripSlashes_again (value : String) :
    stripSlashes (stripSlashes value) = stripSlashes value := by
  unfold stripSlashes
  rw [String.toList_ofList, List.rdropWhile_idempotent]

theorem validateStorageEndpoint_again {python : Python Other} {value accepted : String}
    (returned : validateStorageEndpoint python value = .ok accepted) :
    validateStorageEndpoint python accepted = .ok accepted := by
  rcases bind_ok returned with ⟨parts, split, checked⟩
  split at checked
  · cases checked
  · rename_i allowed
    have facts := accept_ok checked
    have path := of_decide_eq_true facts.1
    simp only [not_or, Bool.not_eq_true, hasForbiddenPart, decide_eq_false_iff_not,
      ne_eq, not_not] at allowed
    have bare : parts.Bare :=
      ⟨Url.netloc_of_hostname allowed.2.1, path, allowed.2.2.2.2.1, allowed.2.2.2.2.2⟩
    rcases Url.split_rdropWhile python.url split bare with ⟨shorter, short, again⟩
    rw [← facts.2]
    unfold validateStorageEndpoint
    rw [stripSlashes_again]
    simp only [stripSlashes, String.toList_ofList, again]
    refine (if_neg ?_).trans (accept_of (decide_eq_true short))
    simp only [not_or, Bool.not_eq_true, hasForbiddenPart, decide_eq_false_iff_not, ne_eq,
      not_not]
    exact allowed

theorem validateEndpoint_again {python : Python Other} {value accepted : String}
    (returned : validateEndpoint python value = .ok accepted) :
    validateEndpoint python accepted = .ok accepted := by
  rcases bind_ok returned with ⟨parts, split, checked⟩
  split at checked
  · cases checked
  · rename_i allowed
    have same := Except.ok.inj checked
    simp only [not_or, ne_eq, not_not, not_and_or] at allowed
    have bare : parts.Bare :=
      ⟨Url.netloc_of_hostname allowed.2.1, allowed.2.2.2.2.2.2, allowed.2.2.2.2.1,
        allowed.2.2.2.2.2.1⟩
    rcases Url.split_rdropWhile python.url split bare with ⟨shorter, short, again⟩
    rw [← same]
    unfold validateEndpoint
    rw [stripSlashes_again]
    simp only [stripSlashes, String.toList_ofList, again]
    refine if_neg ?_
    simp only [not_or, ne_eq, not_not, not_and_or]
    exact ⟨allowed.1, allowed.2.1, allowed.2.2.1, allowed.2.2.2.1, allowed.2.2.2.2.1,
      allowed.2.2.2.2.2.1, short⟩

/-! ## Schedules -/

/-- Words joined by blanks are split into the words again. -/
theorem words_intercalate {fields : List (List Char)} (some : fields ≠ [])
    (solid : forall field, field ∈ fields -> field ≠ [] ∧
      forall char, char ∈ field -> isSpace char = false) :
    words ([' '].intercalate fields) = fields := by
  have split : ([' '].intercalate fields).splitOnP isSpace = fields := by
    induction fields with
    | nil => exact absurd rfl some
    | cons field rest inductionHypothesis =>
        have own := (solid field List.mem_cons_self).2
        cases rest with
        | nil =>
            rw [List.intercalate_singleton]
            exact List.splitOnP_eq_singleton own
        | cons next others =>
            have later := inductionHypothesis (List.cons_ne_nil _ _)
              fun other member => solid other (List.mem_cons_of_mem _ member)
            rw [List.intercalate_cons_cons, List.append_assoc, List.singleton_append,
              List.splitOnP_append_cons_of_forall_mem own ' ' (by decide), later]
  unfold words
  rw [split]
  apply List.filter_eq_self.mpr
  intro field member
  simpa only [Bool.not_eq_true', List.isEmpty_eq_false_iff] using (solid field member).1

theorem validateBackupSchedule_again {value accepted : String}
    (returned : validateBackupSchedule value = .ok accepted) :
    validateBackupSchedule accepted = .ok accepted := by
  have facts := accept_ok returned
  have valid := facts.1
  simp only [Bool.and_eq_true, decide_eq_true_eq] at valid
  have solid : forall field, field ∈ words value.toList -> field ≠ [] ∧
      forall char, char ∈ field -> isSpace char = false := by
    intro field member
    have found := List.mem_filter.mp member
    constructor
    · intro empty
      rw [empty] at found
      exact absurd found.2 (by decide)
    · intro char listed
      exact (mem_splitOnP found.1 listed).2
  have some : words value.toList ≠ [] := by
    intro empty
    rw [empty] at valid
    exact absurd valid.1.1 (by decide)
  have cron : ([' '].intercalate (words value.toList)).all isCron = true := by
    apply List.all_eq_true.mpr
    intro char member
    rcases mem_intercalate member with blank | ⟨field, listed, inner⟩
    · rw [blank]
      rfl
    · exact List.all_eq_true.mp valid.1.2.2 char
        (mem_splitOnP (List.mem_filter.mp listed).1 inner).1
  have joined : [' '].intercalate (words value.toList) ≠ [] := by
    intro empty
    have none := words_intercalate some solid
    rw [empty] at none
    exact some none.symm
  rw [← facts.2]
  unfold validateBackupSchedule
  simp only [String.toList_ofList, words_intercalate some solid]
  refine accept_of ?_
  simp only [Bool.and_eq_true, decide_eq_true_eq, ne_eq, String.ofList_eq_empty_iff]
  exact ⟨⟨valid.1.1, joined, cron⟩, valid.2⟩

end Cli
end DjangoOps
