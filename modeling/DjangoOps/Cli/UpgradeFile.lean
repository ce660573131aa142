import DjangoOps.Cli.ConfigUpgrade
import DjangoOps.Foundation.Rewriting
import DjangoOps.Foundation.Utf8

namespace DjangoOps
namespace Cli

open Rewriting
open Utf8 (bytes)

/-!
# The file of an upgrade

The command reads a configuration, upgrades it and writes the document over the
file that it read.  Every failure before the writing leaves the file alone, and
the writing empties the file before the first byte of the document reaches it.

The YAML library can raise an error which is neither a `YAMLError` nor a
`ValueError`, such as the `KeyError` of a tagged Boolean.  The texts at which it
does are a parameter.
-/

/-- `"\r\n"` and `"\r"` are read as `"\n"`. -/
def universalNewlines : List Char -> List Char
  | [] => []
  | '\r' :: '\n' :: rest => '\n' :: universalNewlines rest
  | '\r' :: rest => '\n' :: universalNewlines rest
  | char :: rest => char :: universalNewlines rest

/-- The text of a file, or nothing for a `UnicodeDecodeError`. -/
def readText (content : List UInt8) : Option String :=
  (String.fromUTF8? ⟨content.toArray⟩).map fun text =>
    String.ofList (universalNewlines text.toList)

/-- The call on the file that raises an `OSError`, if one does. -/
inductive Failure
  | nothing
  | reading
  /-- The first steps of the writing are taken.  After all of them it is the
  closing that fails. -/
  | writing (steps : Nat)
  deriving DecidableEq

/-- The steps of a writing and whether all of it succeeds. -/
def writeText (failure : Failure) (content : List UInt8) : List (FileStep UInt8) × Bool :=
  match failure with
  | .writing steps => ((rewrite content).take steps, false)
  | _ => (rewrite content, true)

/-- What the command does to the file, and its exit code. -/
structure Outcome where
  steps : List (FileStep UInt8)
  exit : Nat
  deriving DecidableEq

variable {Other : Type}

/-- The branch of `main`.  A `ConfigError` and a `UnicodeDecodeError` are
`ValueError`s, and an error that nothing catches ends the interpreter with 1. -/
def configUpgrade (python : Python Other) (escapes : String -> Bool) (failure : Failure)
    (backupBucket backupSchedule : String) (content : List UInt8) : Outcome :=
  if failure = .reading then { steps := [], exit := 2 }
  else
    match readText content with
    | none => { steps := [], exit := 2 }
    | some original =>
        if escapes original then { steps := [], exit := 1 }
        else
          match upgradeConfig python original backupBucket backupSchedule with
          | .error _ => { steps := [], exit := 2 }
          | .ok rendered =>
              let written := writeText failure (bytes rendered)
              { steps := written.1, exit := if written.2 then 0 else 2 }

/-- The upgraded document of a content. -/
def Upgrade (python : Python Other) (backupBucket backupSchedule : String) (content : List UInt8)
    (rendered : String) : Prop :=
  Exists fun original : String => readText content = some original ∧
    upgradeConfig python original backupBucket backupSchedule = .ok rendered

/-- What an upgrade should leave: the file as it was or the whole upgraded document, and
the exit code 2 exactly when the document was not written. -/
structure Usable (python : Python Other) (backupBucket backupSchedule : String)
    (content : List UInt8) (outcome : Outcome) : Prop where
  file : run outcome.steps (some content) = some content ∨
    Exists fun rendered : String => Upgrade python backupBucket backupSchedule content rendered ∧
      run outcome.steps (some content) = some (bytes rendered)
  exit : outcome.exit = 2 <->
    Not (Exists fun rendered : String =>
      Upgrade python backupBucket backupSchedule content rendered ∧
        outcome.steps = rewrite (bytes rendered))

/-- The loader raises nothing that is not handled, and an error of the writing strikes
only where the part of the document that is there equals the old content. -/
structure Harmless (python : Python Other) (escapes : String -> Bool) (failure : Failure)
    (backupBucket backupSchedule : String) (content : List UInt8) : Prop where
  loads : Not (failure = .reading) -> forall original : String,
    readText content = some original -> escapes original = false
  writes : forall (reached : Nat) (rendered : String), failure = .writing (reached + 1) ->
    Upgrade python backupBucket backupSchedule content rendered ->
      reached < (bytes rendered).length ∧ (bytes rendered).take reached = content

theorem Upgrade.unique {python : Python Other} {backupBucket backupSchedule : String}
    {content : List UInt8} {first second : String}
    (one : Upgrade python backupBucket backupSchedule content first)
    (other : Upgrade python backupBucket backupSchedule content second) : first = second := by
  rcases one with ⟨original, read, upgraded⟩
  rcases other with ⟨again, reread, renewed⟩
  rw [read] at reread
  rw [← Option.some.inj reread, upgraded] at renewed
  exact Except.ok.inj renewed

section Outcomes

variable {python : Python Other} {backupBucket backupSchedule : String} {content : List UInt8}

/-- A command that leaves the file alone has to end with 2. -/
theorem usable_untouched {exit : Nat} :
    Usable python backupBucket backupSchedule content { steps := [], exit := exit } <->
      exit = 2 := by
  have unwritten : Not (Exists fun rendered : String =>
      Upgrade python backupBucket backupSchedule content rendered ∧
        [] = rewrite (bytes rendered)) := by
    rintro ⟨rendered, _, impossible⟩
    exact List.cons_ne_nil _ _ impossible.symm
  constructor
  · intro usable
    exact usable.exit.mpr unwritten
  · intro ended
    exact ⟨Or.inl rfl, ⟨fun _ => unwritten, fun _ => ended⟩⟩

theorem usable_complete {rendered : String}
    (upgrade : Upgrade python backupBucket backupSchedule content rendered) :
    Usable python backupBucket backupSchedule content
      { steps := rewrite (bytes rendered), exit := 0 } := by
  refine ⟨Or.inr ⟨rendered, upgrade, run_rewrite _ _⟩, ?_⟩
  constructor
  · intro impossible
    cases impossible
  · intro unwritten
    exact absurd ⟨rendered, upgrade, rfl⟩ unwritten

/-- A writing that stops after its opening has to leave what the file held. -/
theorem usable_unfinished {rendered : String} (reached : Nat)
    (upgrade : Upgrade python backupBucket backupSchedule content rendered) :
    Usable python backupBucket backupSchedule content
        { steps := (rewrite (bytes rendered)).take (reached + 1), exit := 2 } <->
      reached < (bytes rendered).length ∧ (bytes rendered).take reached = content := by
  have whole : (Exists fun other : String =>
      Upgrade python backupBucket backupSchedule content other ∧
        (rewrite (bytes rendered)).take (reached + 1) = rewrite (bytes other)) <->
      (bytes rendered).length ≤ reached := by
    rw [← Nat.lt_succ_iff, Nat.succ_eq_add_one, ← take_rewrite_eq]
    constructor
    · rintro ⟨other, again, all⟩
      rw [all, again.unique upgrade]
    · intro all
      exact ⟨rendered, upgrade, all⟩
  constructor
  · intro usable
    have short : reached < (bytes rendered).length := by
      have unwritten := usable.exit.mp rfl
      rw [whole] at unwritten
      exact Nat.lt_of_not_le unwritten
    refine ⟨short, ?_⟩
    have left := usable.file
    rw [run_take_rewrite] at left
    rcases left with same | ⟨other, again, all⟩
    · exact Option.some.inj same
    · rw [again.unique upgrade, Option.some.injEq, List.take_eq_self_iff] at all
      omega
  · rintro ⟨short, same⟩
    constructor
    · left
      rw [run_take_rewrite, same]
    · rw [whole]
      exact ⟨fun _ => Nat.not_le_of_lt short, fun _ => rfl⟩

theorem usable_written {rendered : String} {failure : Failure}
    (upgrade : Upgrade python backupBucket backupSchedule content rendered) :
    Usable python backupBucket backupSchedule content
        { steps := (writeText failure (bytes rendered)).1
          exit := if (writeText failure (bytes rendered)).2 then 0 else 2 } <->
      forall reached, failure = .writing (reached + 1) ->
        reached < (bytes rendered).length ∧ (bytes rendered).take reached = content := by
  cases failure with
  | writing steps =>
      cases steps with
      | zero =>
          refine iff_of_true (usable_untouched.mpr rfl) ?_
          intro reached impossible
          cases impossible
      | succ reached =>
          refine (usable_unfinished reached upgrade).trans ?_
          constructor
          · rintro left _ ⟨⟩
            exact left
          · intro harmless
            exact harmless reached rfl
  | _ =>
      refine iff_of_true (usable_complete upgrade) ?_
      intro reached impossible
      cases impossible

/-- A content that has no upgraded document leaves nothing to write. -/
theorem harmless_of_not_upgrade {escapes : String -> Bool} {failure : Failure}
    (loads : Not (failure = .reading) -> forall original : String,
      readText content = some original -> escapes original = false)
    (none : forall rendered, Not (Upgrade python backupBucket backupSchedule content rendered)) :
    Harmless python escapes failure backupBucket backupSchedule content :=
  ⟨loads, fun _ rendered _ upgrade => absurd upgrade (none rendered)⟩

end Outcomes

/-- The file stays usable exactly when the failure is harmless.  The upgraded
document is written over the old one, so an error behind the opening leaves a part
of it, down to no byte at all; and it does harm unless this part is what the file
held before. -/
theorem upgrade_usable_iff (python : Python Other) (escapes : String -> Bool) (failure : Failure)
    (backupBucket backupSchedule : String) (content : List UInt8) :
    Usable python backupBucket backupSchedule content
        (configUpgrade python escapes failure backupBucket backupSchedule content) <->
      Harmless python escapes failure backupBucket backupSchedule content := by
  unfold configUpgrade
  by_cases reading : failure = .reading
  · rw [if_pos reading]
    refine iff_of_true (usable_untouched.mpr rfl) ⟨fun other => absurd reading other, ?_⟩
    intro reached rendered writing
    rw [reading] at writing
    cases writing
  · rw [if_neg reading]
    cases read : readText content with
    | none =>
        refine iff_of_true (usable_untouched.mpr rfl) (harmless_of_not_upgrade ?_ ?_)
        · intro _ original impossible
          rw [read] at impossible
          cases impossible
        · rintro _ ⟨original, impossible, _⟩
          rw [read] at impossible
          cases impossible
    | some original =>
        have only : forall other, readText content = some other -> other = original := by
          intro other again
          rw [read] at again
          exact (Option.some.inj again).symm
        dsimp only
        by_cases escape : escapes original = true
        · rw [if_pos escape, usable_untouched]
          refine iff_of_false (by decide) ?_
          intro harmless
          rw [harmless.loads reading original read] at escape
          cases escape
        · have loads : Not (failure = .reading) -> forall other : String,
              readText content = some other -> escapes other = false := by
            intro _ other again
            rw [only other again]
            exact Bool.not_eq_true _ ▸ escape
          rw [if_neg escape]
          cases upgraded : upgradeConfig python original backupBucket backupSchedule with
          | error error =>
              refine iff_of_true (usable_untouched.mpr rfl) (harmless_of_not_upgrade loads ?_)
              rintro _ ⟨other, again, impossible⟩
              rw [only other again, upgraded] at impossible
              cases impossible
          | ok rendered =>
              have upgrade : Upgrade python backupBucket backupSchedule content rendered :=
                ⟨original, read, upgraded⟩
              refine (usable_written upgrade).trans ?_
              constructor
              · intro writes
                refine ⟨loads, ?_⟩
                intro reached other failed again
                rw [again.unique upgrade]
                exact writes reached failed
              · intro harmless reached failed
                exact harmless.writes reached rendered failed upgrade

theorem configUpgrade_of_upgrade {python : Python Other} {escapes : String -> Bool}
    {failure : Failure} {backupBucket backupSchedule original rendered : String}
    {content : List UInt8} (reads : failure ≠ .reading) (read : readText content = some original)
    (loads : escapes original = false)
    (upgraded : upgradeConfig python original backupBucket backupSchedule = .ok rendered) :
    configUpgrade python escapes failure backupBucket backupSchedule content =
      { steps := (writeText failure (bytes rendered)).1
        exit := if (writeText failure (bytes rendered)).2 then 0 else 2 } := by
  unfold configUpgrade
  rw [if_neg reads, read]
  dsimp only
  rw [if_neg (loads ▸ Bool.false_ne_true), upgraded]

/-! ## A disk that is full -/

theorem readText_bytes {text : String} (plain : universalNewlines text.toList = text.toList) :
    readText (bytes text) = some text := by
  unfold readText
  rw [Utf8.fromUTF8?_bytes, Option.map_some, plain, String.ofList_toList]

theorem universalNewlines_eq {text : List Char}
    (plain : (text.all fun char => char != '\r') = true) : universalNewlines text = text := by
  induction text with
  | nil => rfl
  | cons char rest inductionHypothesis =>
      rw [List.all_cons, Bool.and_eq_true, bne_iff_ne] at plain
      rw [universalNewlines, inductionHypothesis plain.2]
      · intro _ same
        exact absurd same plain.1
      · exact plain.1

/-- The disk is full when the file is open. -/
theorem full_disk_empties :
    run (configUpgrade samplePython (fun _ => false) (.writing 1) "sample-backups" "17  2 * * *"
        (bytes (lines sampleOld))).steps (some (bytes (lines sampleOld))) = some [] ∧
      Not (Usable samplePython "sample-backups" "17  2 * * *" (bytes (lines sampleOld))
        (configUpgrade samplePython (fun _ => false) (.writing 1) "sample-backups" "17  2 * * *"
          (bytes (lines sampleOld)))) := by
  have plain : universalNewlines (lines sampleOld).toList = (lines sampleOld).toList := by
    rw [lines, String.toList_ofList]
    exact universalNewlines_eq (by decide +kernel)
  have read := readText_bytes plain
  have written := @configUpgrade_of_upgrade Empty samplePython (fun _ => false) (.writing 1)
    "sample-backups" "17  2 * * *" (lines sampleOld) (lines sampleCore) _ (by decide) read rfl
    sampleOld_upgraded
  rw [written]
  refine ⟨run_take_rewrite 0 _ _, ?_⟩
  rw [usable_written ⟨_, read, sampleOld_upgraded⟩]
  intro harmless
  have empty : bytes (lines sampleOld) = bytes "" := (harmless 0 rfl).2.symm
  rw [empty, readText_bytes rfl] at read
  have first : 's' ∈ (lines sampleOld).toList := by
    rw [lines, String.toList_ofList]
    exact List.mem_flatMap.mpr ⟨"schema_version: 2", List.mem_cons_self, by decide⟩
  rw [← Option.some.inj read] at first
  exact List.not_mem_nil first

end Cli
end DjangoOps
