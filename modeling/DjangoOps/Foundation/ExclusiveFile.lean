import DjangoOps.Foundation.Transition
import Mathlib.Logic.Function.Basic

namespace DjangoOps
namespace ExclusiveFile

open Transition

universe u v

/-!
# Files that are created once

Processes create one file, each with its own text.  Opening is exclusive: it
fails when the file is there.  A process that fails behind its opening removes
the file; when the removal fails as well, or the process is killed, the file
stays as far as it has been written.  Whatever the processes interleave, one of
them at most has the file, and what it holds is the beginning of the text of
that process.
-/

/-- Where a process stands: in front of its opening, behind some items of its writing,
behind a failure of it, or at one of its ends. -/
inductive Phase
  | waiting
  | writing (count : Nat)
  | failing
  | killed
  | done
  | refused
  | removed
  | left
  deriving DecidableEq

/-- The process has the file, or had it last. -/
def Phase.owns : Phase -> Bool
  | .writing _ => true
  | .failing => true
  | .killed => true
  | .done => true
  | .left => true
  | _ => false

structure State (Process : Type u) (α : Type v) where
  file : Option (List α)
  phase : Process -> Phase

/-- The steps of one process.  It is refused when the file is there; a failure behind the
opening is followed by a removal, which may fail as well; and it may be killed at any
step. -/
inductive Action (Process : Type u)
  | openNew (process : Process)
  /-- The opening fails for another reason. -/
  | deny (process : Process)
  | write (process : Process)
  | fault (process : Process)
  | finish (process : Process)
  | remove (process : Process)
  /-- The removal fails, and the file stays. -/
  | leave (process : Process)
  | kill (process : Process)

/-- The process that takes the step. -/
def Action.process {Process : Type u} : Action Process -> Process
  | .openNew process => process
  | .deny process => process
  | .write process => process
  | .fault process => process
  | .finish process => process
  | .remove process => process
  | .leave process => process
  | .kill process => process

section Machine

variable {Process : Type u} [DecidableEq Process] {α : Type v}

def State.move (state : State Process α) (process : Process) (phase : Phase)
    (file : Option (List α)) : State Process α :=
  { file := file, phase := Function.update state.phase process phase }

def step (text : Process -> List α) (state : State Process α) :
    Action Process -> Option (State Process α)
  | .openNew process =>
      if state.phase process = .waiting then
        match state.file with
        | none => some (state.move process (.writing 0) (some []))
        | some items => some (state.move process .refused (some items))
      else none
  | .deny process =>
      if state.phase process = .waiting then some (state.move process .refused state.file)
      else none
  | .write process =>
      match state.phase process with
      | .writing count =>
          (text process)[count]?.map fun item =>
            state.move process (.writing (count + 1))
              (state.file.map fun items => items ++ [item])
      | _ => none
  | .fault process =>
      match state.phase process with
      | .writing _ => some (state.move process .failing state.file)
      | _ => none
  | .finish process =>
      if state.phase process = .writing (text process).length then
        some (state.move process .done state.file)
      else none
  | .remove process =>
      if state.phase process = .failing then some (state.move process .removed none) else none
  | .leave process =>
      if state.phase process = .failing then some (state.move process .left state.file) else none
  | .kill process =>
      match state.phase process with
      | .writing _ => some (state.move process .killed state.file)
      | .failing => some (state.move process .killed state.file)
      | _ => none

/-- All processes are in front of their opening and the file is not there. -/
def machine (text : Process -> List α) : Machine (State Process α) (Action Process) where
  initial := fun state => state.file = none ∧ forall process, state.phase process = .waiting
  step := step text

end Machine

/-! ## Who has the file -/

/-- What a process that has the file has made of it. -/
def Phase.Holds {α : Type v} (text items : List α) : Phase -> Prop
  | .writing count => items = text.take count
  | .failing => items <+: text
  | .killed => items <+: text
  | .left => items <+: text
  | .done => items = text
  | _ => False

theorem Phase.Holds.isPrefix {α : Type v} {text items : List α} {phase : Phase}
    (holds : phase.Holds text items) : items <+: text := by
  cases phase with
  | writing count =>
      rw [show items = text.take count from holds]
      exact List.take_prefix count text
  | failing | killed | left => exact holds
  | done =>
      have same : items = text := holds
      exact same ▸ List.prefix_rfl
  | waiting | refused | removed => exact holds.elim

theorem Phase.Holds.owns {α : Type v} {text items : List α} {phase : Phase}
    (holds : phase.Holds text items) : phase.owns = true := by
  cases phase with
  | waiting | refused | removed => exact holds.elim
  | _ => rfl

section Owner

variable {Process : Type u} {α : Type v}

/-- The file has one owner, or it is not there. -/
inductive Owned (text : Process -> List α) (state : State Process α) : Prop
  | absent (missing : state.file = none)
      (nobody : forall process, (state.phase process).owns = false)
  | held (owner : Process) (items : List α) (present : state.file = some items)
      (holds : (state.phase owner).Holds (text owner) items)
      (others : forall other, other ≠ owner -> (state.phase other).owns = false)

variable {text : Process -> List α} {state : State Process α}

/-- A process that has the file is its owner. -/
theorem Owned.of_owns (owned : Owned text state) {process : Process}
    (owns : (state.phase process).owns = true) : Exists fun items : List α =>
    state.file = some items ∧ (state.phase process).Holds (text process) items ∧
      forall other, other ≠ process -> (state.phase other).owns = false := by
  cases owned with
  | absent _ nobody =>
      rw [nobody process] at owns
      cases owns
  | held owner items present holds others =>
      by_cases same : process = owner
      · rw [same]
        exact ⟨items, present, holds, others⟩
      · rw [others process same] at owns
        cases owns

/-- The texts of the other processes do not matter. -/
theorem Owned.congr {other : Process -> List α} (owned : Owned text state)
    (same : forall process, (state.phase process).owns = true -> other process = text process) :
    Owned other state := by
  cases owned with
  | absent missing nobody => exact .absent missing nobody
  | held owner items present holds others =>
      refine .held owner items present ?_ others
      rw [same owner holds.owns]
      exact holds

theorem Owned.unique (owned : Owned text state) {first second : Process}
    (firstOwns : (state.phase first).owns = true) (secondOwns : (state.phase second).owns = true) :
    first = second := by
  rcases owned.of_owns firstOwns with ⟨_, _, _, others⟩
  by_contra different
  rw [others second (Ne.symm different)] at secondOwns
  cases secondOwns

/-- The file of a process that is done is its text. -/
theorem Owned.file_of_done (owned : Owned text state) {process : Process}
    (done : state.phase process = .done) : state.file = some (text process) := by
  rcases owned.of_owns (by rw [done]; rfl) with ⟨items, present, holds, _⟩
  rw [done] at holds
  rw [present, show items = text process from holds]

end Owner

section Steps

variable {Process : Type u} [DecidableEq Process] {α : Type v} {text : Process -> List α}
  {before after : State Process α}

theorem phase_move (state : State Process α) (process : Process) (phase : Phase)
    (file : Option (List α)) : (state.move process phase file).phase process = phase :=
  Function.update_self _ _ _

theorem phase_move_ne (state : State Process α) {process other : Process}
    (different : other ≠ process) (phase : Phase) (file : Option (List α)) :
    (state.move process phase file).phase other = state.phase other :=
  Function.update_of_ne different _ _

/-- A process that does not have the file leaves it alone. -/
theorem Owned.outside (owned : Owned text before) {process : Process} {phase : Phase}
    (outside : (before.phase process).owns = false) (still : phase.owns = false) :
    Owned text (before.move process phase before.file) := by
  have kept : forall other, (before.phase other).owns = false ->
      ((before.move process phase before.file).phase other).owns = false := by
    intro other free
    by_cases same : other = process
    · rw [same, phase_move]
      exact still
    · rw [phase_move_ne before same]
      exact free
  cases owned with
  | absent missing nobody => exact .absent missing fun other => kept other (nobody other)
  | held owner items present holds others =>
      have different : owner ≠ process := by
        rintro rfl
        rw [holds.owns] at outside
        cases outside
      refine .held owner items present ?_ fun other apart => kept other (others other apart)
      rw [phase_move_ne before different]
      exact holds

/-- The owner goes on. -/
theorem Owned.inside (owned : Owned text before) {process : Process} {phase : Phase}
    {items : List α} (owns : (before.phase process).owns = true)
    (holds : phase.Holds (text process) items) :
    Owned text (before.move process phase (some items)) := by
  rcases owned.of_owns owns with ⟨_, _, _, others⟩
  refine .held process items rfl ?_ fun other different => ?_
  · rw [phase_move]
    exact holds
  · rw [phase_move_ne before different]
    exact others other different

/-- The owner goes on without writing. -/
theorem Owned.abandon (owned : Owned text before) {process : Process} {phase : Phase}
    (owns : (before.phase process).owns = true)
    (holds : forall {items : List α}, (before.phase process).Holds (text process) items ->
      phase.Holds (text process) items) :
    Owned text (before.move process phase before.file) := by
  rcases owned.of_owns owns with ⟨items, present, now, _⟩
  rw [present]
  exact owned.inside owns (holds now)

/-- A step moves one process, which is not done. -/
theorem move_of_step {action : Action Process} (stepped : step text before action = some after) :
    before.phase action.process ≠ .done ∧ Exists fun phase : Phase =>
      Exists fun file : Option (List α) => after = before.move action.process phase file := by
  have apart : forall {process : Process} {phase : Phase}, before.phase process = phase ->
      phase ≠ .done -> before.phase process ≠ .done := fun same running => same ▸ running
  cases action with
  | openNew process =>
      change (if _ then _ else none) = _ at stepped
      split at stepped
      · rename_i waits
        split at stepped
        · cases stepped
          exact ⟨apart waits (fun same => nomatch same), _, _, rfl⟩
        · cases stepped
          exact ⟨apart waits (fun same => nomatch same), _, _, rfl⟩
      · cases stepped
  | deny process | finish process | remove process | leave process =>
      change (if _ then _ else none) = _ at stepped
      split at stepped
      · rename_i now
        cases stepped
        exact ⟨apart now (fun same => nomatch same), _, _, rfl⟩
      · cases stepped
  | write process =>
      change (match before.phase process with | .writing count => _ | _ => none) = _ at stepped
      split at stepped
      · rename_i count writes
        rcases Option.map_eq_some_iff.mp stepped with ⟨item, _, rfl⟩
        exact ⟨apart writes (fun same => nomatch same), _, _, rfl⟩
      · cases stepped
  | fault process =>
      change (match before.phase process with | .writing count => _ | _ => none) = _ at stepped
      split at stepped
      · rename_i count writes
        cases stepped
        exact ⟨apart writes (fun same => nomatch same), _, _, rfl⟩
      · cases stepped
  | kill process =>
      change (match before.phase process with | .writing _ => _ | .failing => _ | _ => none) = _
        at stepped
      split at stepped
      · rename_i writes
        cases stepped
        exact ⟨apart writes (fun same => nomatch same), _, _, rfl⟩
      · rename_i fails
        cases stepped
        exact ⟨apart fails (fun same => nomatch same), _, _, rfl⟩
      · cases stepped

/-- The other processes are not moved. -/
theorem phase_of_step {action : Action Process} (stepped : step text before action = some after)
    {other : Process} (different : other ≠ action.process) :
    after.phase other = before.phase other := by
  rcases (move_of_step stepped).2 with ⟨phase, file, rfl⟩
  exact phase_move_ne before different phase file

theorem Owned.step {action : Action Process} (owned : Owned text before)
    (stepped : step text before action = some after) : Owned text after := by
  cases action with
  | openNew process =>
      change (if _ then _ else none) = _ at stepped
      split at stepped
      · rename_i waits
        have outside : (before.phase process).owns = false := by rw [waits]; rfl
        split at stepped
        · rename_i missing
          cases stepped
          cases owned with
          | absent _ nobody =>
              refine .held process [] rfl ?_ fun other different => ?_
              · rw [phase_move]
                exact rfl
              · rw [phase_move_ne before different]
                exact nobody other
          | held owner items present _ _ =>
              rw [missing] at present
              cases present
        · rename_i items present
          cases stepped
          rw [← present]
          exact owned.outside outside rfl
      · cases stepped
  | deny process =>
      change (if _ then _ else none) = _ at stepped
      split at stepped
      · rename_i waits
        cases stepped
        exact owned.outside (by rw [waits]; rfl) rfl
      · cases stepped
  | write process =>
      change (match before.phase process with | .writing count => _ | _ => none) = _ at stepped
      split at stepped
      · rename_i count writes
        rcases Option.map_eq_some_iff.mp stepped with ⟨item, next, rfl⟩
        have owns : (before.phase process).owns = true := by rw [writes]; rfl
        rcases owned.of_owns owns with ⟨items, present, holds, _⟩
        rw [writes] at holds
        rw [present, Option.map_some]
        refine owned.inside owns ?_
        change items ++ [item] = (text process).take (count + 1)
        rw [show items = (text process).take count from holds, List.take_add_one, next]
        rfl
      · cases stepped
  | fault process =>
      change (match before.phase process with | .writing count => _ | _ => none) = _ at stepped
      split at stepped
      · rename_i count writes
        cases stepped
        exact owned.abandon (writes ▸ rfl) fun holds => holds.isPrefix
      · cases stepped
  | finish process =>
      change (if _ then _ else none) = _ at stepped
      split at stepped
      · rename_i writes
        cases stepped
        have owns : (before.phase process).owns = true := by rw [writes]; rfl
        rcases owned.of_owns owns with ⟨items, present, holds, _⟩
        rw [writes] at holds
        rw [present]
        refine owned.inside owns ?_
        change items = text process
        rw [show items = (text process).take (text process).length from holds, List.take_length]
      · cases stepped
  | remove process =>
      change (if _ then _ else none) = _ at stepped
      split at stepped
      · rename_i fails
        cases stepped
        rcases owned.of_owns (by rw [fails]; rfl) with ⟨_, _, _, others⟩
        refine .absent rfl fun other => ?_
        by_cases same : other = process
        · rw [same, phase_move]
          rfl
        · rw [phase_move_ne before same]
          exact others other same
      · cases stepped
  | leave process =>
      change (if _ then _ else none) = _ at stepped
      split at stepped
      · rename_i fails
        cases stepped
        exact owned.abandon (fails ▸ rfl) fun holds => holds.isPrefix
      · cases stepped
  | kill process =>
      have killed : forall {phase : Phase}, before.phase process = phase -> phase.owns = true ->
          Owned text (before.move process .killed before.file) := fun same owns =>
        owned.abandon (same ▸ owns) fun holds => holds.isPrefix
      change (match before.phase process with | .writing _ => _ | .failing => _ | _ => none) = _
        at stepped
      split at stepped
      · rename_i writes
        cases stepped
        exact killed writes rfl
      · rename_i fails
        cases stepped
        exact killed fails rfl
      · cases stepped

/-! ## A file that is done -/

/-- A process that is done takes no step any more. -/
theorem done_of_step {action : Action Process} {process : Process}
    (stepped : step text before action = some after) (done : before.phase process = .done) :
    after.phase process = .done := by
  rw [phase_of_step stepped]
  · exact done
  · rintro rfl
    exact (move_of_step stepped).1 done

omit [DecidableEq Process] in
/-- When every process has ended by itself, the file is whole or not there, or a
process has failed to remove it. -/
theorem Owned.ended (owned : Owned text before)
    (ended : forall process, before.phase process = .done ∨ before.phase process = .left ∨
      (before.phase process).owns = false) :
    before.file = none ∨
      (Exists fun process : Process =>
        before.phase process = .done ∧ before.file = some (text process)) ∨
      Exists fun process : Process => Exists fun items : List α =>
        before.phase process = .left ∧ before.file = some items ∧ items <+: text process := by
  cases owned with
  | absent missing _ => exact .inl missing
  | held owner items present holds others =>
      have owned : Owned text before := .held owner items present holds others
      rcases ended owner with done | left | outside
      · exact .inr (.inl ⟨owner, done, owned.file_of_done done⟩)
      · exact .inr (.inr ⟨owner, items, left, present, holds.isPrefix⟩)
      · rw [holds.owns] at outside
        cases outside

/-! ## A process that goes on -/

/-- The steps of one process. -/
abbrev Alone (text : Process -> List α) (process : Process) :
    State Process α -> State Process α -> Prop :=
  Relation.ReflTransGen ((machine text).StepUnder fun _ action => action.process = process)

/-- A process that has the file can write what is left, by induction on it. -/
theorem path_writing (process : Process) (left : Nat) {state : State Process α} {count : Nat}
    (writes : state.phase process = .writing count)
    (length : count + left = (text process).length) : Exists fun after : State Process α =>
    Alone text process state after ∧ after.phase process = .done ∧
      forall other, other ≠ process -> after.phase other = state.phase other := by
  induction left generalizing state count with
  | zero =>
      rw [Nat.add_zero] at length
      refine ⟨state.move process .done state.file, .single ⟨.finish process, rfl, ?_⟩,
        phase_move _ _ _ _, fun other different => phase_move_ne _ different _ _⟩
      exact if_pos (length ▸ writes)
  | succ left inductionHypothesis =>
      have short : count < (text process).length := by omega
      let middle := state.move process (.writing (count + 1))
        (state.file.map fun items => items ++ [(text process)[count]])
      have written : (machine text).step state (.write process) = some middle := by
        change (match state.phase process with | .writing count => _ | _ => none) = _
        rw [writes]
        dsimp only
        rw [List.getElem?_eq_getElem short]
        rfl
      have behind : count + 1 + left = (text process).length := by omega
      rcases inductionHypothesis (phase_move state process _ _) behind with
        ⟨after, path, done, others⟩
      refine ⟨after, .head ⟨.write process, rfl, written⟩ path, done, fun other different => ?_⟩
      rw [others other different]
      exact phase_move_ne state different _ _

/-- A process that waits creates a file that is not there. -/
theorem path_done {process : Process} {state : State Process α} (missing : state.file = none)
    (waits : state.phase process = .waiting) : Exists fun after : State Process α =>
    Alone text process state after ∧ after.phase process = .done ∧
      forall other, other ≠ process -> after.phase other = state.phase other := by
  have opened : (machine text).step state (.openNew process) =
      some (state.move process (.writing 0) (some [])) := by
    change (if _ then _ else none) = _
    rw [if_pos waits, missing]
  rcases @path_writing _ _ _ text process (text process).length _ 0
      (phase_move state process (.writing 0) (some [])) (Nat.zero_add _) with
    ⟨after, path, done, others⟩
  refine ⟨after, .head ⟨.openNew process, rfl, opened⟩ path, done, fun other different => ?_⟩
  rw [others other different]
  exact phase_move_ne state different _ _

end Steps

end ExclusiveFile
end DjangoOps
