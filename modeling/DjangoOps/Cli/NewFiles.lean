import DjangoOps.Cli.Compose
import DjangoOps.Cli.UpgradeFile
import DjangoOps.Foundation.ExclusiveFile

namespace DjangoOps
namespace Cli
namespace NewFiles

open ExclusiveFile (Phase Owned)
open Transition (Machine)

/-!
# The files of a project

`init` creates the configuration and `compose` the Compose file, each under its
own name.  Commands may run in one directory at the same time, fail at every
call and be killed: each of them reads what is there, and creates its file only
when it is not.
-/

universe u

variable {Other : Type}

/-! ## What is written and read -/

/-- What a command writes, once its input has been accepted. -/
inductive Document
  | project (config : DjangoOpsConfig)
  | stack (config : DjangoOpsConfig) (integrations : List IntegrationConfig)

/-- `render_config` and `render_compose`, as the bytes of the file. -/
def Document.content (python : Python Other) : Document -> List UInt8
  | .project config => Utf8.bytes (renderConfig python config)
  | .stack config integrations => Utf8.bytes (renderCompose config integrations python)

/-- The `ValueError`s of a reading. -/
inductive LoadError
  | missing (name : String)
  | undecodable
  | invalid (error : ConfigError)
  deriving DecidableEq

/-- `load_project_config`, on what the path has when it is opened. -/
def loadProjectConfig (python : Python Other) (name : String) (file : Option (List UInt8)) :
    Except LoadError (DjangoOpsConfig × List IntegrationConfig) :=
  match file with
  | none => .error (.missing name)
  | some content =>
      match readText content with
      | none => .error .undecodable
      | some text => (parseProjectConfig python text).mapError .invalid

/-- `generate_compose`, in front of its writing. -/
def generateCompose (python : Python Other) (name : String) (file : Option (List UInt8)) :
    Except LoadError Document :=
  match loadProjectConfig python name file with
  | .error error => .error error
  | .ok loaded => .ok (.stack loaded.1 loaded.2)

/-- The commands that create a file: `init` writes the configuration, and `compose`
reads it and writes the Compose file. -/
inductive Command
  | init (arguments : Arguments)
  | compose

/-- What has come of the configuration that a command reads. -/
inductive Loaded
  | pending
  | failed
  | ready (document : Document)

/-- The two files with the processes that write them, and what every process has read of
the configuration. -/
structure State (Process : Type u) where
  config : ExclusiveFile.State Process UInt8
  loaded : Process -> Loaded
  output : ExclusiveFile.State Process UInt8

/-- A step of a writing of one of the files, or the reading of the configuration. -/
inductive Action (Process : Type u)
  | config (action : ExclusiveFile.Action Process)
  | load (process : Process)
  /-- The reading raises an `OSError`. -/
  | unreadable (process : Process)
  | output (action : ExclusiveFile.Action Process)

section Commands

variable {Process : Type u} [DecidableEq Process] (python : Python Other) (name : String)
  (commands : Process -> Command)

/-- The configuration that an `init` has accepted. -/
def created (process : Process) : Option DjangoOpsConfig :=
  match commands process with
  | .init arguments => (DjangoOpsConfig.create python arguments).toOption
  | .compose => none

def configText (process : Process) : List UInt8 :=
  match created python commands process with
  | some config => Document.content python (.project config)
  | none => []

def outputText (loaded : Process -> Loaded) (process : Process) : List UInt8 :=
  match loaded process with
  | .ready document => document.content python
  | _ => []

def Loaded.isReady : Loaded -> Bool
  | .ready _ => true
  | _ => false

def Loaded.ofResult : Except LoadError Document -> Loaded
  | .ok document => .ready document
  | .error _ => .failed

def Command.isCompose : Command -> Bool
  | .compose => true
  | .init _ => false

/-- A `compose` that has not read the configuration yet. -/
def reads (state : State Process) (process : Process) : Bool :=
  (commands process).isCompose &&
    match state.loaded process with
    | .pending => true
    | _ => false

def step (state : State Process) : Action Process -> Option (State Process)
  | .config action =>
      if (created python commands action.process).isSome then
        (ExclusiveFile.step (configText python commands) state.config action).map fun config =>
          { state with config := config }
      else none
  | .load process =>
      if reads commands state process then
        some { state with
          loaded := Function.update state.loaded process
            (.ofResult (generateCompose python name state.config.file)) }
      else none
  | .unreadable process =>
      if reads commands state process then
        some { state with loaded := Function.update state.loaded process .failed }
      else none
  | .output action =>
      if (state.loaded action.process).isReady then
        (ExclusiveFile.step (outputText python state.loaded) state.output action).map fun output =>
          { state with output := output }
      else none

/-- Neither of the files is there, and no command has begun. -/
def machine : Machine (State Process) (Action Process) where
  initial := fun state =>
    (state.config.file = none ∧ forall process, state.config.phase process = .waiting) ∧
      (forall process, state.loaded process = .pending) ∧
      (state.output.file = none ∧ forall process, state.output.phase process = .waiting)
  step := step python name commands

/-- The exit code of a command in front of its writing, or of the writing. -/
def writingCode : Phase -> Option Nat
  | .done => some 0
  | .refused => some 2
  | .removed => some 2
  | .left => some 2
  | _ => none

/-- The exit code of `main`, for a command that has come to an end by itself. -/
def exitCode (state : State Process) (process : Process) : Option Nat :=
  match commands process with
  | .init _ =>
      match created python commands process with
      | none => some 2
      | some _ => writingCode (state.config.phase process)
  | .compose =>
      match state.loaded process with
      | .pending => none
      | .failed => some 2
      | .ready _ => writingCode (state.output.phase process)

end Commands

/-! ## What the commands keep -/

section Kept

variable {Process : Type u} [DecidableEq Process] {python : Python Other} {name : String}
  {commands : Process -> Command} {before after state : State Process}

theorem isReady_elim {loaded : Loaded} (ready : loaded.isReady = true) :
    Exists fun document : Document => loaded = .ready document := by
  cases loaded with
  | pending | failed => cases ready
  | ready document => exact ⟨document, rfl⟩

omit [DecidableEq Process] in
theorem loaded_of_reads {process : Process} (first : reads commands state process = true) :
    commands process = .compose ∧ state.loaded process = .pending := by
  unfold reads at first
  rw [Bool.and_eq_true] at first
  constructor
  · cases command : commands process with
    | init arguments =>
        rw [command] at first
        cases first.1
    | compose => rfl
  · cases loaded : state.loaded process with
    | pending => rfl
    | failed | ready document =>
        rw [loaded] at first
        cases first.2

/-- The configuration and the Compose file have one owner at most, and what a
command has loaded stood in the configuration. -/
structure Sound (python : Python Other) (name : String) (commands : Process -> Command)
    (state : State Process) : Prop where
  config : Owned (configText python commands) state.config
  output : Owned (outputText python state.loaded) state.output
  accepted : forall process, state.config.phase process ≠ .waiting ->
    (created python commands process).isSome = true
  waits : forall process, (state.loaded process).isReady = false ->
    state.output.phase process = .waiting
  source : forall process document, state.loaded process = .ready document ->
    commands process = .compose ∧ Exists fun part : List UInt8 =>
      (Exists fun creator : Process => part <+: configText python commands creator) ∧
        generateCompose python name (some part) = .ok document

omit [DecidableEq Process] in
/-- What is in a file at any time is the beginning of the text of a process. -/
theorem Sound.part (sound : Sound python name commands state) {items : List UInt8}
    (present : state.config.file = some items) : Exists fun creator : Process =>
      items <+: configText python commands creator := by
  cases sound.config with
  | absent missing _ =>
      rw [missing] at present
      cases present
  | held owner held found holds _ =>
      rw [present] at found
      cases found
      exact ⟨owner, holds.isPrefix⟩

/-- A command that has not read yet learns of a document. -/
theorem Sound.load (sound : Sound python name commands before) {process : Process}
    (first : reads commands before process = true) {loaded : Loaded}
    (read : forall document, loaded = .ready document ->
      generateCompose python name before.config.file = .ok document) :
    Sound python name commands
      { before with loaded := Function.update before.loaded process loaded } := by
  have facts := loaded_of_reads first
  have waiting : before.output.phase process = .waiting := by
    refine sound.waits process ?_
    rw [facts.2]
    rfl
  refine ⟨sound.config, ?_, sound.accepted, ?_, ?_⟩
  · refine sound.output.congr fun other owns => ?_
    have different : other ≠ process := by
      rintro rfl
      rw [waiting] at owns
      cases owns
    unfold outputText
    dsimp only
    rw [Function.update_of_ne different]
  · intro other ready
    by_cases same : other = process
    · rw [same]
      exact waiting
    · refine sound.waits other ?_
      dsimp only at ready
      rw [Function.update_of_ne same] at ready
      exact ready
  · intro other document found
    dsimp only at found
    by_cases same : other = process
    · rw [same, Function.update_self] at found
      rw [same]
      have generated := read document found
      refine ⟨facts.1, ?_⟩
      cases present : before.config.file with
      | none =>
          rw [present] at generated
          cases generated
      | some part =>
          rw [present] at generated
          exact ⟨part, sound.part present, generated⟩
    · rw [Function.update_of_ne same] at found
      exact sound.source other document found

theorem Sound.step {action : Action Process} (sound : Sound python name commands before)
    (stepped : step python name commands before action = some after) :
    Sound python name commands after := by
  cases action with
  | config action =>
      change (if _ then _ else none) = _ at stepped
      split at stepped
      · rename_i accepted
        rcases Option.map_eq_some_iff.mp stepped with ⟨config, moved, rfl⟩
        refine ⟨sound.config.step moved, sound.output, ?_, sound.waits, sound.source⟩
        intro process begun
        by_cases same : process = action.process
        · rw [same]
          exact accepted
        · refine sound.accepted process ?_
          rw [ExclusiveFile.phase_of_step moved same] at begun
          exact begun
      · cases stepped
  | load process =>
      change (if _ then _ else none) = _ at stepped
      split at stepped
      · rename_i first
        cases stepped
        refine sound.load first fun document same => ?_
        cases result : generateCompose python name before.config.file with
        | error error =>
            rw [result] at same
            cases same
        | ok generated =>
            rw [result] at same
            cases same
            rfl
      · cases stepped
  | unreadable process =>
      change (if _ then _ else none) = _ at stepped
      split at stepped
      · rename_i first
        cases stepped
        exact sound.load first fun _ same => nomatch same
      · cases stepped
  | output action =>
      change (if _ then _ else none) = _ at stepped
      split at stepped
      · rename_i ready
        rcases Option.map_eq_some_iff.mp stepped with ⟨output, moved, rfl⟩
        refine ⟨sound.config, sound.output.step moved, sound.accepted, ?_, sound.source⟩
        intro process pending
        have different : process ≠ action.process := by
          rintro rfl
          rw [ready] at pending
          cases pending
        exact (ExclusiveFile.phase_of_step moved different).trans (sound.waits process pending)
      · cases stepped

theorem sound_of_reachable (reached : (machine python name commands).Reachable state) :
    Sound python name commands state := by
  refine reached.invariant ?_ ?_
  · rintro state ⟨⟨noConfig, config⟩, pending, noOutput, output⟩
    refine ⟨.absent noConfig fun process => ?_, .absent noOutput fun process => ?_, ?_, ?_, ?_⟩
    · rw [config process]
      rfl
    · rw [output process]
      rfl
    · intro process begun
      exact absurd (config process) begun
    · exact fun process _ => output process
    · intro process document found
      rw [pending process] at found
      cases found
  · intro before action after _ sound _ stepped
    exact sound.step stepped

/-! ### What stays -/

/-- The steps of all commands. -/
abbrev Path (python : Python Other) (name : String) (commands : Process -> Command) :
    State Process -> State Process -> Prop :=
  Relation.ReflTransGen ((machine python name commands).StepUnder fun _ _ => True)

/-- What a command has loaded, and that it is done, do not change. -/
theorem lasts_of_step {action : Action Process}
    (stepped : step python name commands before action = some after) (process : Process) :
    (before.config.phase process = .done -> after.config.phase process = .done) ∧
      (before.loaded process ≠ .pending -> after.loaded process = before.loaded process) ∧
      (before.output.phase process = .done -> after.output.phase process = .done) := by
  have updated : forall {reader : Process} {loaded : Loaded},
      reads commands before reader = true -> before.loaded process ≠ .pending ->
      Function.update before.loaded reader loaded process = before.loaded process := by
    intro reader loaded first set
    refine Function.update_of_ne ?_ _ _
    rintro rfl
    exact set (loaded_of_reads first).2
  cases action with
  | config action =>
      change (if _ then _ else none) = _ at stepped
      split at stepped
      · rcases Option.map_eq_some_iff.mp stepped with ⟨config, moved, rfl⟩
        exact ⟨ExclusiveFile.done_of_step moved, fun _ => rfl, id⟩
      · cases stepped
  | load reader | unreadable reader =>
      change (if _ then _ else none) = _ at stepped
      split at stepped
      · rename_i first
        cases stepped
        exact ⟨id, updated first, id⟩
      · cases stepped
  | output action =>
      change (if _ then _ else none) = _ at stepped
      split at stepped
      · rcases Option.map_eq_some_iff.mp stepped with ⟨output, moved, rfl⟩
        exact ⟨id, fun _ => rfl, ExclusiveFile.done_of_step moved⟩
      · cases stepped

/-- A run from a sound state ends in one, with all that lasts. -/
theorem Sound.path (sound : Sound python name commands before)
    (path : Path python name commands before after) :
    Sound python name commands after ∧ forall process,
      (before.config.phase process = .done -> after.config.phase process = .done) ∧
      (before.loaded process ≠ .pending -> after.loaded process = before.loaded process) ∧
      (before.output.phase process = .done -> after.output.phase process = .done) := by
  induction path with
  | refl => exact ⟨sound, fun _ => ⟨id, fun _ => rfl, id⟩⟩
  | tail earlier last inductionHypothesis =>
      rcases last with ⟨action, _, stepped⟩
      refine ⟨inductionHypothesis.1.step stepped, fun process => ?_⟩
      have front := inductionHypothesis.2 process
      have back := lasts_of_step stepped process
      refine ⟨fun done => back.1 (front.1 done), fun set => ?_,
        fun done => back.2.2 (front.2.2 done)⟩
      have same := front.2.1 set
      exact (back.2.1 (same ▸ set)).trans same

/-! ### The commands that end with 0 -/

omit [DecidableEq Process] in
theorem init_elim {process : Process}
    {arguments : Arguments} (command : commands process = .init arguments)
    (ended : exitCode python commands state process = some 0) :
    Exists fun config : DjangoOpsConfig =>
      DjangoOpsConfig.create python arguments = .ok config ∧
        state.config.phase process = .done ∧
        configText python commands process = Document.content python (.project config) := by
  unfold exitCode at ended
  rw [command] at ended
  dsimp only at ended
  have made : created python commands process =
      (DjangoOpsConfig.create python arguments).toOption := by
    unfold created
    rw [command]
  cases result : DjangoOpsConfig.create python arguments with
  | error error =>
      rw [made, result] at ended
      cases ended
  | ok config =>
      have accepted : created python commands process = some config := by
        rw [made, result]
        rfl
      rw [accepted] at ended
      refine ⟨config, rfl, ?_, ?_⟩
      · cases phase : state.config.phase process with
        | done => rfl
        | _ =>
            rw [phase] at ended
            cases ended
      · unfold configText
        rw [accepted]

omit [DecidableEq Process] in
theorem compose_elim {process : Process} (command : commands process = .compose)
    (ended : exitCode python commands state process = some 0) :
    Exists fun document : Document => state.loaded process = .ready document ∧
      state.output.phase process = .done ∧
      outputText python state.loaded process = document.content python := by
  unfold exitCode at ended
  rw [command] at ended
  dsimp only at ended
  cases loaded : state.loaded process with
  | pending | failed =>
      rw [loaded] at ended
      cases ended
  | ready document =>
      rw [loaded] at ended
      refine ⟨document, rfl, ?_, ?_⟩
      · cases phase : state.output.phase process with
        | done => rfl
        | _ =>
            rw [phase] at ended
            cases ended
      · unfold outputText
        rw [loaded]

/-- A written configuration is read back, with no integrations. -/
theorem loadProjectConfig_content (inverts : python.yaml.Inverts) {arguments : Arguments}
    {config : DjangoOpsConfig} (made : DjangoOpsConfig.create python arguments = .ok config)
    (newlines : '\r' ∉ (renderConfig python config).toList) :
    loadProjectConfig python name (some (Document.content python (.project config))) =
      .ok (config, []) := by
  have plain : universalNewlines (renderConfig python config).toList =
      (renderConfig python config).toList := by
    refine universalNewlines_eq (List.all_eq_true.mpr fun char listed => ?_)
    rw [bne_iff_ne]
    rintro rfl
    exact newlines listed
  have valid := (Produced.create arguments made).validated
  have none : parseIntegrations python .null = .ok [] := rfl
  have back := parseProjectConfig_render inverts valid none
  unfold loadProjectConfig Document.content
  dsimp only
  rw [readText_bytes plain]
  change (parseProjectConfig python (renderProjectConfig python config [])).mapError _ = _
  rw [back]
  rfl

/-! ### Commands that have come to an end -/

omit [DecidableEq Process] in
theorem ended_of_writingCode {phase : Phase} (ended : (writingCode phase).isSome = true) :
    phase = .done ∨ phase = .left ∨ phase.owns = false := by
  cases phase with
  | done => exact .inl rfl
  | left => exact .inr (.inl rfl)
  | refused | removed => exact .inr (.inr rfl)
  | _ => cases ended

omit [DecidableEq Process] in
/-- The command of a process that has begun to write the configuration. -/
theorem init_of_created {process : Process}
    (accepted : (created python commands process).isSome = true) :
    Exists fun arguments : Arguments => commands process = .init arguments := by
  unfold created at accepted
  cases command : commands process with
  | init arguments => exact ⟨arguments, rfl⟩
  | compose =>
      rw [command] at accepted
      cases accepted

omit [DecidableEq Process] in
/-- The exit code of a command that has begun to write the configuration. -/
theorem exit_of_config (sound : Sound python name commands state) {process : Process}
    (begun : state.config.phase process ≠ .waiting) :
    (Exists fun arguments : Arguments => commands process = .init arguments) ∧
      exitCode python commands state process = writingCode (state.config.phase process) := by
  have accepted := sound.accepted process begun
  rcases init_of_created accepted with ⟨arguments, command⟩
  rcases Option.isSome_iff_exists.mp accepted with ⟨config, made⟩
  refine ⟨⟨arguments, command⟩, ?_⟩
  unfold exitCode
  rw [command]
  dsimp only
  rw [made]

omit [DecidableEq Process] in
/-- The exit code of a command that has begun to write the Compose file. -/
theorem exit_of_output (sound : Sound python name commands state) {process : Process}
    (begun : state.output.phase process ≠ .waiting) :
    commands process = .compose ∧
      exitCode python commands state process = writingCode (state.output.phase process) := by
  cases ready : (state.loaded process).isReady with
  | false => exact absurd (sound.waits process ready) begun
  | true =>
      rcases isReady_elim ready with ⟨document, loaded⟩
      have command := (sound.source process document loaded).1
      refine ⟨command, ?_⟩
      unfold exitCode
      rw [command]
      dsimp only
      rw [loaded]

/-- An `init` that has ended with 0, and every state behind it. -/
theorem project_written (inverts : python.yaml.Inverts)
    (sound : Sound python name commands state) {process : Process} {arguments : Arguments}
    (command : commands process = .init arguments)
    (newlines : forall config, DjangoOpsConfig.create python arguments = .ok config ->
      '\r' ∉ (renderConfig python config).toList)
    (ended : exitCode python commands state process = some 0) :
    Exists fun config : DjangoOpsConfig =>
      DjangoOpsConfig.create python arguments = .ok config ∧
      forall later, Path python name commands state later ->
        later.config.file = some (Document.content python (.project config)) ∧
        loadProjectConfig python name later.config.file = .ok (config, []) ∧
        (forall reader after, step python name commands later (.load reader) = some after ->
          after.loaded reader = .ready (.stack config [])) ∧
        forall other others, commands other = .init others ->
          exitCode python commands later other = some 0 -> other = process := by
  rcases init_elim command ended with ⟨config, made, done, text⟩
  refine ⟨config, made, fun later path => ?_⟩
  rcases sound.path path with ⟨still, lasts⟩
  have file : later.config.file = some (Document.content python (.project config)) := by
    rw [← text]
    exact still.config.file_of_done ((lasts process).1 done)
  have back : loadProjectConfig python name later.config.file = .ok (config, []) := by
    rw [file]
    exact loadProjectConfig_content inverts made (newlines config made)
  refine ⟨file, back, ?_, ?_⟩
  · intro reader after stepped
    change (if _ then _ else none) = _ at stepped
    split at stepped
    · cases stepped
      dsimp only
      rw [Function.update_self]
      unfold generateCompose
      rw [back]
      rfl
    · cases stepped
  · intro other others otherCommand otherEnded
    rcases init_elim otherCommand otherEnded with ⟨_, _, otherDone, _⟩
    refine still.config.unique ?_ ?_
    · rw [otherDone]
      rfl
    · rw [(lasts process).1 done]
      rfl

/-- A `compose` that has ended with 0, and every state behind it. -/
theorem stack_written (sound : Sound python name commands state) {process : Process}
    (command : commands process = .compose)
    (ended : exitCode python commands state process = some 0) :
    Exists fun document : Document => Exists fun part : List UInt8 =>
      Exists fun creator : Process =>
        part <+: configText python commands creator ∧
        generateCompose python name (some part) = .ok document ∧
        forall later, Path python name commands state later ->
          later.output.file = some (document.content python) ∧
          forall other, commands other = .compose ->
            exitCode python commands later other = some 0 -> other = process := by
  rcases compose_elim command ended with ⟨document, loaded, done, text⟩
  rcases (sound.source process document loaded).2 with ⟨part, ⟨creator, inside⟩, generated⟩
  refine ⟨document, part, creator, inside, generated, fun later path => ?_⟩
  rcases sound.path path with ⟨still, lasts⟩
  have set : state.loaded process ≠ .pending := by
    rw [loaded]
    exact fun same => nomatch same
  refine ⟨?_, ?_⟩
  · rw [still.output.file_of_done ((lasts process).2.2 done)]
    unfold outputText
    rw [(lasts process).2.1 set, loaded]
  · intro other otherCommand otherEnded
    rcases compose_elim otherCommand otherEnded with ⟨_, _, otherDone, _⟩
    refine still.output.unique ?_ ?_
    · rw [otherDone]
      rfl
    · rw [(lasts process).2.2 done]
      rfl

/-- A command has ended with 2 because the removal behind its failed writing
failed as well, and has left the front of its text. -/
def Leaves (python : Python Other) (commands : Process -> Command) (state : State Process)
    (file : ExclusiveFile.State Process UInt8) (text : Process -> List UInt8)
    (process : Process) : Prop :=
  exitCode python commands state process = some 2 ∧ file.phase process = .left ∧
    Exists fun items : List UInt8 => file.file = some items ∧ items <+: text process

omit [DecidableEq Process] in
/-- A file is whole or left over, once every command has ended whose exit code is
that of its writing of the file. -/
theorem whole_of_exits {file : ExclusiveFile.State Process UInt8}
    {text : Process -> List UInt8} (owned : Owned text file) {Writes : Process -> Prop}
    (exits : forall process, file.phase process ≠ .waiting -> Writes process ∧
      exitCode python commands state process = writingCode (file.phase process))
    (ended : forall process, (exitCode python commands state process).isSome = true) :
    file.file = none ∨ Exists fun process : Process => Writes process ∧
      (exitCode python commands state process = some 0 ∨
        Leaves python commands state file text process) := by
  have settled : forall process, file.phase process = .done ∨ file.phase process = .left ∨
      (file.phase process).owns = false := by
    intro process
    by_cases begun : file.phase process = .waiting
    · rw [begun]
      exact .inr (.inr rfl)
    · have code := ended process
      rw [(exits process begun).2] at code
      exact ended_of_writingCode code
  rcases owned.ended settled with
    missing | ⟨process, done, _⟩ | ⟨process, items, left, present, inside⟩
  · exact .inl missing
  · rcases exits process (by rw [done]; exact fun same => nomatch same) with ⟨writes, code⟩
    rw [done] at code
    exact .inr ⟨process, writes, .inl code⟩
  · rcases exits process (by rw [left]; exact fun same => nomatch same) with ⟨writes, code⟩
    rw [left] at code
    exact .inr ⟨process, writes, .inr ⟨code, left, items, present, inside⟩⟩

omit [DecidableEq Process] in
/-- When all commands have ended by themselves, a file is there only with a
command that has written it or could not remove it. -/
theorem whole_of_ended (sound : Sound python name commands state)
    (ended : forall process, (exitCode python commands state process).isSome = true) :
    (state.config.file = none ∨ Exists fun process : Process =>
      Exists fun arguments : Arguments => commands process = .init arguments ∧
        (exitCode python commands state process = some 0 ∨
          Leaves python commands state state.config (configText python commands) process)) ∧
    (state.output.file = none ∨ Exists fun process : Process =>
      commands process = .compose ∧
        (exitCode python commands state process = some 0 ∨
          Leaves python commands state state.output (outputText python state.loaded)
            process)) := by
  constructor
  · rcases whole_of_exits sound.config (fun _ begun => exit_of_config sound begun) ended with
      missing | ⟨process, ⟨arguments, command⟩, whole⟩
    · exact .inl missing
    · exact .inr ⟨process, arguments, command, whole⟩
  · exact whole_of_exits sound.output (fun _ begun => exit_of_output sound begun) ended

/-- An `init` that waits creates a configuration that is not there. -/
theorem path_init {process : Process} {config : DjangoOpsConfig}
    (accepted : created python commands process = some config) (missing : state.config.file = none)
    (waits : state.config.phase process = .waiting) : Exists fun after : State Process =>
      Path python name commands state after ∧ after.config.phase process = .done := by
  rcases @ExclusiveFile.path_done _ _ _ (configText python commands) _ _ missing waits with
    ⟨after, path, done, _⟩
  refine ⟨{ state with config := after }, ?_, done⟩
  refine path.lift (fun config => { state with config := config }) ?_
  rintro source target ⟨action, own, stepped⟩
  refine ⟨.config action, trivial, ?_⟩
  change (if (created python commands action.process).isSome then _ else none) = _
  rw [own, accepted, Option.isSome_some, if_pos rfl]
  change (ExclusiveFile.step (configText python commands) source action).map _ = _
  rw [show ExclusiveFile.step (configText python commands) source action = some target from stepped]
  rfl

end Kept

/-! ## An example -/

def sampleArguments : Arguments :=
  { projectName := "sample-app", djangoModule := "config.settings", hostname := "app.example.com"
    storageEndpointUrl := "https://objects.example.com/", storageRegion := some "eu-west-1"
    staticBucket := "sample-static", mediaBucket := "sample-media"
    backupBucket := "sample-backups" }

/-- One command creates the configuration and the other the Compose file. -/
def sampleCommands : Bool -> Command
  | true => .init sampleArguments
  | false => .compose

end NewFiles
end Cli
end DjangoOps
