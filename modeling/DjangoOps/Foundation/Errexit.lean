import DjangoOps.Foundation.Transition
import Mathlib.Data.List.Infix
import Mathlib.Logic.Function.Basic

namespace DjangoOps
namespace Errexit

open Transition

universe u v w x y

/-!
# Scripts that end at the first failure

Any number of scripts run at once on one world, each in its own thread.  A
script ends at its first command that fails; what a command does and whether it
passes depends on the world and on an outcome from outside.  Between the
commands the world may be disturbed.

A command that a thread has behind it has passed, as long as the thread still
has something in front of it.  So a fact that the command establishes and that
every later step keeps holds wherever the command is behind.
-/

/-- What befalls a command: nothing; a failure of the first command of its
pipeline behind this output, while the last one passes, and with it the pipeline;
its own failure, behind which this is left. -/
inductive Outcome (Output : Type u) (Left : Type v)
  | passes
  | breaks (output : Output)
  | fails (left : Left)

/-- A command that does not fail by itself performs, with the output of the first
command of its pipeline if that one has failed. -/
def Outcome.run {Output : Type u} {Left : Type v} {World : Type w}
    (perform : Option Output -> World × Bool) (spoil : Left -> World) :
    Outcome Output Left -> World × Bool
  | .passes => perform none
  | .breaks output => perform (some output)
  | .fails left => (spoil left, false)

/-- A command that passes has not failed by itself. -/
theorem Outcome.run_passed {Output : Type u} {Left : Type v} {World : Type w}
    {perform : Option Output -> World × Bool} {spoil : Left -> World}
    {outcome : Outcome Output Left} {after : World}
    (passed : outcome.run perform spoil = (after, true)) :
    Exists fun broken : Option Output => perform broken = (after, true) ∧
      forall output, broken = some output -> outcome = .breaks output := by
  cases outcome with
  | passes => exact ⟨none, passed, fun _ impossible => by cases impossible⟩
  | breaks output =>
      refine ⟨some output, passed, ?_⟩
      rintro _ ⟨⟩
      rfl
  | fails left => cases (Prod.mk.inj passed).2

/-- The scripts of the threads, their commands, and what may disturb the world. -/
structure Setting (Thread : Type u) (World : Type v) (Command : Type w) (Event : Type x)
    (Disturbance : Type y) where
  script : Thread -> List Command
  execute : Thread -> Command -> Event -> World -> World × Bool
  disturb : Disturbance -> World -> Option World

/-- What every thread has in front of it. -/
structure State (Thread : Type u) (Command : Type w) (World : Type v) where
  rest : Thread -> List Command
  world : World

/-- A thread runs its next command, or something else changes the world between two
commands. -/
inductive Action (Thread : Type u) (Event : Type x) (Disturbance : Type y)
  | run (thread : Thread) (outcome : Event)
  | disturb (disturbance : Disturbance)
  deriving DecidableEq

variable {Thread : Type u} [DecidableEq Thread] {World : Type v} {Command : Type w}
  {Event : Type x} {Disturbance : Type y}

/-- The state behind a command: the thread goes on when it has passed. -/
def State.advance (state : State Thread Command World) (thread : Thread) (later : List Command)
    (done : World × Bool) : State Thread Command World where
  rest := Function.update state.rest thread (if done.2 then later else [])
  world := done.1

/-- Behind `second` the script does not come to `first` any more. -/
def Precedes (script : List Command) (first second : Command) : Prop :=
  forall rest, rest ∈ script.tails -> rest.head? = some second -> first ∉ rest.tail

instance [DecidableEq Command] (script : List Command) (first second : Command) :
    Decidable (Precedes script first second) :=
  inferInstanceAs (Decidable (forall rest, rest ∈ script.tails -> _))

namespace Setting

variable (setting : Setting Thread World Command Event Disturbance)

def step (state : State Thread Command World) :
    Action Thread Event Disturbance -> Option (State Thread Command World)
  | .run thread outcome =>
      match state.rest thread with
      | [] => none
      | command :: later =>
          some (state.advance thread later (setting.execute thread command outcome state.world))
  | .disturb disturbance =>
      (setting.disturb disturbance state.world).map fun world => { state with world }

def machine (initial : World -> Prop) :
    Machine (State Thread Command World) (Action Thread Event Disturbance) where
  initial := fun state => state.rest = setting.script ∧ initial state.world
  step := setting.step

/-- All commands pass, with this outcome, and nothing disturbs them. -/
def follow (thread : Thread) (outcome : Event) : List Command -> World -> Option World
  | [], world => some world
  | command :: later, world =>
      let done := setting.execute thread command outcome world
      if done.2 then follow thread outcome later done.1 else none

variable {setting}

/-- What a step can do. -/
theorem step_cases {before after : State Thread Command World}
    {action : Action Thread Event Disturbance}
    (stepped : setting.step before action = some after) :
    (Exists fun thread : Thread => Exists fun outcome : Event => Exists fun command : Command =>
      Exists fun later : List Command => action = .run thread outcome ∧
        before.rest thread = command :: later ∧
          after = before.advance thread later
            (setting.execute thread command outcome before.world)) ∨
      Exists fun disturbance : Disturbance => Exists fun world : World =>
        action = .disturb disturbance ∧ setting.disturb disturbance before.world = some world ∧
          after = { before with world } := by
  cases action with
  | run thread outcome =>
      rw [step] at stepped
      cases front : before.rest thread with
      | nil =>
          rw [front] at stepped
          cases stepped
      | cons command later =>
          rw [front] at stepped
          cases stepped
          exact .inl ⟨thread, outcome, command, later, rfl, front, rfl⟩
  | disturb disturbance =>
      rcases Option.map_eq_some_iff.mp stepped with ⟨world, disturbed, rfl⟩
      exact .inr ⟨disturbance, world, rfl, disturbed, rfl⟩

theorem advance_rest_same {state : State Thread Command World} {thread : Thread}
    {later : List Command} {done : World × Bool} :
    (state.advance thread later done).rest thread = if done.2 then later else [] :=
  Function.update_self _ _ _

theorem advance_rest_other {state : State Thread Command World} {thread other : Thread}
    (different : other ≠ thread) {later : List Command} {done : World × Bool} :
    (state.advance thread later done).rest other = state.rest other :=
  Function.update_of_ne different _ _

/-- How one step changes what is in front of a thread: it has ended, or nothing
has changed, or one command has passed. -/
theorem rest_cases {before after : State Thread Command World}
    {action : Action Thread Event Disturbance} (stepped : setting.step before action = some after)
    (thread : Thread) :
    after.rest thread = [] ∨ after.rest thread = before.rest thread ∨
      Exists fun outcome : Event => Exists fun command : Command =>
        action = .run thread outcome ∧ before.rest thread = command :: after.rest thread ∧
          setting.execute thread command outcome before.world = (after.world, true) := by
  rcases step_cases stepped with
    ⟨runner, outcome, command, later, rfl, front, rfl⟩ | ⟨_, _, _, _, rfl⟩
  · by_cases same : thread = runner
    · subst same
      rw [advance_rest_same]
      cases passed : (setting.execute thread command outcome before.world).2 with
      | false => exact .inl rfl
      | true => exact .inr (.inr ⟨outcome, command, rfl, front, Prod.ext rfl passed⟩)
    · exact .inr (.inl (advance_rest_other same))
  · exact .inr (.inl rfl)

/-- A thread that a step has left where it was has not run in it. -/
theorem other_of_waits {before after : State Thread Command World} {thread runner : Thread}
    {outcome : Event} (stepped : setting.step before (.run runner outcome) = some after)
    (same : after.rest thread = before.rest thread) : thread ≠ runner := by
  rintro rfl
  rcases step_cases stepped with ⟨_, _, command, later, ⟨⟩, front, rfl⟩ | ⟨_, _, impossible, _⟩
  · rw [advance_rest_same, front] at same
    split at same
    · exact absurd same.symm (List.cons_ne_self _ _)
    · cases same
  · cases impossible

section Runs

variable {initial : World -> Prop}
  {guard : State Thread Command World -> Action Thread Event Disturbance -> Prop}

/-- A thread has an end of its script in front of it. -/
theorem rest_suffix {state : State Thread Command World}
    (reached : (setting.machine initial).ReachableUnder guard state) (thread : Thread) :
    state.rest thread <:+ setting.script thread := by
  refine @Machine.ReachableUnder.invariant _ _ _ _
    (fun reached => reached.rest thread <:+ setting.script thread) ?_ ?_ state reached
  · intro start begun
    rw [begun.1]
  · intro before action after _ inductionHypothesis _ stepped
    rcases rest_cases stepped thread with ended | same | ⟨_, command, _, front, _⟩
    · rw [ended]
      exact List.nil_suffix
    · rw [same]
      exact inductionHypothesis
    · rw [front] at inductionHypothesis
      exact (List.suffix_cons command _).trans inductionHypothesis

theorem not_mem_of_precedes {first second : Command} {thread : Thread}
    (order : Precedes (setting.script thread) first second) {state : State Thread Command World}
    (reached : (setting.machine initial).ReachableUnder guard state) {later : List Command}
    (come : state.rest thread = second :: later) : first ∉ later := by
  have whole : second :: later ∈ (setting.script thread).tails := by
    rw [List.mem_tails, ← come]
    exact rest_suffix reached thread
  exact order _ whole rfl

/-- The rule of the commands behind: what a command establishes, and what the
steps behind it keep, holds wherever a thread has the command behind it. -/
theorem behind {thread : Thread} {command : Command}
    {fact : State Thread Command World -> Prop} (member : command ∈ setting.script thread)
    (established : forall before outcome after,
      (setting.machine initial).ReachableUnder guard before ->
        guard before (.run thread outcome) ->
          before.rest thread = command :: after.rest thread ->
            setting.execute thread command outcome before.world = (after.world, true) ->
              fact after)
    (passing : forall before outcome other after,
      (setting.machine initial).ReachableUnder guard before -> fact before ->
        guard before (.run thread outcome) -> command ≠ other ->
          before.rest thread = other :: after.rest thread ->
            setting.execute thread other outcome before.world = (after.world, true) ->
              fact after)
    (waiting : forall before action after,
      (setting.machine initial).ReachableUnder guard before -> fact before ->
        guard before action -> setting.step before action = some after ->
          after.rest thread = before.rest thread -> fact after)
    {state : State Thread Command World}
    (reached : (setting.machine initial).ReachableUnder guard state)
    (inside : state.rest thread ≠ []) (passed : command ∉ state.rest thread) : fact state := by
  revert inside passed
  refine @Machine.ReachableUnder.invariant _ _ _ _
    (fun reached => reached.rest thread ≠ [] -> command ∉ reached.rest thread -> fact reached)
    ?_ ?_ state reached
  · intro start begun _ passed
    rw [begun.1] at passed
    exact absurd member passed
  · intro before action after earlier inductionHypothesis allowed stepped inside passed
    rcases rest_cases stepped thread with ended | same | ⟨outcome, first, rfl, front, executed⟩
    · exact absurd ended inside
    · have known := inductionHypothesis (same ▸ inside) (same ▸ passed)
      exact waiting before action after earlier known allowed stepped same
    · by_cases own : command = first
      · subst own
        exact established before outcome after earlier allowed front executed
      · have known : fact before := by
          apply inductionHypothesis
          · rw [front]
            exact List.cons_ne_nil _ _
          · rw [front]
            exact List.not_mem_cons_of_ne_of_not_mem own passed
        exact passing before outcome first after earlier known allowed own front executed

end Runs
end Setting
end Errexit
end DjangoOps
