import DjangoOps.ControlPlane.Lifecycle

namespace DjangoOps
namespace ControlPlane
namespace Lifecycle

open Protocol Gateway Mutex Service

/-!
# Rows under concurrent statements

The update that reopens a row is not conditional.  It is safe because its call
holds the lock of the target: every other statement that can run meanwhile is a
conditional update, which neither writes the row that was found nor opens
another one.
-/

/-! ## What a statement does to the rows -/

/-- The call of a statement. -/
def Action.call : Action -> Nat
  | .lockTarget call _ _ => call
  | .selectExisting call => call
  | .reopen call => call
  | .refresh call => call
  | .selectPrevious call => call
  | .create call _ => call
  | .commit call => call
  | .record call _ => call
  | .cancelRelease call _ _ => call
  | .concludeCancel call _ => call
  | .reload call => call

/-- What a statement can do to the rows: nothing, a conditional update, the reopening of a
row that was found, or the creation of a row under an operation id of its own. -/
inductive RowMove (setting : Setting) (before : State) (action : Action) (after : State) : Prop
  | unchanged (rows : after.releases = before.releases)
      (index : after.operationIds = before.operationIds)
  | conditional (target : Nat) (operationId : String)
      (change : KubernetesRelease -> KubernetesRelease)
      (rows : after.releases = Function.update before.releases target
        ((before.table target).updateActive operationId change).releases)
      (revises : forall release, Revises release (change release))
      (index : after.operationIds = before.operationIds)
  | reopens (target : Nat) (intent : Intent) (existing : KubernetesRelease)
      (statement : action = .reopen action.call)
      (phase : before.calls action.call = .starting target intent (.found existing))
      (rows : after.releases = Function.update before.releases target
        ((before.table target).reopen existing.operationId).releases)
      (index : after.operationIds = before.operationIds)
  | creates (target : Nat) (intent : Intent) (previous : Option KubernetesRelease)
      (fresh : String) (statement : action = .create action.call fresh)
      (phase : before.calls action.call = .starting target intent (.creating previous))
      (unused : fresh ∉ before.operationIds)
      (rows : after.releases = Function.update before.releases target
        (.create (setting.service target) intent fresh previous :: before.releases target))
      (index : after.operationIds = fresh :: before.operationIds)

section Rows

variable {setting : Setting} {before after : State} {action : Action}

theorem Move.rows (move : Move setting before action after) :
    RowMove setting before action after := by
  cases move with
  | reopened call target intent existing phase =>
      exact .reopens target intent existing rfl phase rfl rfl
  | created call target intent previous fresh phase unused =>
      exact .creates target intent previous fresh rfl phase unused rfl rfl
  | recorded call target release request result phase =>
      exact .conditional target release.operationId _ rfl (fun _ => ⟨rfl, rfl⟩) rfl
  | unavailable call target release request message phase =>
      exact .conditional target release.operationId _ rfl (fun _ => ⟨rfl, rfl⟩) rfl
  | cancelled call target operationId accepted phase =>
      exact .conditional target operationId _ rfl (fun _ => ⟨rfl, rfl⟩) rfl
  | _ => exact .unchanged rfl rfl

/-- A statement moves its own call and no other. -/
theorem Move.calls_ne (move : Move setting before action after) {call : Nat}
    (other : call ≠ action.call) : after.calls call = before.calls call := by
  cases move <;> exact State.calls_enter_ne _ other _

/-- The rows of one target after a write to one target. -/
theorem table_of_update {rows : List KubernetesRelease} {target : Nat}
    (releases : after.releases = Function.update before.releases target rows) (other : Nat) :
    after.table other =
      if other = target then { Service.State.initial with releases := rows }
      else before.table other := by
  unfold State.table
  rw [releases]
  by_cases same : other = target
  · rw [if_pos same, same, Function.update_self]
  · rw [if_neg same, Function.update_of_ne same]

theorem table_of_eq (releases : after.releases = before.releases) (target : Nat) :
    after.table target = before.table target := by
  unfold State.table
  rw [releases]

/-- A conditional update keeps an inactive row. -/
theorem mem_updateActive_of_inactive {table : Service.State} {operationId : String}
    {change : KubernetesRelease -> KubernetesRelease} {release : KubernetesRelease}
    (listed : release ∈ table.releases) (settled : release.status.active = false) :
    release ∈ (table.updateActive operationId change).releases := by
  refine table.mem_updateActive.mpr ⟨release, listed, .inr ⟨fun own => ?_, rfl⟩⟩
  rw [settled] at own
  cases own.2

/-- A conditional update keeps what a row is known by. -/
theorem exists_updateActive {table : Service.State} {operationId : String}
    {change : KubernetesRelease -> KubernetesRelease}
    (revises : forall release, Revises release (change release)) {release : KubernetesRelease}
    (listed : release ∈ table.releases) :
    Exists fun later : KubernetesRelease =>
      later ∈ (table.updateActive operationId change).releases ∧ Revises release later := by
  by_cases own : release.operationId = operationId ∧ release.status.active = true
  · exact ⟨change release,
      table.mem_updateActive.mpr ⟨release, listed, .inl ⟨own.1, own.2, rfl⟩⟩, revises release⟩
  · exact ⟨release, table.mem_updateActive.mpr ⟨release, listed, .inr ⟨own, rfl⟩⟩, ⟨rfl, rfl⟩⟩

/-- A conditional update opens no row for the query of `start_release`. -/
theorem existing_updateActive {table : Service.State} {config : ServiceConfig} {intent : Intent}
    {operationId : String} {change : KubernetesRelease -> KubernetesRelease}
    (revises : forall release, Revises release (change release))
    (missing : table.existing config intent = none) :
    (table.updateActive operationId change).existing config intent = none := by
  refine List.find?_eq_none.mpr fun later listed matched => ?_
  rw [Bool.and_eq_true] at matched
  rcases table.mem_updateActive.mp listed with ⟨earlier, earlierListed, changed⟩
  have refused := List.find?_eq_none.mp missing earlier earlierListed
  rw [Bool.and_eq_true] at refused
  rcases changed with ⟨own, active, rfl⟩ | ⟨other, rfl⟩
  · refine refused ⟨matchesIntent_iff.mpr ?_, isOpen_of_active active⟩
    rw [← (revises earlier).identity]
    exact matchesIntent_iff.mp matched.1
  · exact refused matched

end Rows

/-! ## What a transaction knows -/

/-- What is true of the rows of the target as long as a transaction stands at a
stage. -/
def Staged (config : ServiceConfig) (table : Service.State) (intent : Intent) : Stage -> Prop
  | .locked => True
  | .found existing =>
      existing ∈ table.releases ∧ identity existing = intentIdentity config intent ∧
        existing.isOpen = true ∧ existing.status.active = false
  | .reopened operationId =>
      Exists fun row : KubernetesRelease => row ∈ table.releases ∧
        row.operationId = operationId ∧ identity row = intentIdentity config intent
  | .absent => table.existing config intent = none
  | .creating _ => table.existing config intent = none
  | .committing release _ =>
      identity release = intentIdentity config intent ∧
        Exists fun row : KubernetesRelease => row ∈ table.releases ∧
          row.operationId = release.operationId

theorem Staged.updateActive {config : ServiceConfig} {table : Service.State} {intent : Intent}
    {stage : Stage} (staged : Staged config table intent stage) {operationId : String}
    {change : KubernetesRelease -> KubernetesRelease}
    (revises : forall release, Revises release (change release)) :
    Staged config (table.updateActive operationId change) intent stage := by
  cases stage with
  | locked => trivial
  | found existing =>
      rcases staged with ⟨listed, same, opened, settled⟩
      exact ⟨mem_updateActive_of_inactive listed settled, same, opened, settled⟩
  | reopened drawn =>
      rcases staged with ⟨row, listed, own, same⟩
      rcases exists_updateActive revises listed with ⟨later, laterListed, kept⟩
      exact ⟨later, laterListed, kept.operationId.trans own, kept.identity.trans same⟩
  | absent => exact existing_updateActive revises staged
  | creating previous => exact existing_updateActive revises staged
  | committing release dispatch =>
      rcases staged with ⟨same, row, listed, own⟩
      rcases exists_updateActive revises listed with ⟨later, laterListed, kept⟩
      exact ⟨same, later, laterListed, kept.operationId.trans own⟩

/-- What holds in every run: a lock has one holder, the rows of a target are coherent, an
operation id belongs to one target, and what a transaction has found is still so. -/
structure State.Sound (setting : Setting) (state : State) : Prop where
  exclusive : Exclusive state.locks fun call => (state.calls call).holds
  coherent : forall target, Coherent (state.table target)
  indexed : forall target release, release ∈ state.releases target ->
    release.operationId ∈ state.operationIds
  owned : forall first second earlier later, earlier ∈ state.releases first ->
    later ∈ state.releases second -> earlier.operationId = later.operationId -> first = second
  staged : forall call target intent stage, state.calls call = .starting target intent stage ->
    Staged (setting.service target) (state.table target) intent stage

section Step

variable {setting : Setting} {before after : State} {action : Action}

theorem holds_enter {state : State} {call : Nat} {phase : Phase}
    (keeps : forall target, phase.holds = some target ->
      (state.calls call).holds = some target) (party target : Nat)
    (holds : ((state.enter call phase).calls party).holds = some target) :
    (state.calls party).holds = some target := by
  by_cases own : party = call
  · subst own
    rw [State.calls_enter_self] at holds
    exact keeps target holds
  · rwa [State.calls_enter_ne _ own] at holds

/-- Only the holder of a lock stands in a transaction on its target. -/
theorem exclusive_step (exclusive : Exclusive before.locks fun call => (before.calls call).holds)
    (move : Move setting before action after) :
    Exclusive after.locks fun call => (after.calls call).holds := by
  have stays : forall {call target : Nat} {intent : Intent} {stage : Stage} (next : Stage),
      before.calls call = .starting target intent stage ->
        forall other, (Phase.starting target intent next).holds = some other ->
          (before.calls call).holds = some other := by
    intro call target intent stage next phase other holds
    rw [phase]
    exact holds
  cases move with
  | locked call target intent idle free =>
      refine exclusive.acquire free ?_ fun other different => ?_
      · exact congrArg Phase.holds (State.calls_enter_self _ _ _)
      · exact congrArg Phase.holds (State.calls_enter_ne _ different _)
  | dispatched call target intent release phase =>
      refine exclusive.release (congrArg Phase.holds phase) ?_ fun other different => ?_
      · exact congrArg Phase.holds (State.calls_enter_self _ _ _)
      · exact congrArg Phase.holds (State.calls_enter_ne _ different _)
  | kept call target intent release phase =>
      refine exclusive.release (congrArg Phase.holds phase) ?_ fun other different => ?_
      · exact congrArg Phase.holds (State.calls_enter_self _ _ _)
      · exact congrArg Phase.holds (State.calls_enter_ne _ different _)
  | answered call target intent existing phase selected active =>
      exact exclusive.mono (holds_enter (stays _ phase))
  | found call target intent existing phase selected settled =>
      exact exclusive.mono (holds_enter (stays _ phase))
  | missed call target intent phase missing =>
      exact exclusive.mono (holds_enter (stays _ phase))
  | reopened call target intent existing phase =>
      exact exclusive.mono (holds_enter (stays _ phase))
  | refreshed call target intent operationId release phase read =>
      exact exclusive.mono (holds_enter (stays _ phase))
  | searched call target intent phase => exact exclusive.mono (holds_enter (stays _ phase))
  | created call target intent previous fresh phase unused =>
      exact exclusive.mono (holds_enter (stays _ phase))
  | _ => exact exclusive.mono (holds_enter nofun)

theorem State.Sound.coherent_step (sound : before.Sound setting)
    (rows : RowMove setting before action after) (target : Nat) :
    Coherent (after.table target) := by
  cases rows with
  | unchanged rows index =>
      rw [table_of_eq rows]
      exact sound.coherent target
  | conditional written operationId change rows revises index =>
      rw [table_of_update rows]
      split
      · have kept : Coherent ((before.table written).updateActive operationId change) :=
          (sound.coherent written).updateActive revises
        exact ⟨kept.unique, kept.single⟩
      · exact sound.coherent target
  | reopens written intent existing statement phase rows index =>
      rw [table_of_update rows]
      split
      · rcases sound.staged _ written intent _ phase with ⟨listed, same, opened, _⟩
        have found := (sound.coherent written).existing_of_open listed same opened
        have kept := (sound.coherent written).reopened found
        exact ⟨kept.unique, kept.single⟩
      · exact sound.coherent target
  | creates written intent previous fresh statement phase unused rows index =>
      rw [table_of_update rows]
      split
      · refine (sound.coherent written).created (sound.staged _ written intent _ phase) ?_ rfl
        intro drawn
        rcases List.mem_map.mp drawn with ⟨release, listed, same⟩
        exact unused (same ▸ sound.indexed written release listed)
      · exact sound.coherent target

/-- Where the rows of a later state come from. -/
theorem RowMove.origin (rows : RowMove setting before action after) {target : Nat}
    {later : KubernetesRelease} (listed : later ∈ after.releases target) :
    (Exists fun earlier : KubernetesRelease => earlier ∈ before.releases target ∧
        Revises earlier later) ∨
      (later.operationId ∉ before.operationIds ∧
        Exists fun intent : Intent => Exists fun previous : Option KubernetesRelease =>
          before.calls action.call = .starting target intent (.creating previous) ∧
            later = .create (setting.service target) intent later.operationId previous ∧
            after.operationIds = later.operationId :: before.operationIds) := by
  cases rows with
  | unchanged rows index => exact .inl ⟨later, rows ▸ listed, rfl, rfl⟩
  | conditional written operationId change rows revises index =>
      by_cases same : target = written
      · subst same
        rw [rows, Function.update_self] at listed
        rcases (before.table target).mem_updateActive.mp listed with
          ⟨earlier, earlierListed, ⟨_, _, rfl⟩ | ⟨_, rfl⟩⟩
        · exact .inl ⟨earlier, earlierListed, revises earlier⟩
        · exact .inl ⟨earlier, earlierListed, rfl, rfl⟩
      · rw [rows, Function.update_of_ne same] at listed
        exact .inl ⟨later, listed, rfl, rfl⟩
  | reopens written intent existing statement phase rows index =>
      by_cases same : target = written
      · subst same
        rw [rows, Function.update_self] at listed
        rcases List.mem_map.mp listed with ⟨earlier, earlierListed, rfl⟩
        refine .inl ⟨earlier, earlierListed, ?_⟩
        split <;> exact ⟨rfl, rfl⟩
      · rw [rows, Function.update_of_ne same] at listed
        exact .inl ⟨later, listed, rfl, rfl⟩
  | creates written intent previous fresh statement phase unused rows index =>
      by_cases same : target = written
      · subst same
        rw [rows, Function.update_self] at listed
        rcases List.mem_cons.mp listed with rfl | old
        · exact .inr ⟨unused, intent, previous, phase, rfl, index⟩
        · exact .inl ⟨later, old, rfl, rfl⟩
      · rw [rows, Function.update_of_ne same] at listed
        exact .inl ⟨later, listed, rfl, rfl⟩

theorem RowMove.index_mono (rows : RowMove setting before action after)
    {operationId : String} (member : operationId ∈ before.operationIds) :
    operationId ∈ after.operationIds := by
  cases rows with
  | creates written intent previous fresh statement phase unused rows index =>
      rw [index]
      exact .tail _ member
  | unchanged rows index => rwa [index]
  | conditional written drawn change rows revises index => rwa [index]
  | reopens written intent existing statement phase rows index => rwa [index]

theorem State.Sound.indexed_step (sound : before.Sound setting)
    (rows : RowMove setting before action after) (target : Nat) (release : KubernetesRelease)
    (listed : release ∈ after.releases target) : release.operationId ∈ after.operationIds := by
  rcases rows.origin listed with ⟨earlier, earlierListed, revises⟩ | ⟨_, _, _, _, _, index⟩
  · rw [revises.operationId]
    exact rows.index_mono (sound.indexed target earlier earlierListed)
  · rw [index]
    exact .head _

theorem State.Sound.owned_step (sound : before.Sound setting)
    (rows : RowMove setting before action after) (first second : Nat)
    (earlier later : KubernetesRelease) (firstListed : earlier ∈ after.releases first)
    (secondListed : later ∈ after.releases second)
    (same : earlier.operationId = later.operationId) : first = second := by
  rcases rows.origin firstListed with ⟨left, leftListed, leftSame⟩ | ⟨fresh, intent, _, phase, _⟩ <;>
    rcases rows.origin secondListed with
      ⟨right, rightListed, rightSame⟩ | ⟨otherFresh, otherIntent, _, otherPhase, _⟩
  · refine sound.owned first second left right leftListed rightListed ?_
    rw [← leftSame.operationId, ← rightSame.operationId, same]
  · refine absurd (sound.indexed first left leftListed) ?_
    rwa [← leftSame.operationId, same]
  · refine absurd (sound.indexed second right rightListed) ?_
    rwa [← rightSame.operationId, ← same]
  · rw [phase] at otherPhase
    cases otherPhase
    rfl

/-- What a transaction knows stays true under the statements of other calls. -/
theorem State.Sound.staged_other (sound : before.Sound setting)
    (rows : RowMove setting before action after) {call target : Nat} {intent : Intent}
    {stage : Stage} (other : call ≠ action.call)
    (phase : before.calls call = .starting target intent stage) :
    Staged (setting.service target) (after.table target) intent stage := by
  have staged := sound.staged call target intent stage phase
  have apart : forall {written : Nat} {theirs : Intent} {theirStage : Stage},
      before.calls action.call = .starting written theirs theirStage -> target ≠ written := by
    rintro written theirs theirStage theirPhase rfl
    exact other (sound.exclusive.holder_unique (congrArg Phase.holds phase)
      (congrArg Phase.holds theirPhase))
  cases rows with
  | unchanged rows index => rwa [table_of_eq rows]
  | conditional written operationId change rows revises index =>
      rw [table_of_update rows]
      split
      · rename_i same
        subst same
        exact staged.updateActive revises
      · exact staged
  | reopens written theirs existing statement theirPhase rows index =>
      rwa [table_of_update rows, if_neg (apart theirPhase)]
  | creates written theirs previous fresh statement theirPhase unused rows index =>
      rwa [table_of_update rows, if_neg (apart theirPhase)]

theorem row?_eq_some {state : State} {target : Nat} {operationId : String}
    {release : KubernetesRelease} (read : state.row? target operationId = some release) :
    release ∈ state.releases target ∧ release.operationId = operationId := by
  refine ⟨List.mem_of_find?_eq_some read, ?_⟩
  simpa only [decide_eq_true_eq] using List.find?_some read

/-- A statement tells its own transaction what it needs next. -/
theorem State.Sound.staged_self (sound : before.Sound setting)
    (move : Move setting before action after) {target : Nat} {intent : Intent} {stage : Stage}
    (phase : after.calls action.call = .starting target intent stage) :
    Staged (setting.service target) (after.table target) intent stage := by
  cases move with
  | locked call written theirs idle free =>
      rw [Action.call, State.calls_enter_self] at phase
      cases phase
      trivial
  | answered call written theirs existing earlier selected active =>
      rw [Action.call, State.calls_enter_self] at phase
      cases phase
      rcases existing_eq_some selected with ⟨listed, same, _⟩
      exact ⟨same, existing, listed, rfl⟩
  | found call written theirs existing earlier selected settled =>
      rw [Action.call, State.calls_enter_self] at phase
      cases phase
      rcases existing_eq_some selected with ⟨listed, same, opened⟩
      exact ⟨listed, same, opened, settled⟩
  | missed call written theirs earlier missing =>
      rw [Action.call, State.calls_enter_self] at phase
      cases phase
      exact missing
  | reopened call written theirs existing earlier =>
      rw [Action.call, State.calls_enter_self] at phase
      cases phase
      rcases sound.staged call target intent _ earlier with ⟨listed, same, _, _⟩
      refine ⟨existing.reopen, ?_, rfl, same⟩
      change existing.reopen ∈ Function.update before.releases target _ target
      rw [Function.update_self]
      exact List.mem_map.mpr ⟨existing, listed, if_pos rfl⟩
  | refreshed call written theirs operationId release earlier read =>
      rw [Action.call, State.calls_enter_self] at phase
      cases phase
      rcases row?_eq_some read with ⟨listed, own⟩
      rcases sound.staged call target intent _ earlier with ⟨row, rowListed, rowOwn, same⟩
      rw [(sound.coherent target).eq_of_operationId rowListed listed (rowOwn.trans own.symm)] at same
      exact ⟨same, release, listed, rfl⟩
  | searched call written theirs earlier =>
      rw [Action.call, State.calls_enter_self] at phase
      cases phase
      exact sound.staged call target intent .absent earlier
  | created call written theirs previous fresh earlier unused =>
      rw [Action.call, State.calls_enter_self] at phase
      cases phase
      refine ⟨rfl, .create (setting.service target) intent fresh previous, ?_, rfl⟩
      change _ ∈ Function.update before.releases target _ target
      rw [Function.update_self]
      exact .head _
  | _ =>
      rw [Action.call, State.calls_enter_self] at phase
      cases phase

theorem State.Sound.step (sound : before.Sound setting) (move : Move setting before action after) :
    after.Sound setting where
  exclusive := exclusive_step sound.exclusive move
  coherent := sound.coherent_step move.rows
  indexed := sound.indexed_step move.rows
  owned := sound.owned_step move.rows
  staged := by
    intro call target intent stage phase
    by_cases own : call = action.call
    · subst own
      exact sound.staged_self move phase
    · rw [move.calls_ne own] at phase
      exact sound.staged_other move.rows own phase

theorem sound_initial (setting : Setting) : State.initial.Sound setting where
  exclusive := fun _ _ impossible => nomatch impossible
  coherent := fun _ => ⟨List.nodup_nil, fun _ impossible => nomatch impossible⟩
  indexed := fun _ _ impossible => nomatch impossible
  owned := fun _ _ _ _ impossible => nomatch impossible
  staged := fun _ _ _ _ impossible => nomatch impossible

theorem sound_of_reachable {state : State} (reached : (machine setting).Reachable state) :
    state.Sound setting := by
  refine reached.invariant ?_ ?_
  · rintro start ⟨⟩
    exact sound_initial setting
  · intro earlier action later _ inductionHypothesis _ stepped
    exact inductionHypothesis.step (step_move stepped)

end Step

end Lifecycle
end ControlPlane
end DjangoOps
