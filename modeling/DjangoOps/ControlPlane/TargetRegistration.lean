import DjangoOps.ControlPlane.Consistency

namespace DjangoOps
namespace ControlPlane

open Protocol Gateway OperationsService

universe u

namespace Console

variable {Number : Type u} {setting : Setting Number}

/-!
# Registration of targets

`register_target` inserts the row of a target, then asks the agent, and only
then fills in `validated_at` or deletes the row.  An exception of the backend
passes through it and leaves the row behind, and a release that was started in
the meantime keeps the row from being deleted.
-/

/-- The row whose registration is under way. -/
def Phase.registers? : Phase -> Option Nat
  | .validating target => some target
  | .storing target _ => some target
  | .removing target => some target
  | _ => none

/-- The row that a call has created, whether or not it still exists. -/
def Phase.created? : Phase -> Option Nat
  | .registered created _ => created
  | phase => phase.registers?

/-- `register_target` has returned or raised. -/
def Phase.isRegistered : Phase -> Bool
  | .registered _ _ => true
  | _ => false

/-- `validated_at` is set, after a successful validation. -/
def Validated (row : TargetRow) : Prop :=
  row.validatedAt.isSome = true ∧
    Exists fun validation : TargetValidation =>
      row.validationSummary = some validation ∧ validation.valid = true

/-- A call that has returned leaves a validated row, and a call that has raised
leaves none of its own. -/
def WholeOrNone (targets : List TargetRow) : Phase -> Prop
  | .registered created (.ok target) => created = some target ∧
      Exists fun row : TargetRow => row ∈ targets ∧ row.pk = target ∧ Validated row
  | .registered created (.error _) =>
      forall target, created = some target -> forall row, row ∈ targets -> row.pk ≠ target
  | _ => True

/-- A call of `register_target` that has come to its end has left a validated target
and returned it, or has left no target of its own. -/
def AllOrNothing (state : State) (number : Nat) : Prop :=
  WholeOrNone state.database.targets (state.calls number).phase

theorem allOrNothing_update {database : Database} {calls : Nat -> Call} {drawn : List String}
    {number : Nat} {call : Call} :
    AllOrNothing ⟨database, Function.update calls number call, drawn⟩ number <->
      WholeOrNone database.targets call.phase := by
  unfold AllOrNothing
  dsimp only
  rw [Function.update_self]

/-- The backend answers with a verdict, and a target that is to be deleted is referred to
by no release. -/
def Clears (state : State) (action : Nat × Input Number) : Prop :=
  (match action.2, (state.calls action.1).phase with
    | .validated (.error _), _ => false
    | .proceed, .removing target => !state.database.isProtected target
    | _, _ => true) = true

instance (state : State) (action : Nat × Input Number) : Decidable (Clears state action) :=
  inferInstanceAs (Decidable (_ = true))

/-! ## What a move does to the targets -/

/-- The statement leaves the table of targets alone. -/
def Spares (statement : Option Statement) : Prop :=
  forall database : Database,
    (State.execute database statement).targets = database.targets ∧
      (State.execute database statement).targetSequence = database.targetSequence

/-- The moves of a registration, and what all others have in common. -/
inductive Registration (database : Database) (call : Call) :
    Input Number -> Option Statement -> Call -> Prop
  | background (input : Input Number) (statement : Option Statement) (spares : Spares statement)
      (kept : forall state action, state.calls action.1 = call -> action.2 = input ->
        Clears state action) :
      Registration database call input statement call
  | outside (input : Input Number) (statement : Option Statement) (after : Call)
      (spares : Spares statement) (before : call.phase.created? = none)
      (nothing : after.phase.created? = none)
      (failed : forall created target, after.phase ≠ .registered created (.ok target))
      (kept : forall state action, state.calls action.1 = call -> action.2 = input ->
        Clears state action) :
      Registration database call input statement after
  | created (fields : TargetFields) (drawn : Drawn) (creating : call.phase = .creating fields) :
      Registration database call (.insert drawn)
        (some (.createTarget (newTarget database fields drawn)))
        { call with phase := .validating database.targetSequence }
  | escaped (target : Nat) (error : PyException) (validating : call.phase = .validating target) :
      Registration database call (.validated (.error error)) none
        { call with phase := .registered (some target) (.error (.python error)) }
  | valid (target : Nat) (validation : TargetValidation)
      (validating : call.phase = .validating target) (valid : validation.valid = true) :
      Registration database call (.validated (.ok validation)) none
        { call with phase := .storing target validation }
  | invalid (target : Nat) (validation : TargetValidation)
      (validating : call.phase = .validating target) :
      Registration database call (.validated (.ok validation)) none
        { call with phase := .removing target }
  | stored (target : Nat) (validation : TargetValidation) (now : Nat)
      (storing : call.phase = .storing target validation) :
      Registration database call (.store now) (some (.saveTarget target validation now))
        { call with phase := .registered (some target) (.ok target) }
  | refused (target : Nat) (removing : call.phase = .removing target)
      (referred : database.isProtected target = true) :
      Registration database call .proceed none
        { call with phase := .registered (some target) (.error .protectedError) }
  | removed (target : Nat) (removing : call.phase = .removing target)
      (free : database.isProtected target = false) :
      Registration database call .proceed (some (.deleteTarget target))
        { call with
          phase := .registered (some target)
            (.error (.python (.valueError "cluster validation failed"))) }

theorem clears_of_phase {call : Call} {input : Input Number}
    (answered : forall error, input ≠ .validated (.error error))
    (other : input = .proceed -> forall target, call.phase ≠ .removing target) (state : State)
    (action : Nat × Input Number) (own : state.calls action.1 = call) (same : action.2 = input) :
    Clears state action := by
  subst own same
  unfold Clears
  split
  · rename_i _ error raised
    exact absurd raised (answered error)
  · rename_i target proceeds removing
    exact absurd removing (other proceeds target)
  · rfl

/-- A step that is outside of a registration, seen from the phase before it. -/
theorem registration_outside {database : Database} {call after : Call} {input : Input Number}
    {statement : Option Statement} (spares : Spares statement)
    (answered : forall error, input ≠ .validated (.error error))
    (before : call.phase.created? = none) (nothing : after.phase.created? = none)
    (failed : forall created target, after.phase ≠ .registered created (.ok target)) :
    Registration database call input statement after := by
  refine .outside input statement after spares before nothing failed
    (clears_of_phase answered fun _ target removing => ?_)
  rw [removing] at before
  cases before

theorem registration_of_issued {database : Database} {call : Call} {user : Nat} {drawn : Drawn}
    {mutation : Mutation Number} {effect : Effect} (idle : call.phase = .idle)
    (resolved : Issued setting database user drawn mutation effect) :
    Registration database call (.issue user mutation drawn) effect.1
      { user := user, phase := effect.2, task := none } := by
  have before : call.phase.created? = none := by rw [idle]; rfl
  cases resolved <;>
    exact registration_outside (fun _ => ⟨rfl, rfl⟩) (by simp) before rfl (by simp)

theorem registration_of_opened {config : ServiceConfig} {database : Database} {call : Call}
    {target : TargetRow} {agentId : String} {intent : Intent} {drawn : Drawn} {effect : Effect}
    (opening : call.phase = .opening target agentId intent)
    (transaction : Opened config database call.user target agentId intent drawn effect) :
    @Registration Number database call (.insert drawn) effect.1
      { call with phase := effect.2 } := by
  have before : call.phase.created? = none := by rw [opening]; rfl
  cases transaction <;>
    exact registration_outside (fun _ => ⟨rfl, rfl⟩) (by simp) before rfl (by simp)

theorem registration_of_move {database : Database} {call after : Call} {input : Input Number}
    {statement : Option Statement} (move : Move setting database call input statement after) :
    Registration database call input statement after := by
  cases move with
  | issued user mutation drawn effect idle resolved => exact registration_of_issued idle resolved
  | identityTaken fields drawn creating taken =>
      have before : call.phase.created? = none := by rw [creating]; rfl
      exact registration_outside (fun _ => ⟨rfl, rfl⟩) (by simp) before rfl (by simp)
  | targetCreated fields drawn creating free => exact .created fields drawn creating
  | opened target agentId intent drawn effect opening transaction =>
      exact registration_of_opened opening transaction
  | targetEscaped target error validating => exact .escaped target error validating
  | targetValid target validation validating valid => exact .valid target validation validating valid
  | targetInvalid target validation validating invalid => exact .invalid target validation validating
  | targetStored target validation now storing => exact .stored target validation now storing
  | targetProtected target removing referred => exact .refused target removing referred
  | targetRemoved target removing free => exact .removed target removing free
  | consumed operation write scheduled =>
      refine .background _ _ (fun _ => ⟨rfl, rfl⟩) (clears_of_phase (by simp) fun proceeds => ?_)
      cases proceeds
  | online operation project phase | offline operation project phase
  | scheduled operation project phase | overloaded operation project message phase
  | startRaised operation project phase
  | cancelAnswered operation outcome status errorCode phase verdict
  | cancelRaised operation outcome phase silent
  | releaseRecorded row agentId request course result phase
  | releaseUnavailable row agentId request course phase
  | releaseEscaped row agentId request course error phase
  | cancelReleaseAnswered release accepted phase
  | saveLost operation project status errorCode phase gone
  | saved operation project status errorCode row phase present | staleFound operation project phase
  | trimmed operation stale phase | refreshEnded operation answer phase | refreshed operation phase
  | updated operation status errorCode answer phase | releaseRefreshEnded release answer phase
  | releaseRefreshed release phase | releaseClosed release accepted phase =>
      have before : call.phase.created? = none := by rw [phase]; rfl
      exact registration_outside (fun _ => ⟨rfl, rfl⟩) (by simp) before rfl (by simp)

/-! ## Whose the rows are -/

/-- Every call under way has its row, and no row belongs to two calls. -/
structure Registrations (state : State) : Prop where
  created : forall number target, (state.calls number).phase.created? = some target ->
    target < state.database.targetSequence
  apart : forall first second target, (state.calls first).phase.created? = some target ->
    (state.calls second).phase.created? = some target -> first = second
  present : forall number target, (state.calls number).phase.registers? = some target ->
    Exists fun row : TargetRow => row ∈ state.database.targets ∧ row.pk = target
  verdict : forall number target validation,
    (state.calls number).phase = .storing target validation -> validation.valid = true

theorem created_of_registers {phase : Phase} {target : Nat}
    (registering : phase.registers? = some target) : phase.created? = some target := by
  cases phase <;> cases registering <;> rfl

section Step

variable {database : Database} {call after : Call} {input : Input Number}
  {statement : Option Statement}

/-- A call keeps its row, or creates the row that the sequence numbers next. -/
theorem created_of_registration (move : Registration database call input statement after)
    {target : Nat} (created : after.phase.created? = some target) :
    (call.phase.created? = some target ∧
        database.targetSequence ≤ (State.execute database statement).targetSequence) ∨
      (target = database.targetSequence ∧
        target < (State.execute database statement).targetSequence) := by
  cases move with
  | background _ _ spares _ => exact .inl ⟨created, (spares database).2.ge⟩
  | outside _ _ _ spares _ nothing _ _ =>
      rw [nothing] at created
      cases created
  | created fields drawn creating =>
      cases created
      exact .inr ⟨rfl, Nat.lt_succ_self _⟩
  | escaped _ error validating => exact .inl ⟨by rw [validating]; exact created, le_refl _⟩
  | valid _ validation validating valid => exact .inl ⟨by rw [validating]; exact created, le_refl _⟩
  | invalid _ validation validating => exact .inl ⟨by rw [validating]; exact created, le_refl _⟩
  | stored _ validation now storing => exact .inl ⟨by rw [storing]; exact created, le_refl _⟩
  | refused _ removing referred => exact .inl ⟨by rw [removing]; exact created, le_refl _⟩
  | removed _ removing free => exact .inl ⟨by rw [removing]; exact created, le_refl _⟩

theorem sequence_of_registration (move : Registration database call input statement after) :
    database.targetSequence ≤ (State.execute database statement).targetSequence := by
  cases move with
  | background _ _ spares _ => exact (spares database).2.ge
  | outside _ _ _ spares _ _ _ _ => exact (spares database).2.ge
  | created fields drawn creating => exact Nat.le_succ _
  | _ => exact le_refl _

/-- Only the registration of a row deletes it. -/
theorem present_of_registration (move : Registration database call input statement after)
    {row : TargetRow} (listed : row ∈ database.targets)
    (kept : call.phase.registers? = some row.pk -> after.phase.registers? = some row.pk) :
    Exists fun later : TargetRow =>
      later ∈ (State.execute database statement).targets ∧ later.pk = row.pk := by
  cases move with
  | background _ _ spares _ => exact ⟨row, (spares database).1 ▸ listed, rfl⟩
  | outside _ _ _ spares _ _ _ _ => exact ⟨row, (spares database).1 ▸ listed, rfl⟩
  | created fields drawn creating => exact ⟨row, .tail _ listed, rfl⟩
  | stored target validation now storing =>
      by_cases own : row.pk = target
      · exact ⟨_, Table.mem_update.mpr (.inl ⟨row, listed, own, rfl⟩), rfl⟩
      · exact ⟨row, Table.mem_update.mpr (.inr ⟨listed, own⟩), rfl⟩
  | removed target removing free =>
      refine ⟨row, List.mem_filter.mpr ⟨listed, decide_eq_true fun own => ?_⟩, rfl⟩
      rw [removing, own] at kept
      cases kept rfl
  | _ => exact ⟨row, listed, rfl⟩

theorem registers_of_registration (move : Registration database call input statement after)
    {target : Nat} (registering : after.phase.registers? = some target) :
    call.phase.registers? = some target ∨
      Exists fun row : TargetRow =>
        row ∈ (State.execute database statement).targets ∧ row.pk = target := by
  cases move with
  | background _ _ _ _ => exact .inl registering
  | outside _ _ _ _ _ nothing _ _ =>
      rw [created_of_registers registering] at nothing
      cases nothing
  | created fields drawn creating =>
      cases registering
      exact .inr ⟨_, .head _, rfl⟩
  | valid _ validation validating valid => exact .inl (by rw [validating]; exact registering)
  | invalid _ validation validating => exact .inl (by rw [validating]; exact registering)
  | escaped _ _ _ => cases registering
  | stored _ _ _ _ => cases registering
  | refused _ _ _ => cases registering
  | removed _ _ _ => cases registering

theorem verdict_of_registration (move : Registration database call input statement after)
    {target : Nat} {validation : TargetValidation}
    (storing : after.phase = .storing target validation) :
    call.phase = .storing target validation ∨ validation.valid = true := by
  cases move with
  | background _ _ _ _ => exact .inl storing
  | outside _ _ _ _ _ nothing _ _ =>
      rw [storing] at nothing
      cases nothing
  | valid _ _ _ valid =>
      cases storing
      exact .inr valid
  | created _ _ _ => cases storing
  | invalid _ _ _ => cases storing
  | escaped _ _ _ => cases storing
  | stored _ _ _ _ => cases storing
  | refused _ _ _ => cases storing
  | removed _ _ _ => cases storing

end Step

theorem Registrations.step {before after : State} {number : Nat} {input : Input Number}
    (sound : Registrations before) (stepped : step setting before (number, input) = some after) :
    Registrations after := by
  rcases step_move stepped with ⟨_, statement, call, move, rfl⟩
  have registration := registration_of_move move
  have bound := sequence_of_registration registration
  refine ⟨?_, ?_, ?_, ?_⟩
  · intro other target created
    dsimp only at created ⊢
    by_cases own : other = number
    · subst own
      rw [Function.update_self] at created
      rcases created_of_registration registration created with ⟨earlier, _⟩ | ⟨_, smaller⟩
      · exact lt_of_lt_of_le (sound.created _ _ earlier) bound
      · exact smaller
    · rw [Function.update_of_ne own] at created
      exact lt_of_lt_of_le (sound.created _ _ created) bound
  · intro first second target left right
    have others : forall other, other ≠ number ->
        (before.calls other).phase.created? = some target ->
          call.phase.created? = some target -> other = number := by
      intro other different known made
      rcases created_of_registration registration made with ⟨earlier, _⟩ | ⟨fresh, _⟩
      · exact sound.apart other number target known earlier
      · have smaller := sound.created other target known
        omega
    dsimp only at left right
    by_cases ownFirst : first = number
    · by_cases ownSecond : second = number
      · rw [ownFirst, ownSecond]
      · rw [ownFirst, Function.update_self] at left
        rw [Function.update_of_ne ownSecond] at right
        rw [ownFirst]
        exact (others second ownSecond right left).symm
    · rw [Function.update_of_ne ownFirst] at left
      by_cases ownSecond : second = number
      · rw [ownSecond, Function.update_self] at right
        rw [ownSecond]
        exact others first ownFirst left right
      · rw [Function.update_of_ne ownSecond] at right
        exact sound.apart first second target left right
  · intro other target registering
    dsimp only at registering ⊢
    by_cases own : other = number
    · subst own
      rw [Function.update_self] at registering
      rcases registers_of_registration registration registering with earlier | present
      · rcases sound.present other target earlier with ⟨row, listed, rfl⟩
        exact present_of_registration registration listed fun _ => registering
      · exact present
    · rw [Function.update_of_ne own] at registering
      rcases sound.present other target registering with ⟨row, listed, rfl⟩
      refine present_of_registration registration listed fun registered => ?_
      exact absurd (sound.apart other number row.pk (created_of_registers registering)
        (created_of_registers registered)) own
  · intro other target validation storing
    dsimp only at storing
    by_cases own : other = number
    · subst own
      rw [Function.update_self] at storing
      rcases verdict_of_registration registration storing with earlier | valid
      · exact sound.verdict other target validation earlier
      · exact valid
    · rw [Function.update_of_ne own] at storing
      exact sound.verdict other target validation storing

theorem registrations_of_reachable {admissible : Database -> Prop}
    {guard : State -> Nat × Input Number -> Prop} {state : State}
    (reached : (machine setting admissible).ReachableUnder guard state) : Registrations state := by
  refine reached.invariant ?_ ?_
  · intro start starts
    refine ⟨?_, ?_, ?_, ?_⟩ <;> intro number <;> simp [starts.idle, Phase.created?, Phase.registers?]
  · intro before action after _ sound _ stepped
    exact sound.step stepped

/-! ## All or nothing -/

/-- A call that has created no row, and does not claim one. -/
theorem wholeOrNone_of_nothing {targets : List TargetRow} {phase : Phase}
    (nothing : phase.created? = none)
    (failed : forall created target, phase ≠ .registered created (.ok target)) :
    WholeOrNone targets phase := by
  unfold WholeOrNone
  split
  · rename_i created target
    exact absurd rfl (failed created target)
  · rename_i created error
    intro target made
    rw [show created = none from nothing] at made
    cases made
  · trivial

section Ends

variable {before after : State} {number : Nat} {input : Input Number}

/-- The step with which `register_target` returns or raises leaves all or
nothing exactly when it clears. -/
theorem allOrNothing_iff (sound : Registrations before)
    (stepped : step setting before (number, input) = some after)
    (running : (before.calls number).phase.isRegistered = false)
    (ended : (after.calls number).phase.isRegistered = true) :
    AllOrNothing after number <-> Clears before (number, input) := by
  rcases step_move stepped with ⟨_, statement, call, move, rfl⟩
  have registration := registration_of_move move
  dsimp only at ended
  rw [Function.update_self] at ended
  rw [allOrNothing_update]
  generalize earlier : before.calls number = current at registration running
  cases registration with
  | background _ _ _ _ =>
      rw [running] at ended
      cases ended
  | outside _ _ _ _ _ nothing failed kept =>
      exact iff_of_true (wholeOrNone_of_nothing nothing failed)
        (kept before (number, input) earlier rfl)
  | created _ _ _ => cases ended
  | valid _ _ _ _ => cases ended
  | invalid _ _ _ => cases ended
  | escaped target error validating =>
      refine iff_of_false (fun gone => ?_) (by simp [Clears])
      rcases sound.present number target (by rw [earlier, validating]; rfl) with ⟨row, listed, same⟩
      exact gone target rfl row listed same
  | stored target validation now storing =>
      refine iff_of_true ⟨rfl, ?_⟩ (by simp [Clears])
      rcases sound.present number target (by rw [earlier, storing]; rfl) with ⟨row, listed, own⟩
      refine ⟨_, Table.mem_update.mpr (.inl ⟨row, listed, own, rfl⟩), own, rfl, _, rfl, ?_⟩
      exact sound.verdict number target validation (by rw [earlier, storing])
  | refused target removing referred =>
      refine iff_of_false (fun gone => ?_) ?_
      · rcases sound.present number target (by rw [earlier, removing]; rfl) with
          ⟨row, listed, same⟩
        exact gone target rfl row listed same
      · simp [Clears, earlier, removing, referred]
  | removed target removing free =>
      refine iff_of_true ?_ (by simp [Clears, earlier, removing, free])
      intro other made row listed own
      cases made
      exact of_decide_eq_true (List.mem_filter.mp listed).2 own

end Ends

/-- Every call that has ended left all or nothing, and every row has been
validated, or its registration is under way. -/
structure Sealed (state : State) : Prop where
  settled : forall number, AllOrNothing state number
  covered : forall row, row ∈ state.database.targets ->
    Validated row ∨ Exists fun number : Nat =>
      (state.calls number).phase.registers? = some row.pk

section Runs

variable {database : Database} {call after : Call} {input : Input Number}
  {statement : Option Statement}

theorem validated_of_registration (move : Registration database call input statement after)
    {row : TargetRow} (listed : row ∈ database.targets) (validated : Validated row)
    (kept : call.phase.registers? ≠ some row.pk) :
    Exists fun later : TargetRow => later ∈ (State.execute database statement).targets ∧
      later.pk = row.pk ∧ Validated later := by
  cases move with
  | background _ _ spares _ => exact ⟨row, (spares database).1 ▸ listed, rfl, validated⟩
  | outside _ _ _ spares _ _ _ _ => exact ⟨row, (spares database).1 ▸ listed, rfl, validated⟩
  | created fields drawn creating => exact ⟨row, .tail _ listed, rfl, validated⟩
  | stored target validation now storing =>
      refine ⟨row, Table.mem_update.mpr (.inr ⟨listed, fun own => kept ?_⟩), rfl, validated⟩
      rw [storing, own]
      rfl
  | removed target removing free =>
      refine ⟨row, List.mem_filter.mpr ⟨listed, decide_eq_true fun own => kept ?_⟩, rfl, validated⟩
      rw [removing, own]
      rfl
  | _ => exact ⟨row, listed, rfl, validated⟩

/-- A step that clears leaves no row behind without a validation, unless the
registration of the row goes on.  `elsewhere` stands for the other calls. -/
theorem covered_of_registration (move : Registration database call input statement after)
    {before : State} {number : Nat} (current : before.calls number = call)
    (same : before.database = database) (clears : Clears before (number, input))
    (verdict : forall target validation, call.phase = .storing target validation ->
      validation.valid = true)
    {row : TargetRow} {elsewhere : Prop}
    (covered : row ∈ database.targets ->
      Validated row ∨ elsewhere ∨ call.phase.registers? = some row.pk)
    (listed : row ∈ (State.execute database statement).targets) :
    Validated row ∨ elsewhere ∨ after.phase.registers? = some row.pk := by
  subst current same
  cases move with
  | background _ _ spares _ => exact covered ((spares _).1 ▸ listed)
  | outside _ _ _ spares nothing _ _ _ =>
      rcases covered ((spares _).1 ▸ listed) with validated | other | own
      · exact .inl validated
      · exact .inr (.inl other)
      · rw [created_of_registers own] at nothing
        cases nothing
  | created fields drawn creating =>
      rcases List.mem_cons.mp listed with rfl | earlier
      · exact .inr (.inr rfl)
      · rcases covered earlier with validated | other | own
        · exact .inl validated
        · exact .inr (.inl other)
        · rw [creating] at own
          cases own
  | valid target validation validating valid =>
      rw [validating] at covered
      exact covered listed
  | invalid target validation validating =>
      rw [validating] at covered
      exact covered listed
  | escaped target error validating => simp [Clears] at clears
  | refused target removing referred => simp [Clears, removing, referred] at clears
  | stored target validation now storing =>
      rcases Table.mem_update.mp listed with ⟨earlier, _, own, rfl⟩ | ⟨earlier, other⟩
      · exact .inl ⟨rfl, _, rfl, verdict target validation storing⟩
      · rcases covered earlier with validated | elsewhere | own
        · exact .inl validated
        · exact .inr (.inl elsewhere)
        · rw [storing] at own
          cases own
          exact absurd rfl other
  | removed target removing free =>
      rcases List.mem_filter.mp listed with ⟨earlier, other⟩
      rcases covered earlier with validated | elsewhere | own
      · exact .inl validated
      · exact .inr (.inl elsewhere)
      · rw [removing] at own
        cases own
        exact absurd rfl (of_decide_eq_true other)

/-- What a call leaves is not touched by the others. -/
theorem wholeOrNone_of_registration (move : Registration database call input statement after)
    {phase : Phase} (bound : forall target, phase.created? = some target ->
      target < database.targetSequence)
    (apart : forall target, phase.created? = some target -> call.phase.registers? ≠ some target)
    (settled : WholeOrNone database.targets phase) :
    WholeOrNone (State.execute database statement).targets phase := by
  unfold WholeOrNone at settled ⊢
  split
  · rename_i created target
    rcases settled with ⟨made, row, listed, own, validated⟩
    rcases validated_of_registration move listed validated
      (own ▸ apart target made) with ⟨later, present, same, kept⟩
    exact ⟨made, later, present, same.trans own, kept⟩
  · rename_i created error
    intro target made row listed own
    have smaller := bound target made
    refine settled target made row ?_ own
    cases move with
    | background _ _ spares _ => exact (spares database).1 ▸ listed
    | outside _ _ _ spares _ _ _ _ => exact (spares database).1 ▸ listed
    | created fields drawn creating =>
        rcases List.mem_cons.mp listed with rfl | earlier
        · exact absurd own (by change database.targetSequence ≠ target; omega)
        · exact earlier
    | stored stored validation now storing =>
        rcases Table.mem_update.mp listed with ⟨earlier, _, same, rfl⟩ | ⟨earlier, _⟩
        · refine absurd ?_ (apart target made)
          rw [storing, ← own]
          exact congrArg some same.symm
        · exact earlier
    | removed removed removing free => exact List.mem_of_mem_filter listed
    | _ => exact listed
  · trivial

/-- A call that has ended executes nothing more on its target. -/
theorem wholeOrNone_of_registered (move : Registration database call input statement after)
    (ended : call.phase.isRegistered = true) (settled : WholeOrNone database.targets call.phase) :
    WholeOrNone (State.execute database statement).targets after.phase := by
  cases move with
  | background _ _ spares _ => exact (spares database).1.symm ▸ settled
  | outside _ _ _ _ _ nothing failed _ => exact wholeOrNone_of_nothing nothing failed
  | created _ _ phase | escaped _ _ phase | valid _ _ phase _ | invalid _ _ phase
  | stored _ _ _ phase | refused _ phase _ | removed _ phase _ =>
      rw [phase] at ended
      cases ended

end Runs

theorem wholeOrNone_of_running {targets : List TargetRow} {phase : Phase}
    (running : phase.isRegistered = false) : WholeOrNone targets phase := by
  unfold WholeOrNone
  split
  · cases running
  · cases running
  · trivial

theorem Sealed.step {before after : State} {number : Nat} {input : Input Number}
    (sound : Registrations before) (whole : Sealed before)
    (clears : Clears before (number, input))
    (stepped : step setting before (number, input) = some after) : Sealed after := by
  have ends := allOrNothing_iff sound stepped
  rcases step_move stepped with ⟨_, statement, call, move, rfl⟩
  have registration := registration_of_move move
  refine ⟨fun other => ?_, fun row listed => ?_⟩
  · by_cases own : other = number
    · subst own
      cases running : (before.calls other).phase.isRegistered with
      | false =>
          cases ended : call.phase.isRegistered with
          | false => exact allOrNothing_update.mpr (wholeOrNone_of_running ended)
          | true =>
              refine (ends running ?_).mpr clears
              dsimp only
              rw [Function.update_self]
              exact ended
      | true =>
          exact allOrNothing_update.mpr
            (wholeOrNone_of_registered registration running (whole.settled other))
    · unfold AllOrNothing
      dsimp only
      rw [Function.update_of_ne own]
      refine wholeOrNone_of_registration registration (sound.created other) ?_ (whole.settled other)
      intro target made registering
      exact own (sound.apart other number target made (created_of_registers registering))
  · have covered : Validated row ∨ (Exists fun other : Nat => other ≠ number ∧
        (before.calls other).phase.registers? = some row.pk) ∨
          call.phase.registers? = some row.pk := by
      refine covered_of_registration registration rfl rfl clears (sound.verdict number) ?_ listed
      intro earlier
      rcases whole.covered row earlier with validated | ⟨other, registering⟩
      · exact .inl validated
      · by_cases own : other = number
        · exact .inr (.inr (own ▸ registering))
        · exact .inr (.inl ⟨other, own, registering⟩)
    rcases covered with validated | ⟨other, different, registering⟩ | own
    · exact .inl validated
    · refine .inr ⟨other, ?_⟩
      dsimp only
      rw [Function.update_of_ne different]
      exact registering
    · refine .inr ⟨number, ?_⟩
      dsimp only
      rw [Function.update_self]
      exact own

/-- All targets of the database have been validated. -/
def AllValidated (database : Database) : Prop :=
  forall row, row ∈ database.targets -> Validated row

theorem sealed_of_reachable {state : State}
    (reached : (machine setting AllValidated).ReachableUnder Clears state) : Sealed state := by
  refine reached.invariant ?_ ?_
  · intro start starts
    refine ⟨fun number => ?_, fun row listed => .inl (starts.admissible row listed)⟩
    unfold AllOrNothing
    rw [starts.idle]
    trivial
  · intro before action after earlier whole clears stepped
    exact whole.step (registrations_of_reachable earlier) clears stepped

/-- `register_target` leaves all or nothing exactly when the backend answers
with a verdict, and no release refers to a target that is deleted after it.
When this is so in a whole run, every call has left all or nothing, and every
target has been validated, or its registration is under way.  The row is there
before it is validated, and an exception of the backend passes the statement
that would take it away. -/
theorem register_target_all_or_nothing (setting : Setting Number) :
    (forall before after number input,
      (machine setting fun _ => True).Reachable before ->
      step setting before (number, input) = some after ->
      (before.calls number).phase.isRegistered = false ->
      (after.calls number).phase.isRegistered = true ->
      (AllOrNothing after number <-> Clears before (number, input))) ∧
    (forall state, (machine setting AllValidated).ReachableUnder Clears state -> Sealed state) :=
  ⟨fun _ _ _ _ reached stepped running ended =>
      allOrNothing_iff (registrations_of_reachable reached) stepped running ended,
    fun _ reached => sealed_of_reachable reached⟩

/-! ## A registration whose agent is not there -/

theorem sampleState_starts : Starts AllValidated sampleState :=
  starts_of_empty rfl rfl rfl (by simp [AllValidated, sampleDatabase])

def sampleArguments : TargetArguments where
  name := "production"
  apiServer := "https://cluster.example/"
  namespaceName := "shop"
  releaseName := "web"
  credentialRef := "vault:shop/web"
  ingressClass := ""
  tlsSecretName := ""

/-- The call is issued by the member, and inserts its row. -/
def insertTarget (number : Nat) (first second third fourth : String) :
    List (Nat × Input Int) :=
  [(number, .issue 7 (.registerKubernetesTarget "1" "1" sampleArguments) ⟨first, second, 0⟩),
    (number, .insert ⟨third, fourth, 1⟩)]

/-- The first call finds no agent, and the second one is the retry. -/
def failedRegistration : List (Nat × Input Int) :=
  insertTarget 0 "a" "b" "c" "d" ++
    [(0, .validated (validate "agent-1" "k8sv-0" .absent))] ++ insertTarget 1 "e" "f" "g" "h"

/-- The first call has raised, its row is there without a validation, and the
retry collides with it. -/
def leavesRow (state : State) : Bool :=
  (match (state.calls 0).phase, (state.calls 1).phase with
    | .registered (some 1) (.error (.python (.runtimeError _))),
      .registered none (.error .integrityError) => true
    | _, _ => false) &&
    state.database.targets.any fun row => decide (row.pk = 1) && row.validatedAt.isNone

theorem failed_registration_leaves_row :
    Exists fun state : State =>
      (machine sampleSetting AllValidated).Reachable state ∧ ¬ AllOrNothing state 0 ∧
        leavesRow state = true := by
  rcases (machine sampleSetting AllValidated).exists_reachableUnder_of_replay (fun _ _ => True)
      failedRegistration sampleState sampleState_starts leavesRow (by decide +kernel) with
    ⟨state, reached, tested⟩
  refine ⟨state, reached, fun none => ?_, tested⟩
  unfold leavesRow at tested
  rw [Bool.and_eq_true] at tested
  rcases tested with ⟨phases, listed⟩
  rcases List.any_eq_true.mp listed with ⟨row, member, own⟩
  rw [Bool.and_eq_true, decide_eq_true_eq] at own
  unfold AllOrNothing at none
  split at phases
  · rename_i first _
    rw [first] at none
    exact none 1 rfl row member own.1
  · cases phases

/-- A registration that the agent confirms. -/
def confirmedRegistration : List (Nat × Input Int) :=
  insertTarget 0 "a" "b" "c" "d" ++
    [(0, .validated (.ok ⟨true, true, true, requiredPermissions⟩)), (0, .store 2)]

theorem register_target_all_or_nothing_confirmed :
    Exists fun state : State => Sealed state ∧
      (state.database.targets.any fun row => row.validatedAt.isSome) = true := by
  rcases (machine sampleSetting AllValidated).exists_reachableUnder_of_replay Clears
      confirmedRegistration sampleState sampleState_starts
      (fun state => state.database.targets.any fun row => row.validatedAt.isSome)
      (by decide +kernel) with ⟨state, reached, tested⟩
  exact ⟨state, (register_target_all_or_nothing sampleSetting).2 state reached, tested⟩

end Console
end ControlPlane
end DjangoOps
