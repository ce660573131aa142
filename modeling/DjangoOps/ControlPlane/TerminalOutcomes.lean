import DjangoOps.Foundation.PrefixCode
import DjangoOps.Foundation.Recency
import DjangoOps.ControlPlane.Consistency

namespace DjangoOps
namespace ControlPlane

open Protocol Gateway OperationsService

universe u

/-!
# Terminal outcomes in the telemetry

The telemetry hears of a row through `post_save`, which Django sends for
`Model.save` and `objects.create` only.  Most terminal statuses are written by
`QuerySet.update`, and of these it hears nothing.  The list `entered` is not
part of the program: it remembers every terminal status that a row has entered.
-/

def OperationStatus.text : OperationStatus -> String
  | .pending => "pending"
  | .running => "running"
  | .succeeded => "succeeded"
  | .failed => "failed"
  | .cancelled => "cancelled"
  | .offline => "offline"
  | .overloaded => "overloaded"
  | .disconnected => "disconnected"
  | .timeout => "timeout"

def ReleaseStatus.text : ReleaseStatus -> String
  | .pending => "pending"
  | .validating => "validating"
  | .migrating => "migrating"
  | .applying => "applying"
  | .verifying => "verifying"
  | .succeeded => "succeeded"
  | .failed => "failed"
  | .cancelled => "cancelled"
  | .rolledBack => "rolled_back"
  | .rollbackBlocked => "rollback_blocked"

namespace Observability

/-- The arguments of a call of `telemetry.observe`. -/
structure Observation where
  component : String
  kind : String
  outcome : String
  durationMs : Nat
  correlation : String
  project : Nat
  deriving DecidableEq

/-- `_seen`, `_seen_order`, and the calls of `telemetry.observe`. -/
structure Telemetry where
  seen : Finset String
  order : List String
  observed : List Observation

def Telemetry.empty : Telemetry := ⟨∅, [], []⟩

/-- `_MAX_SEEN` -/
def maxSeen : Nat := 2048

namespace Telemetry

/-- `_remember`; there is no result for a key that is known. -/
def remember (telemetry : Telemetry) (key : String) : Option Telemetry :=
  if key ∈ telemetry.seen then none
  else
    let kept :=
      if maxSeen ≤ telemetry.order.length then
        (telemetry.order.head?.map fun oldest => telemetry.seen.erase oldest).getD telemetry.seen
      else telemetry.seen
    some { telemetry with
      seen := insert key kept, order := Retention.push maxSeen telemetry.order key }

def seenMemory (telemetry : Telemetry) : Recency.Memory String :=
  { members := telemetry.seen, order := telemetry.order }

/-- The telemetry behind a call of `_remember`, whatever it returns. -/
def remembered (telemetry : Telemetry) (key : String) : Telemetry :=
  (telemetry.remember key).getD telemetry

theorem remembered_of_mem {telemetry : Telemetry} {key : String}
    (known : key ∈ telemetry.seenMemory.members) : telemetry.remembered key = telemetry := by
  have listed : key ∈ telemetry.seen := known
  unfold remembered remember
  rw [if_pos listed]
  rfl

/-- `_remember` inserts into a memory of the most recent keys. -/
theorem seenMemory_remembered (telemetry : Telemetry) (key : String) :
    (telemetry.remembered key).seenMemory = telemetry.seenMemory.insert maxSeen key := by
  unfold remembered remember Recency.Memory.insert Retention.push seenMemory
  dsimp only
  by_cases known : key ∈ telemetry.seen
  · rw [if_pos known, if_pos known]
    rfl
  · rw [if_neg known, if_neg known, Option.getD_some]
    by_cases full : maxSeen ≤ telemetry.order.length
    · simp only [if_pos full]
      cases telemetry.order <;> rfl
    · simp only [if_neg full]

theorem mem_seen_of_remember {telemetry after : Telemetry} {key other : String}
    (remembered : telemetry.remember key = some after) (member : other ∈ after.seen) :
    other ∈ telemetry.seen ∨ other = key := by
  have memory := telemetry.seenMemory_remembered key
  rw [Telemetry.remembered, remembered, Option.getD_some] at memory
  have members : after.seen = (telemetry.seenMemory.insert maxSeen key).members :=
    congrArg Recency.Memory.members memory
  rw [members] at member
  exact (Finset.mem_insert.mp (Recency.Memory.members_insert_subset _ _ member)).symm

/-- The common part of the two handlers: a terminal status under a new key is
observed. -/
def outcomeSaved (telemetry : Telemetry) (terminal : Bool) (key : String)
    (observation : Observation) : Telemetry :=
  if terminal then
    match telemetry.remember key with
    | some remembered => { remembered with observed := remembered.observed ++ [observation] }
    | none => telemetry
  else telemetry

end Telemetry

/-- `int(max(0.0, seconds) * 1000)` of the time between two timestamps. -/
structure Setting (Number : Type u) where
  console : Console.Setting Number
  durationMs : Nat -> Nat -> Nat

def diagnosticKey (publicId : String) (status : OperationStatus) : String :=
  "diagnostic:" ++ publicId ++ ":" ++ status.text

def releaseKey (operationId : String) (status : ReleaseStatus) : String :=
  "release:" ++ operationId ++ ":" ++ status.text

variable {Number : Type u}

/-- `_diagnostic_saved` -/
def diagnosticSaved (setting : Setting Number) (updatedAt : Nat) (row : OperationRow)
    (status : OperationStatus) (telemetry : Telemetry) : Telemetry :=
  telemetry.outcomeSaved (!status.active) (diagnosticKey row.publicId status)
    { component := "controlplane", kind := "diagnostic", outcome := status.text
      durationMs := setting.durationMs row.createdAt updatedAt
      correlation := row.publicId, project := row.project }

/-- `_release_saved` -/
def releaseSaved (setting : Setting Number) (updatedAt : Nat) (row : ReleaseRow)
    (telemetry : Telemetry) : Telemetry :=
  telemetry.outcomeSaved (!row.release.status.active)
    (releaseKey row.release.operationId row.release.status)
    { component := "controlplane", kind := "kubernetes_release", outcome := row.release.status.text
      durationMs := setting.durationMs row.createdAt updatedAt
      correlation := row.release.operationId, project := row.project }

/-- The signals of a statement.  A saved instance carries the columns of the row
and the status that it has just been given. -/
def signal (setting : Setting Number) (updatedAt : Nat) (database : Database)
    (statement : Option Statement) (telemetry : Telemetry) : Telemetry :=
  match statement with
  | some (.createOperation row) =>
      diagnosticSaved setting updatedAt row row.operation.status telemetry
  | some (.saveOperation pk status _) =>
      match database.operation? pk with
      | some row => diagnosticSaved setting updatedAt row status telemetry
      | none => telemetry
  | some (.createRelease row) => releaseSaved setting updatedAt row telemetry
  | _ => telemetry

/-! ## Outcomes that rows enter -/

/-- A row that enters a terminal status. -/
inductive Entry
  | diagnostic (publicId : String) (status : OperationStatus)
  | release (operationId : String) (status : ReleaseStatus)
  deriving DecidableEq

/-- The observation is about the entry. -/
def Entry.describes : Entry -> Observation -> Bool
  | .diagnostic publicId status, observation =>
      decide (observation.kind = "diagnostic" ∧ observation.correlation = publicId ∧
        observation.outcome = status.text)
  | .release operationId status, observation =>
      decide (observation.kind = "kubernetes_release" ∧ observation.correlation = operationId ∧
        observation.outcome = status.text)

/-- The terminal statuses that rows have after a statement and not before it. -/
def entries (before after : Database) : List Entry :=
  (after.operations.filterMap fun row =>
    if !row.operation.status.active &&
        decide ((before.operation? row.pk).map (fun earlier => earlier.operation.status) ≠
          some row.operation.status) then
      some (.diagnostic row.publicId row.operation.status)
    else none) ++
  after.releases.filterMap fun row =>
    if !row.release.status.active &&
        decide ((before.release? row.pk).map (fun earlier => earlier.release.status) ≠
          some row.release.status) then
      some (.release row.release.operationId row.release.status)
    else none

/-- The console with its database, the telemetry that its signals feed, and the terminal
statuses that rows have entered so far. -/
structure State where
  console : Console.State
  telemetry : Telemetry
  entered : List Entry

/-- A step of a call at a time of the clock. -/
structure Action (Number : Type u) where
  number : Nat
  input : Console.Input Number
  now : Nat

/-- The statement of a step. -/
def statement? (setting : Setting Number) (state : State) (action : Action Number) :
    Option Statement :=
  (Console.advance setting.console state.console.database (state.console.calls action.number)
    action.input).bind Prod.fst

/-- A step of the console, whose signals are handled by the thread of the call. -/
def step (setting : Setting Number) (state : State) (action : Action Number) : Option State :=
  (Console.step setting.console state.console (action.number, action.input)).map fun console =>
    { console := console
      telemetry := signal setting action.now state.console.database
        (statement? setting state action) state.telemetry
      entered := state.entered ++ entries state.console.database console.database }

def machine (setting : Setting Number) : Transition.Machine State (Action Number) where
  initial := fun state =>
    Console.Starts (fun _ => True) state.console ∧ state.telemetry = .empty ∧ state.entered = []
  step := step setting

/-- Every terminal status that a row has entered has been observed once: it was neither
missed nor counted again when the row was saved again. -/
def RecordedOnce (state : State) : Prop :=
  forall entry, entry ∈ state.entered -> state.telemetry.observed.countP entry.describes = 1

/-- The statement is a `QuerySet.update`. -/
def isUpdate : Option Statement -> Bool
  | some (.updateOperation _ _) => true
  | some (.updateRelease _ _) => true
  | _ => false

/-- No `QuerySet.update` gives a row a terminal status. -/
def UpdatesStayActive (setting : Setting Number) (state : State) (action : Action Number) : Prop :=
  isUpdate (statement? setting state action) = true ->
    entries state.console.database
      (Console.State.execute state.console.database (statement? setting state action)) = []

instance (setting : Setting Number) (state : State) (action : Action Number) :
    Decidable (UpdatesStayActive setting state action) :=
  inferInstanceAs (Decidable (_ -> _))

/-! ## What a statement adds -/

section Entries

variable {before after : Database}

/-- Rows that were there before, and new rows that are active, enter nothing. -/
theorem entries_eq_nil (consistent : before.Consistent)
    (operations : forall row, row ∈ after.operations ->
      row ∈ before.operations ∨ row.operation.status.active = true)
    (releases : forall row, row ∈ after.releases ->
      row ∈ before.releases ∨ row.release.status.active = true) :
    entries before after = [] := by
  unfold entries
  rw [List.append_eq_nil_iff]
  constructor
  · refine List.filterMap_eq_nil_iff.mpr fun row listed => ?_
    rcases operations row listed with known | active
    · rw [Database.operation?_of_mem consistent known]
      simp
    · rw [active]
      rfl
  · refine List.filterMap_eq_nil_iff.mpr fun row listed => ?_
    rcases releases row listed with known | active
    · rw [Database.release?_of_mem consistent known]
      simp
    · rw [active]
      rfl

/-- A save gives its row the status that it saves. -/
theorem mem_entries_save (consistent : before.Consistent) {pk : Nat} {status : OperationStatus}
    {errorCode : String} {row : OperationRow} (present : before.operation? pk = some row)
    {entry : Entry}
    (listed : entry ∈ entries before (before.execute (.saveOperation pk status errorCode))) :
    status.active = false ∧ entry = .diagnostic row.publicId status := by
  unfold entries at listed
  rcases List.mem_append.mp listed with own | other
  · rcases List.mem_filterMap.mp own with ⟨later, written, found⟩
    rcases Table.mem_update.mp written with ⟨earlier, known, same, rfl⟩ | ⟨known, _⟩
    · have unique : earlier = row := by
        have first := Database.operation?_of_mem consistent known
        rw [same, present] at first
        exact (Option.some.inj first).symm
      subst unique
      split at found
      · rename_i entered
        rw [Bool.and_eq_true, Bool.not_eq_true'] at entered
        exact ⟨entered.1, (Option.some.inj found).symm⟩
      · cases found
    · rw [Database.operation?_of_mem consistent known] at found
      simp at found
  · rcases List.mem_filterMap.mp other with ⟨later, known, found⟩
    rw [Database.release?_of_mem consistent known] at found
    simp at found

end Entries

/-! ## Names that have been heard of -/

theorem colon_text (status : OperationStatus) : forall char, char ∈ status.text.toList.reverse ->
    char ≠ ':' := by
  cases status <;> simp [OperationStatus.text]

/-- The key of a diagnostic names it. -/
theorem diagnosticKey_inj {first second : String} {left right : OperationStatus}
    (same : diagnosticKey first left = diagnosticKey second right) : first = second := by
  have texts := congrArg String.toList same
  unfold diagnosticKey at texts
  simp only [String.toList_append, List.append_assoc] at texts
  have behind := List.append_cancel_left texts
  have mirrored := congrArg List.reverse behind
  have colon : ":".toList = [':'] := by decide
  simp only [colon, List.reverse_append, List.singleton_append, List.reverse_cons,
    List.append_assoc] at mirrored
  have cut := (PrefixCode.run_cancel (colon_text left) (colon_text right)
    (not_not.mpr rfl) (not_not.mpr rfl) mirrored).2
  exact String.toList_inj.mp (List.reverse_injective (List.cons.inj cut).2)

/-- Neither the telemetry nor the log has heard of the diagnostic. -/
structure Unheard (telemetry : Telemetry) (entered : List Entry) (publicId : String) : Prop where
  entered : forall status, .diagnostic publicId status ∉ entered
  observed : forall observation, observation ∈ telemetry.observed ->
    observation.correlation ≠ publicId
  seen : forall status, diagnosticKey publicId status ∉ telemetry.seen

/-- The operation that a call of `start` has created and may still save. -/
def starting? : Console.Phase -> Option Nat
  | .asking operation _ => some operation
  | .starting operation _ => some operation
  | .saving operation _ _ _ => some operation
  | _ => none

/-- What every run keeps whose updates leave rows active: only diagnostics have
been heard of, only by names that have been drawn, and none that its own call
may still save. -/
structure Sound (state : State) : Prop where
  once : RecordedOnce state
  logged : forall entry, entry ∈ state.entered -> Exists fun publicId : String =>
    Exists fun status : OperationStatus => entry = .diagnostic publicId status
  drawn : forall publicId, publicId ∉ state.console.drawn ->
    Unheard state.telemetry state.entered publicId
  named : forall row, row ∈ state.console.database.operations ->
    row.publicId ∈ state.console.drawn
  distinct : (state.console.database.operations.map OperationRow.publicId).Nodup
  given : forall number pk, starting? (state.console.calls number).phase = some pk ->
    pk < state.console.database.operationSequence
  apart : forall first second pk, starting? (state.console.calls first).phase = some pk ->
    starting? (state.console.calls second).phase = some pk -> first = second
  unheard : forall number pk row, starting? (state.console.calls number).phase = some pk ->
    row ∈ state.console.database.operations -> row.pk = pk ->
      Unheard state.telemetry state.entered row.publicId

/-! ## The steps, as the telemetry hears them -/

/-- The statement sends no signal of a terminal status, it is an update or lets
no row enter one, and it creates no operation. -/
structure Silent (setting : Setting Number) (database : Database) (statement : Option Statement) :
    Prop where
  signal : forall now telemetry, signal setting now database statement telemetry = telemetry
  entries : isUpdate statement = true ∨
    entries database (Console.State.execute database statement) = []
  rows : forall row, row ∈ (Console.State.execute database statement).operations ->
    Exists fun earlier : OperationRow => earlier ∈ database.operations ∧ earlier.pk = row.pk ∧
      earlier.publicId = row.publicId
  names : ((Console.State.execute database statement).operations.map OperationRow.publicId).Sublist
    (database.operations.map OperationRow.publicId)
  sequence : (Console.State.execute database statement).operationSequence =
    database.operationSequence

section Silence

variable {setting : Setting Number} {database : Database}

/-- Statements on the other tables. -/
theorem silent_of_operations (consistent : database.Consistent) {statement : Option Statement}
    (signal : forall now telemetry, signal setting now database statement telemetry = telemetry)
    (operations : (Console.State.execute database statement).operations = database.operations)
    (sequence : (Console.State.execute database statement).operationSequence =
      database.operationSequence)
    (releases : isUpdate statement = true ∨
      forall row, row ∈ (Console.State.execute database statement).releases ->
        row ∈ database.releases ∨ row.release.status.active = true) :
    Silent setting database statement := by
  refine ⟨signal, releases.imp_right fun known => ?_, fun row listed => ?_, ?_, sequence⟩
  · exact entries_eq_nil consistent (fun row listed => .inl (operations ▸ listed)) known
  · exact ⟨row, operations ▸ listed, rfl, rfl⟩
  · rw [operations]

theorem rows_updateOperation {pk : Nat} {change : DiagnosticOperation -> DiagnosticOperation}
    {row : OperationRow} (listed : row ∈ (database.updateOperation pk change).operations) :
    Exists fun earlier : OperationRow => earlier ∈ database.operations ∧ earlier.pk = row.pk ∧
      earlier.publicId = row.publicId := by
  rcases Table.mem_update.mp listed with ⟨earlier, known, _, rfl⟩ | ⟨known, _⟩
  · exact ⟨earlier, known, rfl, rfl⟩
  · exact ⟨row, known, rfl, rfl⟩

theorem names_updateOperation (pk : Nat) (change : DiagnosticOperation -> DiagnosticOperation) :
    (database.updateOperation pk change).operations.map OperationRow.publicId =
      database.operations.map OperationRow.publicId := by
  unfold Database.updateOperation Table.update
  rw [List.map_map]
  refine List.map_congr_left fun row _ => ?_
  rw [Function.comp_apply]
  split <;> rfl

theorem silent_updateOperation (pk : Nat) (change : DiagnosticOperation -> DiagnosticOperation) :
    Silent setting database (some (.updateOperation pk change)) := by
  have names : (database.updateOperation pk change).operations.map OperationRow.publicId =
      database.operations.map OperationRow.publicId := names_updateOperation pk change
  exact ⟨fun _ _ => rfl, .inl rfl, fun _ listed => rows_updateOperation listed,
    names ▸ .refl _, rfl⟩

theorem silent_deleteOperations (consistent : database.Consistent) (pks : List Nat) :
    Silent setting database (some (.deleteOperations pks)) := by
  refine ⟨fun _ _ => rfl, .inr ?_, fun row listed => ?_, ?_, rfl⟩
  · refine entries_eq_nil consistent (fun row listed => .inl ?_) fun row listed => .inl listed
    exact List.mem_of_mem_filter listed
  · exact ⟨row, List.mem_of_mem_filter listed, rfl, rfl⟩
  · exact List.filter_sublist.map OperationRow.publicId

theorem silent_none (setting : Setting Number) (consistent : database.Consistent) :
    Silent setting database none :=
  silent_of_operations consistent (fun _ _ => rfl) rfl rfl (.inr fun _ listed => .inl listed)

theorem silent_createRelease (consistent : database.Consistent) {row : ReleaseRow}
    (active : row.release.status.active = true) :
    Silent setting database (some (.createRelease row)) := by
  refine silent_of_operations consistent (fun now telemetry => ?_) rfl rfl (.inr ?_)
  · simp only [signal]
    unfold releaseSaved Telemetry.outcomeSaved
    rw [active]
    rfl
  · intro other listed
    rcases List.mem_cons.mp listed with rfl | known
    · exact .inr active
    · exact .inl known

end Silence

/-- The moves of the console: a diagnostic is created, or saved by its own
call, or nothing is heard. -/
inductive Heard (setting : Setting Number) (database : Database) (call : Console.Call) :
    Console.Input Number -> Option Statement -> Console.Call -> Prop
  | silent (input : Console.Input Number) (statement : Option Statement) (after : Console.Call)
      (quiet : Silent setting database statement)
      (kept : forall pk, starting? after.phase = some pk -> starting? call.phase = some pk) :
      Heard setting database call input statement after
  | created (user : Nat) (mutation : Console.Mutation Number) (drawn : Console.Drawn)
      (agent : AgentRegistration) (diagnostic : String) :
      Heard setting database call (.issue user mutation drawn)
        (some (.createOperation (Console.newOperation database user agent diagnostic drawn)))
        ⟨user, .asking database.operationSequence agent.project, none⟩
  | saved (operation project : Nat) (status : OperationStatus) (errorCode : String)
      (row : OperationRow) (saving : call.phase = .saving operation project status errorCode)
      (present : database.operation? operation = some row) :
      Heard setting database call .proceed (some (.saveOperation operation status errorCode))
        { call with phase := .trimming operation project }

theorem heard_of_move {setting : Setting Number} {database : Database}
    {call after : Console.Call} {input : Console.Input Number} {statement : Option Statement}
    (consistent : database.Consistent)
    (move : Console.Move setting.console database call input statement after) :
    Heard setting database call input statement after := by
  have quiet := silent_none setting consistent
  cases move with
  | issued user mutation drawn effect idle resolved =>
      cases resolved with
      | created projectId agentId diagnostic agent member => exact .created _ _ _ agent diagnostic
      | _ => exact .silent _ _ _ quiet fun pk starting => by cases starting
  | opened target agentId intent drawn effect opening transaction =>
      cases transaction with
      | created locked found =>
          exact .silent _ _ _ (silent_createRelease consistent rfl) fun pk starting => by
            cases starting
      | reopened locked row found listed own settled =>
          exact .silent _ _ _ (silent_of_operations consistent (fun _ _ => rfl) rfl rfl (.inl rfl))
            fun pk starting => by cases starting
      | _ => exact .silent _ _ _ quiet fun pk starting => by cases starting
  | saved operation project status errorCode row saving present =>
      exact .saved operation project status errorCode row saving present
  | consumed operation write scheduled =>
      exact .silent _ _ _ (silent_updateOperation _ _) fun pk starting => starting
  | updated operation status errorCode answer updating =>
      exact .silent _ _ _ (silent_updateOperation _ _) fun pk starting => by cases starting
  | trimmed operation stale deleting =>
      exact .silent _ _ _ (silent_deleteOperations consistent _) fun pk starting => by cases starting
  | releaseRecorded | releaseUnavailable | releaseClosed =>
      exact .silent _ _ _ (silent_of_operations consistent (fun _ _ => rfl) rfl rfl (.inl rfl))
        fun pk starting => by cases starting
  | targetCreated | targetStored | targetRemoved =>
      exact .silent _ _ _ (silent_of_operations consistent (fun _ _ => rfl) rfl rfl
        (.inr fun _ listed => .inl listed)) fun pk starting => by cases starting
  | online operation project phase | offline operation project phase
  | overloaded operation project message phase =>
      exact .silent _ _ _ quiet fun pk starting => by rw [phase]; exact starting
  | _ => exact .silent _ _ _ quiet fun pk starting => by cases starting

section Save

variable {setting : Setting Number} {telemetry : Telemetry} {entered more : List Entry}
  {row : OperationRow} {status : OperationStatus} {now : Nat}

/-- What a save adds when nothing has been heard of its row. -/
theorem diagnosticSaved_unheard (setting : Setting Number) (now : Nat)
    (unheard : Unheard telemetry entered row.publicId)
    (terminal : status.active = false) :
    Exists fun observation : Observation =>
      (diagnosticSaved setting now row status telemetry).observed =
          telemetry.observed ++ [observation] ∧
        observation.correlation = row.publicId ∧
        (Entry.diagnostic row.publicId status).describes observation = true ∧
        forall key, key ∈ (diagnosticSaved setting now row status telemetry).seen ->
          key ∈ telemetry.seen ∨ key = diagnosticKey row.publicId status := by
  have fresh : telemetry.remember (diagnosticKey row.publicId status) = some _ :=
    if_neg (unheard.seen status)
  unfold diagnosticSaved Telemetry.outcomeSaved
  rw [terminal, fresh]
  exact ⟨_, rfl, rfl, decide_eq_true ⟨rfl, rfl, rfl⟩,
    fun key known => Telemetry.mem_seen_of_remember fresh known⟩

theorem diagnosticSaved_active (active : status.active = true) :
    diagnosticSaved setting now row status telemetry = telemetry := by
  unfold diagnosticSaved Telemetry.outcomeSaved
  rw [active]
  rfl

theorem Unheard.saved {publicId : String} (unheard : Unheard telemetry entered publicId)
    (own : Unheard telemetry entered row.publicId) (different : publicId ≠ row.publicId)
    (added : forall entry, entry ∈ more -> entry = .diagnostic row.publicId status) :
    Unheard (diagnosticSaved setting now row status telemetry) (entered ++ more) publicId := by
  have fresh : forall other, .diagnostic publicId other ∉ entered ++ more := by
    intro other listed
    rcases List.mem_append.mp listed with earlier | new
    · exact unheard.entered other earlier
    · have same := added _ new
      injection same with names
      exact different names
  cases active : status.active with
  | true =>
      rw [diagnosticSaved_active active]
      exact ⟨fresh, unheard.observed, unheard.seen⟩
  | false =>
      rcases diagnosticSaved_unheard setting now own active with
        ⟨observation, observed, correlation, _, seen⟩
      refine ⟨fresh, fun other listed => ?_, fun other known => ?_⟩
      · rw [observed] at listed
        rcases List.mem_append.mp listed with earlier | new
        · exact unheard.observed other earlier
        · rw [List.mem_singleton.mp new, correlation]
          exact different.symm
      · rcases seen _ known with earlier | same
        · exact unheard.seen other earlier
        · exact different (diagnosticKey_inj same)

theorem recordedOnce_saved (once : forall entry, entry ∈ entered ->
      telemetry.observed.countP entry.describes = 1)
    (logged : forall entry, entry ∈ entered -> Exists fun publicId : String =>
      Exists fun status : OperationStatus => entry = .diagnostic publicId status)
    (own : Unheard telemetry entered row.publicId)
    (added : forall entry, entry ∈ more ->
      status.active = false ∧ entry = .diagnostic row.publicId status)
    (entry : Entry) (listed : entry ∈ entered ++ more) :
    (diagnosticSaved setting now row status telemetry).observed.countP entry.describes = 1 := by
  cases active : status.active with
  | true =>
      rw [diagnosticSaved_active active]
      rcases List.mem_append.mp listed with earlier | new
      · exact once entry earlier
      · rw [(added entry new).1] at active
        cases active
  | false =>
      rcases diagnosticSaved_unheard setting now own active with
        ⟨observation, observed, correlation, describes, _⟩
      rw [observed, List.countP_append]
      rcases List.mem_append.mp listed with earlier | new
      · rcases logged entry earlier with ⟨publicId, other, rfl⟩
        have silent : (Entry.diagnostic publicId other).describes observation = false := by
          refine decide_eq_false fun same => own.entered other ?_
          rw [← correlation, same.2.1]
          exact earlier
        rw [once _ earlier, List.countP_singleton, silent]
        rfl
      · rw [(added entry new).2, List.countP_singleton, describes]
        have unobserved : telemetry.observed.countP
            (Entry.diagnostic row.publicId status).describes = 0 := by
          refine List.countP_eq_zero.mpr fun other known described => ?_
          exact own.observed other known (of_decide_eq_true described).2.1
        rw [unobserved]
        rfl

end Save

section Steps

variable {setting : Setting Number} {before : State} {number : Nat} {call : Console.Call}

theorem Sound.silent (sound : Sound before) {statement : Option Statement}
    (quiet : Silent setting before.console.database statement)
    (kept : forall pk, starting? call.phase = some pk ->
      starting? (before.console.calls number).phase = some pk) (draws : List String) :
    Sound
      { before with
        console :=
          { database := Console.State.execute before.console.database statement
            calls := Function.update before.console.calls number call
            drawn := draws ++ before.console.drawn } } := by
  have earlier : forall other pk,
      starting? ((Function.update before.console.calls number call) other).phase = some pk ->
        starting? (before.console.calls other).phase = some pk := by
    intro other pk known
    by_cases own : other = number
    · subst own
      rw [Function.update_self] at known
      exact kept pk known
    · rw [Function.update_of_ne own] at known
      exact known
  refine ⟨sound.once, sound.logged, ?_, ?_, sound.distinct.sublist quiet.names, ?_, ?_, ?_⟩
  · exact fun publicId undrawn =>
      sound.drawn publicId fun known => undrawn (List.mem_append_right _ known)
  · intro row listed
    rcases quiet.rows row listed with ⟨old, known, _, same⟩
    exact List.mem_append_right _ (same ▸ sound.named old known)
  · intro other pk known
    dsimp only
    rw [quiet.sequence]
    exact sound.given other pk (earlier other pk known)
  · exact fun first second pk left right =>
      sound.apart first second pk (earlier first pk left) (earlier second pk right)
  · intro other pk row known listed same
    rcases quiet.rows row listed with ⟨old, present, key, name⟩
    rw [← name]
    exact sound.unheard other pk old (earlier other pk known) present (key.trans same)

theorem Sound.created (consistent : before.console.database.Consistent) (sound : Sound before)
    {user project : Nat} {drawn : Console.Drawn} {agent : AgentRegistration} {diagnostic : String}
    (fresh : drawn.publicId ∉ before.console.drawn) {draws : List String}
    (draw : drawn.publicId ∈ draws) :
    Sound
      { before with
        console :=
          { database := before.console.database.execute (.createOperation
              (Console.newOperation before.console.database user agent diagnostic drawn))
            calls := Function.update before.console.calls number
              ⟨user, .asking before.console.database.operationSequence project, none⟩
            drawn := draws ++ before.console.drawn } } := by
  have starts : forall other pk,
      starting? ((Function.update before.console.calls number
          ⟨user, .asking before.console.database.operationSequence project, none⟩) other).phase =
        some pk ->
      (other = number ∧ pk = before.console.database.operationSequence) ∨
        (other ≠ number ∧ starting? (before.console.calls other).phase = some pk) := by
    intro other pk known
    by_cases own : other = number
    · subst own
      rw [Function.update_self] at known
      exact .inl ⟨rfl, (Option.some.inj known).symm⟩
    · rw [Function.update_of_ne own] at known
      exact .inr ⟨own, known⟩
  refine ⟨sound.once, sound.logged, ?_, ?_, ?_, ?_, ?_, ?_⟩
  · exact fun publicId undrawn =>
      sound.drawn publicId fun known => undrawn (List.mem_append_right _ known)
  · intro row listed
    rcases List.mem_cons.mp listed with rfl | known
    · exact List.mem_append_left _ draw
    · exact List.mem_append_right _ (sound.named row known)
  · refine List.nodup_cons.mpr ⟨fun listed => ?_, sound.distinct⟩
    rcases List.mem_map.mp listed with ⟨row, known, same⟩
    have named := sound.named row known
    rw [same] at named
    exact fresh named
  · intro other pk known
    change pk < before.console.database.operationSequence + 1
    rcases starts other pk known with ⟨_, rfl⟩ | ⟨_, earlier⟩
    · exact Nat.lt_succ_self _
    · have smaller := sound.given other pk earlier
      omega
  · intro first second pk left right
    rcases starts first pk left with ⟨ownFirst, numbered⟩ | ⟨_, earlierFirst⟩
    · rcases starts second pk right with ⟨ownSecond, _⟩ | ⟨_, earlierSecond⟩
      · rw [ownFirst, ownSecond]
      · have smaller := sound.given second pk earlierSecond
        omega
    · rcases starts second pk right with ⟨_, numbered⟩ | ⟨_, earlierSecond⟩
      · have smaller := sound.given first pk earlierFirst
        omega
      · exact sound.apart first second pk earlierFirst earlierSecond
  · intro other pk row known listed same
    rcases List.mem_cons.mp listed with rfl | present
    · exact sound.drawn drawn.publicId fresh
    · have smaller := consistent.operations.below row present
      rcases starts other pk known with ⟨_, numbered⟩ | ⟨_, earlier⟩
      · omega
      · exact sound.unheard other pk row earlier present same

theorem Sound.saved (consistent : before.console.database.Consistent) (sound : Sound before)
    {operation project : Nat} {status : OperationStatus} {errorCode : String} {row : OperationRow}
    (saving : (before.console.calls number).phase = .saving operation project status errorCode)
    (present : before.console.database.operation? operation = some row)
    (ended : starting? call.phase = none) (now : Nat) :
    Sound
      { console :=
          { database := before.console.database.execute (.saveOperation operation status errorCode)
            calls := Function.update before.console.calls number call
            drawn := before.console.drawn }
        telemetry := diagnosticSaved setting now row status before.telemetry
        entered := before.entered ++ entries before.console.database
          (before.console.database.execute (.saveOperation operation status errorCode)) } := by
  have starting : starting? (before.console.calls number).phase = some operation := by
    rw [saving]
    rfl
  have listed := List.mem_of_find?_eq_some present
  have key : row.pk = operation := of_decide_eq_true (List.find?_some present :)
  have own := sound.unheard number operation row starting listed key
  have added : forall entry, entry ∈ entries before.console.database
      (before.console.database.execute (.saveOperation operation status errorCode)) ->
        status.active = false ∧ entry = .diagnostic row.publicId status :=
    fun entry => mem_entries_save consistent present
  have earlier : forall other pk,
      starting? ((Function.update before.console.calls number call) other).phase = some pk ->
        other ≠ number ∧ starting? (before.console.calls other).phase = some pk := by
    intro other pk known
    by_cases same : other = number
    · subst same
      rw [Function.update_self, ended] at known
      cases known
    · rw [Function.update_of_ne same] at known
      exact ⟨same, known⟩
  refine ⟨?_, ?_, ?_, ?_, ?_, ?_, ?_, ?_⟩
  · exact recordedOnce_saved sound.once sound.logged own added
  · intro entry known
    rcases List.mem_append.mp known with old | new
    · exact sound.logged entry old
    · exact ⟨_, _, (added entry new).2⟩
  · intro publicId undrawn
    refine (sound.drawn publicId undrawn).saved own ?_ fun entry new => (added entry new).2
    rintro rfl
    exact undrawn (sound.named row listed)
  · intro other known
    rcases rows_updateOperation known with ⟨old, oldKnown, _, same⟩
    exact same ▸ sound.named old oldKnown
  · have names : (before.console.database.updateOperation operation fun current =>
        { current with status := status, errorCode := errorCode }).operations.map
          OperationRow.publicId = before.console.database.operations.map OperationRow.publicId :=
      names_updateOperation operation _
    exact names.symm ▸ sound.distinct
  · exact fun other pk known => sound.given other pk (earlier other pk known).2
  · exact fun first second pk left right =>
      sound.apart first second pk (earlier first pk left).2 (earlier second pk right).2
  · intro other pk later known laterListed same
    rcases earlier other pk known with ⟨different, old⟩
    rcases rows_updateOperation laterListed with ⟨source, sourceListed, sourceKey, name⟩
    rw [← name]
    have unheard := sound.unheard other pk source old sourceListed (sourceKey.trans same)
    refine unheard.saved own (fun names => different ?_) fun entry new => (added entry new).2
    have rows := List.inj_on_of_nodup_map sound.distinct sourceListed listed names
    refine sound.apart other number operation ?_ starting
    rw [old, ← same, ← sourceKey, rows, key]

end Steps

theorem Sound.step {setting : Setting Number} {before after : State} {action : Action Number}
    (consistent : before.console.database.Consistent) (sound : Sound before)
    (allowed : UpdatesStayActive setting before action)
    (stepped : Observability.step setting before action = some after) : Sound after := by
  rcases action with ⟨number, input, now⟩
  unfold Observability.step at stepped
  rcases Option.map_eq_some_iff.mp stepped with ⟨console, moved, rfl⟩
  rcases Console.step_advance moved with ⟨fresh, statement, call, advanced, rfl⟩
  have executed : statement? setting before ⟨number, input, now⟩ = statement := by
    unfold statement?
    dsimp only
    rw [advanced]
    rfl
  unfold UpdatesStayActive at allowed
  rw [executed] at allowed ⊢
  have heard := heard_of_move consistent (Console.advance_move advanced)
  cases heard with
  | silent _ _ _ quiet kept =>
      have nothing : entries before.console.database
          (Console.State.execute before.console.database statement) = [] :=
        quiet.entries.elim allowed id
      dsimp only
      rw [quiet.signal, nothing, List.append_nil]
      exact sound.silent quiet kept _
  | created user mutation drawn agent diagnostic =>
      have active : signal setting now before.console.database (some (.createOperation
          (Console.newOperation before.console.database user agent diagnostic drawn)))
            before.telemetry = before.telemetry := diagnosticSaved_active rfl
      have nothing : entries before.console.database (before.console.database.execute
          (.createOperation
            (Console.newOperation before.console.database user agent diagnostic drawn))) = [] := by
        refine entries_eq_nil consistent (fun row listed => ?_) fun row listed => .inl listed
        rcases List.mem_cons.mp listed with rfl | known
        · exact .inr rfl
        · exact .inl known
      dsimp only [Console.State.execute]
      rw [active, nothing, List.append_nil]
      exact sound.created consistent (fresh _ (.head _)) (.head _)
  | saved operation project status errorCode row saving present =>
      have heardSave : signal setting now before.console.database
          (some (.saveOperation operation status errorCode)) before.telemetry =
            diagnosticSaved setting now row status before.telemetry := by
        simp only [signal, present]
      dsimp only [Console.State.execute]
      rw [heardSave]
      exact sound.saved consistent saving present rfl now

/-- The database of a run keeps its constraints. -/
def State.Consistent (state : State) : Prop := state.console.database.Consistent

theorem consistent_of_reachable {setting : Setting Number}
    {guard : State -> Action Number -> Prop} {state : State}
    (reached : (machine setting).ReachableUnder guard state) : state.Consistent := by
  refine reached.invariant ?_ ?_
  · intro start starts
    exact starts.1.consistent
  · intro before action after _ consistent _ stepped
    unfold machine step at stepped
    rcases Option.map_eq_some_iff.mp stepped with ⟨console, moved, rfl⟩
    rcases Console.step_move moved with ⟨_, statement, call, move, rfl⟩
    exact Console.consistent_of_move consistent move

theorem sound_of_starts {state : State} (console : Console.Starts (fun _ => True) state.console)
    (telemetry : state.telemetry = .empty) (entered : state.entered = []) : Sound state := by
  have unheard : forall publicId, Unheard state.telemetry state.entered publicId := by
    intro publicId
    rw [telemetry, entered]
    exact ⟨fun _ => List.not_mem_nil, fun _ listed => absurd listed List.not_mem_nil,
      fun _ => Finset.notMem_empty _⟩
  have idle : forall number pk, starting? (state.console.calls number).phase ≠ some pk := by
    intro number pk known
    rw [console.idle] at known
    cases known
  refine ⟨?_, ?_, fun publicId _ => unheard publicId, console.operationsDrawn,
    console.operationNames, fun number pk known => absurd known (idle number pk),
    fun number _ pk known => absurd known (idle number pk), fun _ _ row _ _ _ => unheard _⟩
  · intro entry listed
    rw [entered] at listed
    exact absurd listed List.not_mem_nil
  · intro entry listed
    rw [entered] at listed
    exact absurd listed List.not_mem_nil

/-- In a run whose updates leave rows active, every terminal status that a row
enters is observed exactly once, for as long as the run goes on.  An update by a
query sends no signal, so a status that is written by one is not observed; a row
that is saved again under the same status is recognised. -/
theorem terminal_outcomes_once (setting : Setting Number) {state : State}
    (reached : (machine setting).ReachableUnder (UpdatesStayActive setting) state) :
    RecordedOnce state := by
  have sound : Sound state := by
    refine reached.invariant ?_ ?_
    · rintro start ⟨console, telemetry, entered⟩
      exact sound_of_starts console telemetry entered
    · intro before action after earlier sound allowed stepped
      exact sound.step (consistent_of_reachable earlier) allowed stepped
  exact sound.once

/-! ## A success that nobody hears of -/

def sampleSetting : Setting Int where
  console := Console.sampleSetting
  durationMs := fun created updated => updated - created

def sampleState : State := ⟨Console.sampleState, .empty, []⟩

theorem sampleState_starts : (machine sampleSetting).initial sampleState :=
  ⟨Console.starts_of_empty rfl rfl rfl trivial, rfl, rfl⟩

def startDiagnostic : Action Int :=
  ⟨0, .issue 7 (.startDiagnostic "1" "1" "django_health") ⟨"a", "b", 0⟩, 0⟩

/-- The diagnostic is scheduled, and its task writes the result of the agent. -/
def successfulDiagnostic : List (Action Int) :=
  [startDiagnostic, ⟨0, .connected true, 1⟩, ⟨0, .started .scheduled, 2⟩,
    ⟨0, .consume .setRunning, 3⟩, ⟨0, .consume (.saveResult "succeeded" []), 4⟩]

theorem success_not_observed :
    Exists fun state : State => (machine sampleSetting).Reachable state ∧
      Entry.diagnostic "a" .succeeded ∈ state.entered ∧
        state.telemetry.observed = [] ∧ ¬ RecordedOnce state := by
  rcases (machine sampleSetting).exists_reachableUnder_of_replay (fun _ _ => True)
      successfulDiagnostic sampleState sampleState_starts
      (fun state => decide (Entry.diagnostic "a" .succeeded ∈ state.entered ∧
        state.telemetry.observed = [])) (by decide +kernel) with ⟨state, reached, tested⟩
  have heard := of_decide_eq_true tested
  refine ⟨state, reached, heard.1, heard.2, fun once => ?_⟩
  have counted := once _ heard.1
  rw [heard.2] at counted
  cases counted

/-- The agent is offline, and `start` saves the row itself. -/
def offlineDiagnostic : List (Action Int) :=
  [startDiagnostic, ⟨0, .connected false, 1⟩, ⟨0, .proceed, 2⟩]

theorem terminal_outcomes_once_offline :
    Exists fun state : State => RecordedOnce state ∧ state.entered = [.diagnostic "a" .offline] := by
  rcases (machine sampleSetting).exists_reachableUnder_of_replay (UpdatesStayActive sampleSetting)
      offlineDiagnostic sampleState sampleState_starts
      (fun state => decide (state.entered = [.diagnostic "a" .offline])) (by decide +kernel) with
    ⟨state, reached, tested⟩
  exact ⟨state, terminal_outcomes_once sampleSetting reached, of_decide_eq_true tested⟩

end Observability
end ControlPlane
end DjangoOps
