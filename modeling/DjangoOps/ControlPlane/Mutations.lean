import DjangoOps.ControlPlane.Console

namespace DjangoOps
namespace ControlPlane

open Protocol Gateway OperationsService

universe u

namespace Console

variable {Number : Type u}

/-!
# The calls of the console

A call is at rest between two of its statements, or while it waits for the
gateway.  What the gateway answers is an input of the step that goes on.
-/

/-- The mutations with their arguments; the values of a release are those that
`_release_values` returns. -/
inductive Mutation (Number : Type u)
  | startDiagnostic (projectId agentId diagnostic : String)
  | cancelDiagnostic (operationId : String)
  | registerKubernetesTarget (projectId agentId : String) (arguments : TargetArguments)
  | startKubernetesRelease (targetId : String) (arguments : Arguments Number)
  | cancelKubernetesRelease (releaseId : String)

/-- Where a call stands.  The first five phases after `idle` are those of
`OperationsService.start`, then come those of `OperationsService.cancel`,
`register_target`, `start_release` and `cancel_release`.  `registered` is the
end of `register_target`, with the key of the row that it has created. -/
inductive Phase
  | idle
  | asking (operation project : Nat)
  | starting (operation project : Nat)
  | saving (operation project : Nat) (status : OperationStatus) (errorCode : String)
  | trimming (operation project : Nat)
  | deleting (operation : Nat) (stale : List Nat)
  | refreshing (operation : Nat)
  | cancelling (operation : Nat)
  | updating (operation : Nat) (status : OperationStatus) (errorCode : String)
  | creating (fields : TargetFields)
  | validating (target : Nat)
  | storing (target : Nat) (validation : TargetValidation)
  | removing (target : Nat)
  | registered (created : Option Nat) (outcome : Except ServiceError Nat)
  | opening (target : TargetRow) (agentId : String) (intent : Intent)
  | dispatching (row : ReleaseRow) (agentId : String) (request : KubernetesReleaseRequest)
  | refreshingRelease (release : Nat)
  | cancellingRelease (release : Nat)
  | closing (release : Nat) (accepted : Bool)
  | ended (answer : Answer)

/-- The writes of `_consume`. -/
inductive ConsumerWrite
  | setRunning
  | saveProgress (phase message : String)
  | saveResult (status : String) (checks : List DiagnosticCheck)
  | saveError (status : OperationStatus) (code : String)
  deriving DecidableEq

def ConsumerWrite.apply (casing : Casing) (operation : DiagnosticOperation) :
    ConsumerWrite -> DiagnosticOperation
  | .setRunning => operation.setRunning
  | .saveProgress phase message => operation.saveProgress phase message
  | .saveResult status checks => operation.saveResult casing status checks
  | .saveError status code => operation.saveError status code

/-- A call, with the user who has issued it, and the operation of the task
`_consume` that it has scheduled. -/
structure Call where
  user : Nat
  phase : Phase
  task : Option Nat

/-- What a step of a call takes from its surroundings.  `proceed` is the next
statement, which needs nothing. -/
inductive Input (Number : Type u)
  | issue (user : Nat) (mutation : Mutation Number) (drawn : Drawn)
  | connected (answer : Bool)
  | started (outcome : StartOutcome)
  | cancelled (outcome : CancelOutcome)
  | insert (drawn : Drawn)
  | validated (outcome : Except PyException TargetValidation)
  | store (now : Nat)
  | dispatched (course : Course)
  | cancelledRelease (accepted : Bool)
  | consume (write : ConsumerWrite)
  | proceed

/-- The rows are named by what is drawn for them, which is never drawn twice. -/
def Input.draws : Input Number -> List String
  | .issue _ _ drawn => [drawn.publicId, drawn.operationId]
  | .insert drawn => [drawn.publicId, drawn.operationId]
  | _ => []

/-- The database, the calls of mutations by their numbers, each with its user and how
far it has come, and the random identifiers that have been drawn. -/
structure State where
  database : Database
  calls : Nat -> Call
  drawn : List String

/-! ## The steps of a call -/

/-- What a step does: its statement, if it executes one, and the phase after it. -/
abbrev Effect := Option Statement × Phase

/-- `self.backend.start(operation)` in the thread of the call. -/
def afterStart (lower : Lowercase) (operation project : Nat) : StartOutcome -> Phase
  | .scheduled => .trimming operation project
  | .runtimeError message =>
      .saving operation project (startVerdict lower message).1 (startVerdict lower message).2
  | .raised => .ended (.raised (.python .cancelledError))

/-- `DiagnosticOperation.objects.create(...)` within `start`. -/
def newOperation (database : Database) (user : Nat) (agent : AgentRegistration)
    (diagnostic : String) (drawn : Drawn) : OperationRow where
  pk := database.operationSequence
  publicId := drawn.publicId
  project := agent.project
  agent := agent.pk
  requestedBy := user
  diagnostic := diagnostic
  operation := ⟨.pending, .empty, ""⟩
  createdAt := drawn.now

def newTarget (database : Database) (fields : TargetFields) (drawn : Drawn) : TargetRow where
  pk := database.targetSequence
  publicId := drawn.publicId
  fields := fields
  validatedAt := none
  validationSummary := none
  createdAt := drawn.now

/-- The configuration that `start_release` has from its target. -/
def serviceConfig (setting : Setting Number) (fields : TargetFields) (agentId : String) :
    ServiceConfig where
  target := ⟨agentId, fields.namespaceName, fields.releaseName, fields.credentialRef⟩
  sha256 := setting.sha256

/-- `_start` up to `backend.connected`. -/
def startDiagnostic (setting : Setting Number) (database : Database) (user : Nat)
    (projectId agentId diagnostic : String) (drawn : Drawn) : Effect :=
  let agent := (getProject setting database user projectId).bind fun project =>
    (getAgent setting database project agentId).bind fun agent =>
      if diagnostic = "django_health" then .ok agent
      else .error (.python (.valueError "unsupported diagnostic"))
  match agent with
  | .error error => (none, .ended (startAnswer (.error error)))
  | .ok agent =>
      let row := newOperation database user agent diagnostic drawn
      (some (.createOperation row), .asking row.pk row.project)

/-- `_register_target` up to `objects.create`. -/
def registerTarget (setting : Setting Number) (database : Database) (user : Nat)
    (projectId agentId : String) (arguments : TargetArguments) : Effect :=
  let fields := (getProject setting database user projectId).bind fun project =>
    (getAgent setting database project agentId).bind fun agent =>
      prepareTarget setting.python database project agent arguments
  match fields with
  | .error error => (none, .registered none (.error error))
  | .ok fields => (none, .creating fields)

/-- `_start_kubernetes_release` up to the transaction. -/
def startRelease (setting : Setting Number) (database : Database) (user : Nat) (targetId : String)
    (arguments : Arguments Number) : Effect :=
  match getTarget setting database user targetId with
  | .error error => (none, .ended (releaseAnswer (.error error)))
  | .ok target =>
      match startIntent setting.python arguments with
      | .error error => (none, .ended (releaseAnswer (.error (.python error))))
      | .ok intent => (none, .opening target (database.agentId target.fields.agent) intent)

/-- The row that the transaction of `start_release` creates. -/
def newRelease (config : ServiceConfig) (database : Database) (user : Nat) (target : TargetRow)
    (intent : Intent) (drawn : Drawn) : ReleaseRow where
  pk := database.releaseSequence
  publicId := drawn.publicId
  project := target.fields.project
  target := target.pk
  requestedBy := user
  release := .create config intent drawn.operationId
    (((database.releasesOf target.pk).find? fun row =>
      decide (row.release.status = .succeeded)).map ReleaseRow.release)
  createdAt := drawn.now

/-- The transaction of `start_release`. -/
def openRelease (config : ServiceConfig) (database : Database) (user : Nat) (target : TargetRow)
    (agentId : String) (intent : Intent) (drawn : Drawn) : Effect :=
  match database.target? target.pk with
  | none => (none, .ended (releaseAnswer (.error .doesNotExist)))
  | some locked =>
      match (database.releasesOf locked.pk).find? fun row =>
          row.release.matchesIntent config intent && row.release.isOpen with
      | some row =>
          if row.release.status.active then (none, .ended (releaseAnswer (.ok row.pk)))
          else
            (some (.updateRelease row.pk KubernetesRelease.reopen),
              .dispatching { row with release := row.release.reopen } agentId
                (releaseRequest config intent row.release.reopen))
      | none =>
          let row := newRelease config database user locked intent drawn
          (some (.createRelease row),
            .dispatching row agentId (releaseRequest config intent row.release))

/-- `start_release` behind `self.backend.start(...)`. -/
def finishRelease (row : ReleaseRow) (agentId : String) (course : Course) : Effect :=
  match runBackend agentId row.release.operationId course with
  | .ok result =>
      (some (.updateRelease row.pk fun current =>
        current.updateActive fun active => row.release.applyResult active result),
        .ended (releaseAnswer (.ok row.pk)))
  | .error (.runtimeError _) =>
      (some (.updateRelease row.pk fun current =>
        current.updateActive KubernetesRelease.applyUnavailable),
        .ended (releaseAnswer (.ok row.pk)))
  | .error error => (none, .ended (releaseAnswer (.error (.python error))))

/-- The resolvers up to the point where they first wait. -/
def issue (setting : Setting Number) (database : Database) (user : Nat) (drawn : Drawn) :
    Mutation Number -> Effect
  | .startDiagnostic projectId agentId diagnostic =>
      startDiagnostic setting database user projectId agentId diagnostic drawn
  | .cancelDiagnostic operationId =>
      match getOperation setting database user operationId with
      | .error error => (none, .ended (operationAnswer (.error error)))
      | .ok row => (none, .refreshing row.pk)
  | .registerKubernetesTarget projectId agentId arguments =>
      registerTarget setting database user projectId agentId arguments
  | .startKubernetesRelease targetId arguments =>
      startRelease setting database user targetId arguments
  | .cancelKubernetesRelease releaseId =>
      match getRelease setting database user releaseId with
      | .error error => (none, .ended (cancelReleaseAnswer (.error error)))
      | .ok row => (none, .refreshingRelease row.pk)

/-- The next statement of a call that waits for nothing. -/
def proceed (database : Database) : Phase -> Option Effect
  | .saving operation project status errorCode =>
      match database.operation? operation with
      | none => some (none, .ended (.raised .databaseError))
      | some _ =>
          some (some (.saveOperation operation status errorCode), .trimming operation project)
  | .trimming operation project =>
      some (none, .deleting operation (database.staleOperations project))
  | .deleting operation stale =>
      some (some (.deleteOperations stale), .ended (startAnswer (.ok operation)))
  | .refreshing operation =>
      match database.operation? operation with
      | none => some (none, .ended (operationAnswer (.error .doesNotExist)))
      | some row =>
          if row.operation.status.active then some (none, .cancelling operation)
          else some (none, .ended (operationAnswer (.ok operation)))
  | .updating operation status errorCode =>
      some (some (.updateOperation operation fun current => current.saveError status errorCode),
        .ended (operationAnswer
          (if (database.operation? operation).isSome then .ok operation else .error .doesNotExist)))
  | .removing target =>
      if database.isProtected target then
        some (none, .registered (some target) (.error .protectedError))
      else
        some (some (.deleteTarget target), .registered (some target)
          (.error (.python (.valueError "cluster validation failed"))))
  | .refreshingRelease release =>
      match database.release? release with
      | none => some (none, .ended (cancelReleaseAnswer (.error .doesNotExist)))
      | some row =>
          if row.release.status.active then some (none, .cancellingRelease release)
          else some (none, .ended (cancelReleaseAnswer (.ok release)))
  | .closing release accepted =>
      some (some (.updateRelease release fun current =>
        current.updateActive (KubernetesRelease.applyCancel accepted)),
        .ended (cancelReleaseAnswer (.ok release)))
  | _ => none

/-- One step of a call. -/
def advance (setting : Setting Number) (database : Database) (call : Call) :
    Input Number -> Option (Option Statement × Call)
  | .issue user mutation drawn =>
      match call.phase with
      | .idle =>
          let effect := issue setting database user drawn mutation
          some (effect.1, { user := user, phase := effect.2, task := none })
      | _ => none
  | .connected answer =>
      match call.phase with
      | .asking operation project =>
          some (none, { call with
            phase := if answer then .starting operation project
              else .saving operation project .offline "AGENT_OFFLINE" })
      | _ => none
  | .started outcome =>
      match call.phase with
      | .starting operation project =>
          some (none, { call with
            phase := afterStart setting.letters.lower operation project outcome
            task := if outcome = .scheduled then some operation else none })
      | _ => none
  | .cancelled outcome =>
      match call.phase, outcome.verdict with
      | .cancelling operation, some verdict =>
          some (none, { call with phase := .updating operation verdict.1 verdict.2 })
      | .cancelling _, none =>
          some (none, { call with phase := .ended (.raised (.python .cancelledError)) })
      | _, _ => none
  | .insert drawn =>
      match call.phase with
      | .creating fields =>
          if database.identityTaken fields then
            some (none, { call with phase := .registered none (.error .integrityError) })
          else
            some (some (.createTarget (newTarget database fields drawn)),
              { call with phase := .validating database.targetSequence })
      | .opening target agentId intent =>
          let effect := openRelease (serviceConfig setting target.fields agentId) database call.user
            target agentId intent drawn
          some (effect.1, { call with phase := effect.2 })
      | _ => none
  | .validated outcome =>
      match call.phase, outcome with
      | .validating target, .error error =>
          some (none, { call with phase := .registered (some target) (.error (.python error)) })
      | .validating target, .ok validation =>
          some (none, { call with
            phase := if validation.valid then .storing target validation else .removing target })
      | _, _ => none
  | .store now =>
      match call.phase with
      | .storing target validation =>
          some (some (.saveTarget target validation now),
            { call with phase := .registered (some target) (.ok target) })
      | _ => none
  | .dispatched course =>
      match call.phase with
      | .dispatching row agentId _ =>
          let effect := finishRelease row agentId course
          some (effect.1, { call with phase := effect.2 })
      | _ => none
  | .cancelledRelease accepted =>
      match call.phase with
      | .cancellingRelease release => some (none, { call with phase := .closing release accepted })
      | _ => none
  | .consume write =>
      match call.task with
      | some operation =>
          some (some (.updateOperation operation fun current =>
            write.apply setting.letters.upper current), call)
      | none => none
  | .proceed =>
      (proceed database call.phase).map fun effect =>
        (effect.1, { call with phase := effect.2 })

def State.execute (database : Database) : Option Statement -> Database
  | none => database
  | some statement => database.execute statement

/-- A step of the call with the given number. -/
def step (setting : Setting Number) (state : State) (action : Nat × Input Number) : Option State :=
  if action.2.draws.any fun text => decide (text ∈ state.drawn) then none
  else
    (advance setting state.database (state.calls action.1) action.2).map fun result =>
      { database := State.execute state.database result.1
        calls := Function.update state.calls action.1 result.2
        drawn := action.2.draws ++ state.drawn }

/-- The process has just started on an admissible database, whose rows bear
names that have been drawn. -/
structure Starts (admissible : Database -> Prop) (state : State) : Prop where
  consistent : state.database.Consistent
  admissible : admissible state.database
  idle : forall number, state.calls number = ⟨0, .idle, none⟩
  operationNames : (state.database.operations.map OperationRow.publicId).Nodup
  operationsDrawn : forall row, row ∈ state.database.operations -> row.publicId ∈ state.drawn

/-- The calls in every order, one statement of the database at a time, from every
database that is admitted. -/
def machine (setting : Setting Number) (admissible : Database -> Prop) :
    Transition.Machine State (Nat × Input Number) where
  initial := Starts admissible
  step := step setting

/-! ## A console with one project -/

/-- `urlsplit` takes the endpoint of the sample apart. -/
def sampleSetting : Setting Int where
  python :=
    { numerals := .decimal, repr := fun _ => ""
      urlsplit := fun _ => .ok ⟨"https", some "cluster.example", none, none, "", ""⟩ }
  letters := .simple
  sha256 := fun _ => ""
  int := fun text => if text = "1" then some 1 else none
  uuid := some

/-- One project, with one member and one agent. -/
def sampleDatabase : Database where
  projects := [⟨1, "shop", "Shop", "current", [7]⟩]
  agents := [⟨1, 1, "agent-1", []⟩]
  operations := []
  targets := []
  releases := []
  operationSequence := 1
  targetSequence := 1
  releaseSequence := 1

/-- The state in which the process starts. -/
def State.fresh (database : Database) : State where
  database := database
  calls := fun _ => ⟨0, .idle, none⟩
  drawn := []

theorem starts_of_empty {admissible : Database -> Prop} {database : Database}
    (operations : database.operations = []) (targets : database.targets = [])
    (releases : database.releases = []) (allowed : admissible database) :
    Starts admissible (.fresh database) := by
  refine ⟨⟨?_, ?_, ?_, ?_, ?_⟩, allowed, fun _ => rfl, ?_, ?_⟩
  · rw [State.fresh, operations]
    exact ⟨List.nodup_nil, fun _ listed => absurd listed List.not_mem_nil⟩
  · rw [State.fresh, targets]
    exact ⟨List.nodup_nil, fun _ listed => absurd listed List.not_mem_nil⟩
  · rw [State.fresh, releases]
    exact ⟨List.nodup_nil, fun _ listed => absurd listed List.not_mem_nil⟩
  · rw [State.fresh, releases]
    exact fun _ listed => absurd listed List.not_mem_nil
  · rw [State.fresh, releases]
    exact fun _ _ listed => absurd listed List.not_mem_nil
  · rw [State.fresh, operations]
    exact List.nodup_nil
  · rw [State.fresh, operations]
    exact fun _ listed => absurd listed List.not_mem_nil

def sampleState : State := .fresh sampleDatabase

end Console
end ControlPlane
end DjangoOps
