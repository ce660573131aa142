import Mathlib.Data.List.Sort
import DjangoOps.Foundation.Table
import DjangoOps.ControlPlane.Release

namespace DjangoOps
namespace ControlPlane

open Protocol Gateway

/-!
# The database of the control plane

The tables of `models.py`, with the columns that the services and the resolvers
read or write.  Users are known by their keys only.  Every table has a sequence
that numbers its rows, and the number of a deleted row is not given out again.

A statement is one write that the database executes as a whole.  `save` of an
instance and `update` of a query are told apart, because Django sends signals
for the first only.
-/

structure Project where
  pk : Nat
  slug : String
  name : String
  releaseRoot : String
  members : List Nat
  deriving DecidableEq

structure AgentRegistration where
  pk : Nat
  project : Nat
  agentId : String
  capabilities : List String
  deriving DecidableEq

/-- A row of `DiagnosticOperation`; `operation` holds the columns that its
writers change. -/
structure OperationRow where
  pk : Nat
  publicId : String
  project : Nat
  agent : Nat
  requestedBy : Nat
  diagnostic : String
  operation : DiagnosticOperation
  createdAt : Nat
  deriving DecidableEq

structure TargetValidation where
  reachable : Bool
  namespaceAccess : Bool
  helmAvailable : Bool
  permissions : List String
  deriving DecidableEq

/-- `TargetValidation.valid` -/
def TargetValidation.valid (validation : TargetValidation) : Bool :=
  validation.reachable && validation.namespaceAccess && validation.helmAvailable

/-- The columns of a `KubernetesTarget` that `register_target` gives to
`objects.create`. -/
structure TargetFields where
  project : Nat
  agent : Nat
  name : String
  apiServer : String
  namespaceName : String
  releaseName : String
  credentialRef : String
  ingressClass : String
  tlsSecretName : String
  deriving DecidableEq

/-- A row of `KubernetesTarget`; `validationSummary` is `none` for its default,
the empty dictionary. -/
structure TargetRow where
  pk : Nat
  publicId : String
  fields : TargetFields
  validatedAt : Option Nat
  validationSummary : Option TargetValidation
  createdAt : Nat
  deriving DecidableEq

/-- The columns of `cp_k8s_cluster_release_unique`. -/
def TargetFields.identity (fields : TargetFields) : String × String × String :=
  (fields.apiServer, fields.namespaceName, fields.releaseName)

/-- A row of `KubernetesRelease`; `release` holds the columns that
`start_release` fills in or changes. -/
structure ReleaseRow where
  pk : Nat
  publicId : String
  project : Nat
  target : Nat
  requestedBy : Nat
  release : KubernetesRelease
  createdAt : Nat
  deriving DecidableEq

/-- The rows of all tables, and the numbers that the next rows will have. -/
structure Database where
  projects : List Project
  agents : List AgentRegistration
  operations : List OperationRow
  targets : List TargetRow
  releases : List ReleaseRow
  operationSequence : Nat
  targetSequence : Nat
  releaseSequence : Nat

/-- Exceptions of the services: those of plain Python, and those of Django. -/
inductive ServiceError
  | python (error : PyException)
  | doesNotExist
  | multipleObjectsReturned
  | validationError
  | integrityError
  | protectedError
  | databaseError
  deriving DecidableEq

/-- `QuerySet.get` -/
def getRow {Row : Type u} : List Row -> Except ServiceError Row
  | [] => .error .doesNotExist
  | [row] => .ok row
  | _ => .error .multipleObjectsReturned

/-- The order `-created_at`. -/
def newestFirst {Row : Type u} (createdAt : Row -> Nat) (rows : List Row) : List Row :=
  rows.insertionSort fun left right => createdAt right ≤ createdAt left

/-- `_MAX_HISTORY_PER_PROJECT` -/
def maxHistoryPerProject : Nat := 200

namespace Database

variable (database : Database)

/-- The user is a member of the project. -/
def isMember (user project : Nat) : Bool :=
  database.projects.any fun row => decide (row.pk = project ∧ user ∈ row.members)

def operation? (pk : Nat) : Option OperationRow :=
  database.operations.find? fun row => decide (row.pk = pk)

def target? (pk : Nat) : Option TargetRow :=
  database.targets.find? fun row => decide (row.pk = pk)

def release? (pk : Nat) : Option ReleaseRow :=
  database.releases.find? fun row => decide (row.pk = pk)

/-- `target.agent.agent_id`; the foreign key holds, so the default is not taken. -/
def agentId (pk : Nat) : String :=
  ((database.agents.find? fun row => decide (row.pk = pk)).map AgentRegistration.agentId).getD ""

/-- `target.releases.all()` -/
def releasesOf (target : Nat) : List ReleaseRow :=
  newestFirst ReleaseRow.createdAt
    (database.releases.filter fun row => decide (row.target = target))

/-- The query of `_trim_history`. -/
def staleOperations (project : Nat) : List Nat :=
  ((newestFirst OperationRow.createdAt (database.operations.filter fun row =>
    decide (row.project = project) && !row.operation.status.active)).map OperationRow.pk).drop
      maxHistoryPerProject

/-- Another row has the identity that `cp_k8s_cluster_release_unique` guards. -/
def identityTaken (fields : TargetFields) : Bool :=
  database.targets.any fun row => decide (row.fields.identity = fields.identity)

/-- A release of the target keeps it from being deleted. -/
def isProtected (target : Nat) : Bool :=
  database.releases.any fun row => decide (row.target = target)

/-- What the constraints of the tables, and the services that fill them, keep:
the keys are unique and numbered by the sequences, and a release belongs to the
project of its target. -/
structure Consistent : Prop where
  operations : Table.Keyed OperationRow.pk database.operationSequence database.operations
  targets : Table.Keyed TargetRow.pk database.targetSequence database.targets
  releases : Table.Keyed ReleaseRow.pk database.releaseSequence database.releases
  referred : forall row, row ∈ database.releases ->
    Exists fun target : TargetRow => target ∈ database.targets ∧ target.pk = row.target
  owned : forall row target, row ∈ database.releases -> target ∈ database.targets ->
    target.pk = row.target -> row.project = target.fields.project

end Database

/-! ## Statements -/

/-- `filter(pk=pk, status__in=_ACTIVE).update(...)` on a release. -/
def KubernetesRelease.updateActive (release : KubernetesRelease)
    (change : KubernetesRelease -> KubernetesRelease) : KubernetesRelease :=
  if release.status.active then change release else release

/-- A statement that changes rows.  A save writes a row as the caller has it; an update
and a deletion look at the rows as they are. -/
inductive Statement
  | createOperation (row : OperationRow)
  | saveOperation (pk : Nat) (status : OperationStatus) (errorCode : String)
  | updateOperation (pk : Nat) (change : DiagnosticOperation -> DiagnosticOperation)
  | deleteOperations (pks : List Nat)
  | createTarget (row : TargetRow)
  | saveTarget (pk : Nat) (validation : TargetValidation) (validatedAt : Nat)
  | deleteTarget (pk : Nat)
  | createRelease (row : ReleaseRow)
  | updateRelease (pk : Nat) (change : KubernetesRelease -> KubernetesRelease)

namespace Database

def updateOperation (database : Database) (pk : Nat)
    (change : DiagnosticOperation -> DiagnosticOperation) : Database :=
  { database with
    operations := Table.update OperationRow.pk pk
      (fun row => { row with operation := change row.operation }) database.operations }

def updateTarget (database : Database) (pk : Nat) (change : TargetRow -> TargetRow) : Database :=
  { database with targets := Table.update TargetRow.pk pk change database.targets }

def updateRelease (database : Database) (pk : Nat)
    (change : KubernetesRelease -> KubernetesRelease) : Database :=
  { database with
    releases := Table.update ReleaseRow.pk pk
      (fun row => { row with release := change row.release }) database.releases }

/-- What a statement does.  `validation_summary` keeps 32 permissions. -/
def execute (database : Database) : Statement -> Database
  | .createOperation row =>
      { database with
        operations := row :: database.operations
        operationSequence := database.operationSequence + 1 }
  | .saveOperation pk status errorCode =>
      database.updateOperation pk fun operation =>
        { operation with status := status, errorCode := errorCode }
  | .updateOperation pk change => database.updateOperation pk change
  | .deleteOperations pks =>
      { database with
        operations := database.operations.filter fun row => decide (row.pk ∉ pks) }
  | .createTarget row =>
      { database with
        targets := row :: database.targets, targetSequence := database.targetSequence + 1 }
  | .saveTarget pk validation validatedAt =>
      database.updateTarget pk fun row =>
        { row with
          validatedAt := some validatedAt
          validationSummary :=
            some { validation with permissions := validation.permissions.take 32 } }
  | .deleteTarget pk =>
      { database with targets := database.targets.filter fun row => decide (row.pk ≠ pk) }
  | .createRelease row =>
      { database with
        releases := row :: database.releases
        releaseSequence := database.releaseSequence + 1 }
  | .updateRelease pk change => database.updateRelease pk change

end Database

end ControlPlane
end DjangoOps
