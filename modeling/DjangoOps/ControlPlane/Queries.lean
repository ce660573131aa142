import DjangoOps.ControlPlane.Console

namespace DjangoOps
namespace ControlPlane

open Protocol Gateway

universe u

/-!
# The queries of the console

The resolvers of the query fields.  A field of an object type is resolved for
the row of its object, so an answer carries every field that a client can ask
for.
-/

/-- What `RuntimeGatewayBackend` reads: the gateway, once it is registered, and
the whole seconds since the last heartbeat of an agent. -/
structure Runtime where
  gateway : Option Gateway.State
  heartbeatAge : String -> Nat

namespace Runtime

variable (runtime : Runtime) (agentId : String)

def session? : Option AgentSession :=
  runtime.gateway.bind fun gateway =>
    (gateway.sessions.lookup agentId).map fun stream => (gateway.streams stream).session

/-- `RuntimeGatewayBackend.connected` -/
def connected : Bool := (runtime.session? agentId).isSome

/-- `RuntimeGatewayBackend.heartbeat_age` -/
def heartbeat : Option Nat := (runtime.session? agentId).map fun _ => runtime.heartbeatAge agentId

/-- `RuntimeGatewayBackend.capabilities` -/
def capabilities : List String :=
  ((runtime.session? agentId).map AgentSession.capabilities).getD []

/-- `RuntimeGatewayBackend.protocol_version` -/
def protocolVersion : Nat × Nat :=
  ((runtime.session? agentId).map fun session =>
    (session.protocolMajor, session.protocolMinor)).getD (0, 0)

end Runtime

structure AgentState where
  connected : Bool
  heartbeatAge : Option Nat
  capabilities : List String
  protocolMajor : Option Nat
  protocolMinor : Option Nat
  deriving DecidableEq

/-- `OperationsService.agent_state` -/
def agentState (runtime : Runtime) (agent : AgentRegistration) : AgentState :=
  if runtime.connected agent.agentId then
    { connected := true
      heartbeatAge := runtime.heartbeat agent.agentId
      capabilities := runtime.capabilities agent.agentId
      protocolMajor := some (runtime.protocolVersion agent.agentId).1
      protocolMinor := some (runtime.protocolVersion agent.agentId).2 }
  else
    { connected := false, heartbeatAge := none, capabilities := agent.capabilities
      protocolMajor := none, protocolMinor := none }

namespace Console

variable {Number : Type u}

/-! ## The object types -/

structure ProjectView where
  id : Nat
  slug : String
  name : String
  deriving DecidableEq

structure AgentView where
  id : Nat
  agentId : String
  state : AgentState
  deriving DecidableEq

structure OperationView where
  id : String
  diagnostic : String
  status : OperationStatus
  errorCode : Option String
  checks : List DiagnosticCheck
  createdAt : Nat
  deriving DecidableEq

structure TargetView where
  id : String
  name : String
  apiServer : String
  namespaceName : String
  releaseName : String
  ingressClass : Option String
  tlsSecretName : Option String
  validatedAt : Option Nat
  deriving DecidableEq

structure ReleaseView where
  id : String
  status : ReleaseStatus
  image : String
  chartVersion : String
  valuesDigest : String
  helmRevision : Option Nat
  previousHelmRevision : Option Nat
  rollbackStatus : Option String
  errorCode : Option String
  createdAt : Nat
  deriving DecidableEq

structure Summary where
  totalAgents : Nat
  connectedAgents : Nat
  recentOperations : Nat
  recentReleases : Nat
  recentFailures : Nat
  otlpConfigured : Bool
  telemetryStatus : String
  deriving DecidableEq

/-- `text or None` -/
def nonempty (text : String) : Option String := if text = "" then none else some text

def viewProject (row : Project) : ProjectView := ⟨row.pk, row.slug, row.name⟩

def viewAgent (runtime : Runtime) (row : AgentRegistration) : AgentView :=
  ⟨row.pk, row.agentId, agentState runtime row⟩

/-- `_checks` -/
def viewChecks : ResultSummary -> List DiagnosticCheck
  | .checks checks => checks
  | _ => []

def viewOperation (row : OperationRow) : OperationView where
  id := row.publicId
  diagnostic := row.diagnostic
  status := row.operation.status
  errorCode := nonempty row.operation.errorCode
  checks := viewChecks row.operation.resultSummary
  createdAt := row.createdAt

def viewTarget (row : TargetRow) : TargetView where
  id := row.publicId
  name := row.fields.name
  apiServer := row.fields.apiServer
  namespaceName := row.fields.namespaceName
  releaseName := row.fields.releaseName
  ingressClass := nonempty row.fields.ingressClass
  tlsSecretName := nonempty row.fields.tlsSecretName
  validatedAt := row.validatedAt

def viewRelease (row : ReleaseRow) : ReleaseView where
  id := row.publicId
  status := row.release.status
  image := row.release.image
  chartVersion := row.release.chartVersion
  valuesDigest := row.release.valuesDigest
  helmRevision := row.release.helmRevision
  previousHelmRevision := row.release.previousHelmRevision
  rollbackStatus := nonempty row.release.rollbackStatus
  errorCode := nonempty row.release.errorCode
  createdAt := row.createdAt

/-! ## The resolvers -/

/-- The argument `first`: left out, null, or a number. -/
inductive First
  | omitted
  | null
  | given (value : Int)
  deriving DecidableEq

/-- The fields of the query type with their arguments. -/
inductive Query
  | projects
  | agents (projectId : String)
  | diagnosticOperations (projectId : String) (first : First)
  | diagnosticOperation (id : String)
  | kubernetesTargets (projectId : String)
  | kubernetesReleases (projectId : String) (first : First)
  | observabilitySummary (projectId : String)
  deriving DecidableEq

/-- What a field of the query type returns. -/
inductive Response
  | projects (rows : List ProjectView)
  | agents (rows : List AgentView)
  | operations (rows : List OperationView)
  | operation (row : OperationView)
  | targets (rows : List TargetView)
  | releases (rows : List ReleaseView)
  | summary (summary : Summary)
  deriving DecidableEq

/-- `max(1, min(first, 50))`; `min` of `None` and a number is a `TypeError`. -/
def pageLength : First -> Except ServiceError Nat
  | .omitted => .ok 20
  | .null => .error (.python .typeError)
  | .given value => .ok (max 1 (min value 50)).toNat

/-- `project.operations.all()` -/
def operationsOf (database : Database) (project : Project) : List OperationRow :=
  newestFirst OperationRow.createdAt
    (database.operations.filter fun row => decide (row.project = project.pk))

/-- `project.kubernetes_releases.all()` -/
def kubernetesReleasesOf (database : Database) (project : Project) : List ReleaseRow :=
  newestFirst ReleaseRow.createdAt
    (database.releases.filter fun row => decide (row.project = project.pk))

/-- `project.agents.all()` -/
def agentsOf (database : Database) (project : Project) : List AgentRegistration :=
  (database.agents.filter fun row => decide (row.project = project.pk)).insertionSort
    fun left right => left.agentId ≤ right.agentId

/-- `project.kubernetes_targets.all()` -/
def targetsOf (database : Database) (project : Project) : List TargetRow :=
  (database.targets.filter fun row => decide (row.fields.project = project.pk)).insertionSort
    fun left right => left.fields.name ≤ right.fields.name

/-- `failed_statuses`, as far as diagnostics have them. -/
def operationFailed : OperationStatus -> Bool
  | .failed | .offline | .overloaded | .disconnected | .timeout => true
  | _ => false

/-- `failed_statuses`, as far as releases have them. -/
def releaseFailed : ReleaseStatus -> Bool
  | .failed | .rollbackBlocked => true
  | _ => false

/-- `summary_for_project`; whether an OTLP endpoint is configured is a setting
of the process. -/
def summaryForProject (otlpConfigured : Bool) (database : Database) (runtime : Runtime)
    (project : Project) : Summary :=
  let agents := agentsOf database project
  let operations := (operationsOf database project).take 50
  let releases := (kubernetesReleasesOf database project).take 50
  { totalAgents := agents.length
    connectedAgents := agents.countP fun agent => (agentState runtime agent).connected
    recentOperations := operations.length
    recentReleases := releases.length
    recentFailures := operations.countP (fun row => operationFailed row.operation.status) +
      releases.countP fun row => releaseFailed row.release.status
    otlpConfigured := otlpConfigured
    telemetryStatus := if otlpConfigured then "configured" else "disabled" }

/-- The resolvers of the query type. -/
def resolve (setting : Setting Number) (otlpConfigured : Bool) (database : Database)
    (runtime : Runtime) (user : Nat) : Query -> Except ServiceError Response
  | .projects =>
      .ok (.projects (((database.projects.filter fun row =>
        decide (user ∈ row.members)).insertionSort fun left right =>
          left.slug ≤ right.slug).map viewProject))
  | .agents projectId =>
      (getProject setting database user projectId).map fun project =>
        .agents ((agentsOf database project).map (viewAgent runtime))
  | .diagnosticOperations projectId first =>
      (getProject setting database user projectId).bind fun project =>
        (pageLength first).map fun length =>
          .operations (((operationsOf database project).take length).map viewOperation)
  | .diagnosticOperation id =>
      (getOperation setting database user id).map fun row => .operation (viewOperation row)
  | .kubernetesTargets projectId =>
      (getProject setting database user projectId).map fun project =>
        .targets ((targetsOf database project).map viewTarget)
  | .kubernetesReleases projectId first =>
      (getProject setting database user projectId).bind fun project =>
        (pageLength first).map fun length =>
          .releases (((kubernetesReleasesOf database project).take length).map viewRelease)
  | .observabilitySummary projectId =>
      (getProject setting database user projectId).map fun project =>
        .summary (summaryForProject otlpConfigured database runtime project)

end Console
end ControlPlane
end DjangoOps
