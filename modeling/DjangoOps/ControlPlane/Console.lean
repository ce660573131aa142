import DjangoOps.Foundation.Transition
import DjangoOps.ControlPlane.Database
import DjangoOps.ControlPlane.OperationsService
import DjangoOps.ControlPlane.Values

namespace DjangoOps
namespace ControlPlane

open Protocol Gateway OperationsService

universe u

/-!
# The mutations of the console

The resolvers of the five mutations, with the service methods behind them.
They run on web threads, one call each, and the tasks `_consume` run on the
event loop of the gateway, so any statement of one may be followed by a
statement of another.  A step of this machine is a step of one call: it
executes at most one statement.
-/

namespace Console

/-- The parts of Python that the resolvers use: `int` of a text, and the
conversion of a `UUIDField`. -/
structure Setting (Number : Type u) where
  python : Python Number
  letters : Letters
  sha256 : String -> String
  int : String -> Option Int
  uuid : String -> Option String

/-- What an insertion draws: the two random identifiers and the time. -/
structure Drawn where
  publicId : String
  operationId : String
  now : Nat
  deriving DecidableEq

variable {Number : Type u}

/-! ## Resolving the arguments -/

/-- `_project` -/
def getProject (setting : Setting Number) (database : Database) (user : Nat) (projectId : String) :
    Except ServiceError Project :=
  match setting.int projectId with
  | none => .error (.python (.valueError "invalid literal for int() with base 10"))
  | some key =>
      getRow (database.projects.filter fun row =>
        decide (user ∈ row.members) && decide ((row.pk : Int) = key))

/-- `project.agents.get(pk=int(agentId))` -/
def getAgent (setting : Setting Number) (database : Database) (project : Project)
    (agentId : String) : Except ServiceError AgentRegistration :=
  match setting.int agentId with
  | none => .error (.python (.valueError "invalid literal for int() with base 10"))
  | some key =>
      getRow (database.agents.filter fun row =>
        decide (row.project = project.pk) && decide ((row.pk : Int) = key))

/-- `get(public_id=...)` within the rows whose project the user is a member of. -/
def getPublic {Row : Type v} (setting : Setting Number) (database : Database) (user : Nat)
    (project : Row -> Nat) (publicId : Row -> String) (rows : List Row) (id : String) :
    Except ServiceError Row :=
  match setting.uuid id with
  | none => .error .validationError
  | some key =>
      getRow (rows.filter fun row =>
        database.isMember user (project row) && decide (publicId row = key))

/-- `_operation` -/
def getOperation (setting : Setting Number) (database : Database) (user : Nat) (id : String) :
    Except ServiceError OperationRow :=
  getPublic setting database user OperationRow.project OperationRow.publicId database.operations id

/-- `_target` -/
def getTarget (setting : Setting Number) (database : Database) (user : Nat) (id : String) :
    Except ServiceError TargetRow :=
  getPublic setting database user (fun row => row.fields.project) TargetRow.publicId
    database.targets id

/-- `_release` -/
def getRelease (setting : Setting Number) (database : Database) (user : Nat) (id : String) :
    Except ServiceError ReleaseRow :=
  getPublic setting database user ReleaseRow.project ReleaseRow.publicId database.releases id

/-! ## Validation of a target -/

/-- `str.strip` -/
def strip (text : String) : String :=
  String.ofList (rstrip isSpace (text.toList.dropWhile isSpace))

/-- `_DNS_LABEL.fullmatch` -/
def matchesLabel (text : String) : Bool :=
  let plain := fun char : Char => char.isLower || char.isDigit
  (text.toList.head?.map plain).getD false && (text.toList.getLast?.map plain).getD false &&
    text.toList.all fun char => plain char || char == '-'

/-- `_validate_name` -/
def validateName (value : String) (release : Bool) : Except ServiceError String :=
  let stripped := strip value
  let limit := if release then 53 else 63
  if stripped = "" ∨ limit < stripped.length ∨ matchesLabel stripped = false then
    .error (.python (.valueError "invalid Kubernetes name"))
  else .ok stripped

/-- `_validate_api_server` -/
def validateApiServer (python : Python Number) (value : String) : Except ServiceError String :=
  match python.urlsplit value with
  | .error error => .error (.python error)
  | .ok parsed =>
      if parsed.scheme ≠ "https" ∨ parsed.hostname.getD "" = "" ∨
          parsed.username.getD "" ≠ "" ∨ parsed.password.getD "" ≠ "" then
        .error (.python (.valueError
          "api_server must be an https endpoint without embedded credentials"))
      else .ok (String.ofList (rstrip (fun char => char == '/') value.toList))

/-- `_CREDENTIAL_REF.fullmatch` -/
def matchesCredentialRef (text : String) : Bool :=
  match text.toList with
  | [] => false
  | first :: rest =>
      first.isAlphanum && decide (2 ≤ rest.length) && decide (rest.length ≤ 127) &&
        rest.all fun char => char.isAlphanum || char == ':' || char == '/' || char == '_' ||
          char == '.' || char == '-'

/-- `_validate_credential_ref` -/
def validateCredentialRef (value : String) : Except ServiceError String :=
  if matchesCredentialRef value then .ok value
  else .error (.python (.valueError "credential_ref must be an opaque server-side reference"))

/-- The arguments of `register_target` besides the project and the agent. -/
structure TargetArguments where
  name : String
  apiServer : String
  namespaceName : String
  releaseName : String
  credentialRef : String
  ingressClass : String
  tlsSecretName : String

/-- `_validate_name(value) if value else ""` -/
def validateOptionalName (value : String) : Except ServiceError String :=
  if value = "" then .ok "" else validateName value false

/-- `register_target` up to `objects.create`. -/
def prepareTarget (python : Python Number) (database : Database) (project : Project)
    (agent : AgentRegistration) (arguments : TargetArguments) : Except ServiceError TargetFields :=
  if agent.project ≠ project.pk then
    .error (.python (.valueError "agent and target project must match"))
  else
    (validateApiServer python arguments.apiServer).bind fun apiServer =>
      (validateName arguments.namespaceName false).bind fun namespaceName =>
        (validateName arguments.releaseName true).bind fun releaseName =>
          if database.targets.any fun row =>
              decide (row.fields.identity = (apiServer, namespaceName, releaseName)) &&
                decide (row.fields.project ≠ project.pk) then
            .error (.python (.valueError
              "cluster namespace/release identity belongs to another project"))
          else
            (validateCredentialRef arguments.credentialRef).bind fun credentialRef =>
              (validateOptionalName arguments.ingressClass).bind fun ingressClass =>
                (validateOptionalName arguments.tlsSecretName).bind fun tlsSecretName =>
                  .ok
                    { project := project.pk, agent := agent.pk
                      name := String.ofList ((strip arguments.name).toList.take 80)
                      apiServer := apiServer, namespaceName := namespaceName
                      releaseName := releaseName, credentialRef := credentialRef
                      ingressClass := ingressClass, tlsSecretName := tlsSecretName }

/-- `_REQUIRED_PERMISSIONS` -/
def requiredPermissions : List String := ["deployments", "jobs", "services", "ingresses", "secrets"]

/-- `RuntimeKubernetesBackend.validate`, which draws a job id. -/
def validate (agentId jobId : String) (course : Course) : Except PyException TargetValidation :=
  (runBackend agentId jobId course).map fun result =>
    if result.status = "succeeded" then ⟨true, true, true, requiredPermissions⟩
    else ⟨false, false, false, []⟩

/-! ## Answers -/

/-- What a resolver answers: a row, a code with a message, or an exception that
it lets pass. -/
inductive Answer
  | row (pk : Nat)
  | refused (code message : String)
  | raised (error : ServiceError)
  deriving DecidableEq

/-- The exceptions of `_start`. -/
def startAnswer : Except ServiceError Nat -> Answer
  | .ok pk => .row pk
  | .error .doesNotExist => .refused "NOT_FOUND" "resource not found"
  | .error (.python (.valueError _)) => .refused "INVALID_DIAGNOSTIC" "unsupported diagnostic"
  | .error error => .raised error

/-- The exceptions of `_cancel` and `_cancel_kubernetes_release`. -/
def cancelAnswer (missing : String) : Except ServiceError Nat -> Answer
  | .ok pk => .row pk
  | .error .doesNotExist => .refused "NOT_FOUND" missing
  | .error error => .raised error

/-- The exceptions of `_register_target` and `_start_kubernetes_release`. -/
def kubernetesAnswer (missing code : String) : Except ServiceError Nat -> Answer
  | .ok pk => .row pk
  | .error .doesNotExist => .refused "NOT_FOUND" missing
  | .error (.python (.valueError message)) => .refused code message
  | .error (.python (.runtimeError message)) => .refused code message
  | .error error => .raised error

def operationAnswer : Except ServiceError Nat -> Answer := cancelAnswer "operation not found"

def releaseAnswer : Except ServiceError Nat -> Answer :=
  kubernetesAnswer "target not found" "RELEASE_FAILED"

def cancelReleaseAnswer : Except ServiceError Nat -> Answer := cancelAnswer "release not found"

end Console
end ControlPlane
end DjangoOps
