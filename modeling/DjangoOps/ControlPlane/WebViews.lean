import DjangoOps.Cli.IntegrationEvaluation
import DjangoOps.ControlPlane.Metrics
import DjangoOps.ControlPlane.ProjectIsolation
import DjangoOps.Foundation.Refinement

namespace DjangoOps
namespace ControlPlane

open Protocol Gateway OperationsService

universe u

/-!
# The views of the web console

The views beside the GraphQL endpoint.  Two of them hand an operation over to
`OperationsService`; what the service does from there on are the phases of the
calls of the console, so a run of the web console is a run of the calls.
-/

namespace Web

/-! ## Requests -/

inductive Method
  | get
  | post
  | other
  deriving DecidableEq

/-- Who sends a request; nobody is logged in without a user. -/
structure Visitor where
  user : Option Nat
  staff : Bool

/-- The body as `json.loads` reads it, an empty one as `{}`.  Bytes that are no
UTF-8 and documents that are nested too deeply raise something else than a
`JSONDecodeError`. -/
inductive Body (Other : Type)
  | value (value : Yaml Other)
  | malformed
  | unreadable

/-- The routes of `urls.py` to the views of the project. -/
inductive Page (Other : Type)
  | dashboard (live : Bool)
  | metrics
  | ecosystem (project : Nat) (body : Body Other)
  | operationUpdate (operationId : String)
  | cancelDiagnostic (operationId : String)
  | startDiagnostic (project agent : Nat)

structure Request (Other : Type) where
  visitor : Visitor
  method : Method
  page : Page Other

/-! ## Replies -/

/-- One project on the dashboard.  An operation comes with the identifier of
its agent, and a release with the name of its target. -/
structure DashboardRow where
  project : Project
  agents : List (AgentRegistration × AgentState)
  operations : List (OperationRow × String)
  kubernetesTargets : List TargetRow
  kubernetesReleases : List (ReleaseRow × String)
  observability : Console.Summary
  deriving DecidableEq

/-- An entry of the catalog. -/
structure EcosystemIntegrationStatus where
  name : String
  versions : List String
  capabilities : List String
  deriving DecidableEq

/-- What a view lets pass. -/
inductive ViewError
  | service (error : ServiceError)
  | valueError (message : String)
  | keyError (key : String)
  | unreadableBody
  deriving DecidableEq

/-- What a view answers: a redirect to the login, a refusal, a page or a document with what
it shows, or the exception that it lets pass. -/
inductive Reply
  | login
  | notAllowed
  | forbidden
  | notFound
  | invalid (code : String)
  | dashboard (rows : List DashboardRow) (demoEnabled demoMode : Bool)
  | metrics (text : String)
  | update (id : String) (status : OperationStatus) (errorCode : Option String)
      (result : ResultSummary)
  | catalog (entries : List EcosystemIntegrationStatus)
  | evaluated (results : List Cli.IntegrationResult)
  | raised (error : ViewError)
  deriving DecidableEq

/-- A view replies, or it goes on in a service and redirects to the dashboard. -/
inductive Outcome
  | replied (reply : Reply)
  | called (effect : Console.Effect)

/-- What the visitor is shown; the redirect is the same for every call. -/
def Outcome.shown : Outcome -> Option Reply
  | .replied reply => some reply
  | .called _ => none

/-- `get_object_or_404`, and the `except` clauses that raise `Http404`. -/
def orNotFound {Row : Type u} (next : Row -> Outcome) : Except ServiceError Row -> Outcome
  | .ok row => next row
  | .error .doesNotExist => .replied .notFound
  | .error error => .replied (.raised (.service error))

/-! ## The views -/

variable {Number : Type u} {Other : Type}

/-- The settings of the process, and the parts of Python. -/
structure Setting (Number : Type u) (Other : Type) where
  console : Console.Setting Number
  python : Cli.Python Other
  demoEnabled : Bool
  otlpConfigured : Bool

/-- `Project.objects.filter(members=user)`, the row with the key. -/
def memberProject (database : Database) (user project : Nat) : Except ServiceError Project :=
  getRow (database.projects.filter fun row =>
    decide (user ∈ row.members) && decide (row.pk = project))

def projectAgent (database : Database) (project : Project) (agent : Nat) :
    Except ServiceError AgentRegistration :=
  getRow (database.agents.filter fun row =>
    decide (row.project = project.pk) && decide (row.pk = agent))

/-- `release.target.name` -/
def targetName (database : Database) (target : Nat) : String :=
  ((database.target? target).map fun row => row.fields.name).getD ""

section Views

variable (setting : Setting Number Other) (database : Database) (runtime : Runtime)
  (user : Nat)

def dashboardRow (project : Project) : Except ServiceError DashboardRow :=
  (memberProject database user project.pk).map fun member =>
    { project := project
      agents := (Console.agentsOf database project).map fun agent =>
        (agent, agentState runtime agent)
      operations := ((Console.operationsOf database project).take 20).map fun row =>
        (row, database.agentId row.agent)
      kubernetesTargets := Console.targetsOf database project
      kubernetesReleases := ((Console.kubernetesReleasesOf database project).take 20).map fun row =>
        (row, targetName database row.target)
      observability := Console.summaryForProject setting.otlpConfigured database runtime member }

/-- `dashboard` -/
def dashboard (live : Bool) : Outcome :=
  let demoMode := setting.demoEnabled && !live
  let projects := if demoMode then [] else
    (database.projects.filter fun row => decide (user ∈ row.members)).insertionSort
      fun left right => left.slug ≤ right.slug
  match projects.mapM (dashboardRow setting database runtime user) with
  | .ok rows => .replied (.dashboard rows setting.demoEnabled demoMode)
  | .error error => .replied (.raised (.service error))

/-- `operation_update`; a `ValidationError` is no `ValueError`. -/
def operationUpdate (operationId : String) : Outcome :=
  orNotFound (fun row => .replied (.update row.publicId row.operation.status
      (Console.nonempty row.operation.errorCode) row.operation.resultSummary))
    (Console.getOperation setting.console database user operationId)

/-- `cancel_diagnostic` -/
def cancelDiagnostic (operationId : String) : Outcome :=
  orNotFound (fun row => .called (none, .refreshing row.pk))
    (Console.getOperation setting.console database user operationId)

/-- `start_diagnostic` -/
def startDiagnostic (project agent : Nat) (drawn : Console.Drawn) : Outcome :=
  orNotFound (fun project =>
      orNotFound (fun agent =>
          let row := Console.newOperation database user agent "django_health" drawn
          .called (some (.createOperation row), .asking row.pk row.project))
        (projectAgent database project agent))
    (memberProject database user project)

/-- `project_catalog` -/
def projectCatalog (project : Nat) : Except ServiceError (List EcosystemIntegrationStatus) :=
  (memberProject database user project).map fun _ =>
    (Cli.builtinRegistry.insertionSort fun left right => left.name ≤ right.name).map
      fun definition => ⟨definition.name, definition.versions,
        definition.capabilities.map Cli.IntegrationCapability.value⟩

/-- The evaluations one after another; each has the default budget. -/
def evaluateAll (slug : String) (clock : Nat -> Nat) :
    Nat -> List Cli.IntegrationConfig -> Except Cli.EvaluationError (List Cli.IntegrationResult)
  | _, [] => .ok []
  | index, integration :: rest => do
      let result <- Cli.evaluateIntegration integration [("project", slug)] 100 (clock index)
      let others <- evaluateAll slug clock (index + 1) rest
      .ok (result :: others)

/-- The `except` clauses of `ecosystem_project` on what the parser raises. -/
def parseReply : Cli.ConfigError -> Reply
  | .integrationError code _ => .invalid code
  | .valueError message => .raised (.valueError message)

/-- `evaluate_project_integrations` -/
def evaluateProjectIntegrations (project : Nat) (integrations : List Cli.IntegrationConfig)
    (clock : Nat -> Nat) : Outcome :=
  orNotFound (fun project =>
      match evaluateAll project.slug clock 0 integrations with
      | .ok results => .replied (.evaluated results)
      | .error (.integration error) => .replied (parseReply error)
      | .error (.keyError key) => .replied (.raised (.keyError key)))
    (memberProject database user project)

/-- `ecosystem_project` for a member or not; the document is parsed before the
project is looked up. -/
def ecosystemProject (method : Method) (project : Nat) (body : Body Other) (clock : Nat -> Nat) :
    Outcome :=
  if method = .get then
    orNotFound (fun entries => .replied (.catalog entries))
      (projectCatalog database user project)
  else
    match body with
    | .malformed => .replied (.invalid "INVALID_REQUEST")
    | .unreadable => .replied (.raised .unreadableBody)
    | .value (.dict members) =>
        match Cli.parseIntegrations setting.python
            ((Yaml.get "integrations" members).getD (.list [])) with
        | .error error => .replied (parseReply error)
        | .ok integrations =>
            evaluateProjectIntegrations database user project integrations clock
    | .value _ => .replied (.invalid "INVALID_REQUEST")

end Views

/-- What the views read beside the database: the gateway, the counters of the
telemetry, and the time that each evaluation takes. -/
structure Surroundings where
  runtime : Runtime
  fields : Telemetry.Fields
  clock : Nat -> Nat

/-- A request of a user, under `require_GET`, `require_POST` and
`require_http_methods`. -/
def respondTo (setting : Setting Number Other) (database : Database) (around : Surroundings)
    (drawn : Console.Drawn) (user : Nat) (request : Request Other) : Outcome :=
  match request.page with
  | .dashboard live => dashboard setting database around.runtime user live
  | .metrics =>
      if request.method ≠ .get then .replied .notAllowed
      else if request.visitor.staff = false then .replied .forbidden
      else
        .replied (.metrics (Telemetry.prometheus around.fields
          (Telemetry.prometheusExtra database around.runtime)))
  | .ecosystem project body =>
      if request.method = .other then .replied .notAllowed
      else ecosystemProject setting database user request.method project body around.clock
  | .operationUpdate operationId =>
      if request.method ≠ .get then .replied .notAllowed
      else operationUpdate setting database user operationId
  | .cancelDiagnostic operationId =>
      if request.method ≠ .post then .replied .notAllowed
      else cancelDiagnostic setting database user operationId
  | .startDiagnostic project agent =>
      if request.method ≠ .post then .replied .notAllowed
      else startDiagnostic database user project agent drawn

/-- A request under `login_required`. -/
def respond (setting : Setting Number Other) (database : Database) (around : Surroundings)
    (drawn : Console.Drawn) (request : Request Other) : Outcome :=
  match request.visitor.user with
  | none => .replied .login
  | some user => respondTo setting database around drawn user request

/-! ## Runs -/

/-- A step of the web console: a step of a call, a mutation of GraphQL among
them, or a visit to a view on the thread with the given number. -/
inductive Action (Number : Type u) (Other : Type)
  | call (number : Nat) (input : Console.Input Number)
  | visit (number : Nat) (request : Request Other) (around : Surroundings) (drawn : Console.Drawn)

/-- A view goes on in the service, on a thread that is free. -/
def goOn (state : Console.State) (number user : Nat) (drawn : Console.Drawn)
    (effect : Console.Effect) : Option Console.State :=
  if drawn.publicId ∈ state.drawn ∨ drawn.operationId ∈ state.drawn then none
  else
    match (state.calls number).phase with
    | .idle =>
        some
          { database := Console.State.execute state.database effect.1
            calls := Function.update state.calls number ⟨user, effect.2, none⟩
            drawn := drawn.publicId :: drawn.operationId :: state.drawn }
    | _ => none

def step (setting : Setting Number Other) (state : Console.State) :
    Action Number Other -> Option Console.State
  | .call number input => Console.step setting.console state (number, input)
  | .visit number request around drawn =>
      match respond setting state.database around drawn request with
      | .replied _ => some state
      | .called effect => goOn state number (request.visitor.user.getD 0) drawn effect

def machine (setting : Setting Number Other) (admissible : Database -> Prop) :
    Transition.Machine Console.State (Action Number Other) where
  initial := Console.Starts admissible
  step := step setting

/-- The mutation that does what a view does. -/
def mutationOf : Page Other -> Option (Console.Mutation Number)
  | .startDiagnostic project agent =>
      some (.startDiagnostic (toString project) (toString agent) "django_health")
  | .cancelDiagnostic operationId => some (.cancelDiagnostic operationId)
  | _ => none

/-- The steps of calls that a step of the web console shows. -/
def shows (setting : Setting Number Other) (state : Console.State) :
    Action Number Other -> List (Nat × Console.Input Number)
  | .call number input => [(number, input)]
  | .visit number request around drawn =>
      match respond setting state.database around drawn request, mutationOf request.page with
      | .called _, some mutation =>
          [(number, .issue (request.visitor.user.getD 0) mutation drawn)]
      | _, _ => []

/-! ## The views as mutations -/

section Lookups

variable {setting : Setting Number Other} {database : Database} {user : Nat}

/-- `int(str(key))` is the key. -/
def Setting.ReadsKeys (setting : Setting Number Other) : Prop :=
  forall key : Nat, setting.console.int (toString key) = some (key : Int)

theorem getProject_toString (reads : setting.ReadsKeys) (project : Nat) :
    Console.getProject setting.console database user (toString project) =
      memberProject database user project := by
  unfold Console.getProject memberProject
  rw [reads project]
  dsimp only
  simp only [Int.natCast_inj]

theorem getAgent_toString (reads : setting.ReadsKeys) (project : Project) (agent : Nat) :
    Console.getAgent setting.console database project (toString agent) =
      projectAgent database project agent := by
  unfold Console.getAgent projectAgent
  rw [reads agent]
  dsimp only
  simp only [Int.natCast_inj]

theorem orNotFound_called {Row : Type u} {next : Row -> Outcome} {found : Except ServiceError Row}
    {effect : Console.Effect} (called : orNotFound next found = .called effect) :
    Exists fun row : Row => found = .ok row ∧ next row = .called effect := by
  unfold orNotFound at called
  split at called
  · exact ⟨_, rfl, called⟩
  · cases called
  · cases called

theorem dashboard_replies {runtime : Runtime} {live : Bool} {effect : Console.Effect} :
    dashboard setting database runtime user live ≠ .called effect := by
  intro called
  unfold dashboard at called
  dsimp only at called
  split at called <;> cases called

theorem operationUpdate_replies {operationId : String} {effect : Console.Effect} :
    operationUpdate setting database user operationId ≠ .called effect := by
  intro called
  rcases orNotFound_called called with ⟨_, _, replied⟩
  cases replied

theorem ecosystemProject_replies {method : Method} {project : Nat} {body : Body Other}
    {clock : Nat -> Nat} {effect : Console.Effect} :
    ecosystemProject setting database user method project body clock ≠ .called effect := by
  intro called
  unfold ecosystemProject at called
  split at called
  · rcases orNotFound_called called with ⟨_, _, replied⟩
    cases replied
  · split at called
    · cases called
    · cases called
    · split at called
      · cases called
      · rcases orNotFound_called called with ⟨_, _, replied⟩
        split at replied <;> cases replied
    · cases called

theorem cancelDiagnostic_issue {drawn : Console.Drawn} {operationId : String}
    {effect : Console.Effect}
    (called : cancelDiagnostic setting database user operationId = .called effect) :
    Console.issue setting.console database user drawn (.cancelDiagnostic operationId) = effect := by
  rcases orNotFound_called called with ⟨row, found, next⟩
  cases next
  unfold Console.issue
  dsimp only
  rw [found]

theorem startDiagnostic_issue (reads : setting.ReadsKeys) {drawn : Console.Drawn}
    {project agent : Nat} {effect : Console.Effect}
    (called : startDiagnostic database user project agent drawn = .called effect) :
    Console.issue setting.console database user drawn
      (.startDiagnostic (toString project) (toString agent) "django_health") = effect := by
  rcases orNotFound_called called with ⟨row, found, next⟩
  rcases orNotFound_called next with ⟨registered, listed, last⟩
  cases last
  unfold Console.issue Console.startDiagnostic
  dsimp only
  rw [getProject_toString reads, found]
  dsimp only [Except.bind]
  rw [getAgent_toString reads, listed]
  rfl

/-- A view that goes on does what one of the mutations does. -/
theorem issue_of_called (reads : setting.ReadsKeys) {around : Surroundings}
    {drawn : Console.Drawn} {request : Request Other} {effect : Console.Effect}
    (called : respond setting database around drawn request = .called effect) :
    Exists fun user : Nat => request.visitor.user = some user ∧
      Exists fun mutation : Console.Mutation Number => mutationOf request.page = some mutation ∧
        Console.issue setting.console database user drawn mutation = effect := by
  unfold respond at called
  split at called
  · cases called
  · rename_i user logged
    refine ⟨user, logged, ?_⟩
    unfold respondTo at called
    split at called
    · exact absurd called dashboard_replies
    · split at called
      · cases called
      · split at called <;> cases called
    · split at called
      · cases called
      · exact absurd called ecosystemProject_replies
    · split at called
      · cases called
      · exact absurd called operationUpdate_replies
    · rename_i operationId page
      split at called
      · cases called
      · exact ⟨_, by rw [page]; rfl, cancelDiagnostic_issue called⟩
    · rename_i project agent page
      split at called
      · cases called
      · exact ⟨_, by rw [page]; rfl, startDiagnostic_issue reads called⟩

end Lookups

/-- A view goes on as the call of its mutation does. -/
theorem step_issue {setting : Console.Setting Number} {state : Console.State} {number user : Nat}
    {drawn : Console.Drawn} {mutation : Console.Mutation Number} {effect : Console.Effect}
    (issued : Console.issue setting state.database user drawn mutation = effect) :
    Console.step setting state (number, .issue user mutation drawn) =
      goOn state number user drawn effect := by
  have drawnBefore : ((Console.Input.issue user mutation drawn).draws.any fun text =>
      decide (text ∈ state.drawn)) = true <->
        drawn.publicId ∈ state.drawn ∨ drawn.operationId ∈ state.drawn := by
    simp only [Console.Input.draws, List.any_cons, List.any_nil, Bool.or_false, Bool.or_eq_true,
      decide_eq_true_eq]
  unfold Console.step goOn
  by_cases taken : drawn.publicId ∈ state.drawn ∨ drawn.operationId ∈ state.drawn
  · exact (if_pos (drawnBefore.mpr taken)).trans (if_pos taken).symm
  · refine (if_neg fun known => taken (drawnBefore.mp known)).trans ?_
    rw [if_neg taken]
    unfold Console.advance
    dsimp only
    rw [issued]
    cases (state.calls number).phase <;> rfl

/-- The web console is the console of the calls: a view either leaves the state
alone or does what a mutation does. -/
def refinement (setting : Setting Number Other) (reads : setting.ReadsKeys)
    (admissible : Database -> Prop) :
    Transition.Machine.Refinement (machine setting admissible) (fun _ _ => True) (shows setting)
      (Console.machine setting.console admissible) where
  related := fun state spec => state = spec
  start := fun state starts => ⟨state, starts, rfl⟩
  step := by
    rintro before action after _ _ stepped rfl
    cases action with
    | call number input => exact ⟨after, (Transition.Machine.perform_one _ _ _).trans stepped, rfl⟩
    | visit number request around drawn =>
        change (match respond setting before.database around drawn request with
          | .replied _ => some before
          | .called effect => goOn before number (request.visitor.user.getD 0) drawn effect) =
            some after at stepped
        cases answered : respond setting before.database around drawn request with
        | replied reply =>
            rw [answered] at stepped
            refine ⟨before, ?_, (Option.some.inj stepped).symm⟩
            unfold shows
            dsimp only
            rw [answered]
            rfl
        | called effect =>
            rw [answered] at stepped
            rcases issue_of_called reads answered with ⟨user, logged, mutation, own, issued⟩
            refine ⟨after, ?_, rfl⟩
            unfold shows
            dsimp only
            rw [answered, own]
            dsimp only
            refine (Transition.Machine.perform_one _ _ _).trans ?_
            rw [logged] at stepped ⊢
            exact (step_issue issued).trans stepped

end Web
end ControlPlane
end DjangoOps
