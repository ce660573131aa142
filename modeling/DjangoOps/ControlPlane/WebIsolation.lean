import DjangoOps.ControlPlane.WebViews

namespace DjangoOps
namespace ControlPlane

open Protocol Gateway OperationsService

universe u

/-!
# Isolation of projects in the web console

What a view shows of a row beside its own columns lies behind a foreign key:
the agent of an operation, and the target of a release.  These belong to the
project of the row in every run, so a page depends on the projects of its
visitor only.
-/

/-- Every operation is one of an agent of its project. -/
structure Attributed (database : Database) : Prop where
  keys : (database.agents.map AgentRegistration.pk).Nodup
  owned : forall row, row ∈ database.operations -> Exists fun agent : AgentRegistration =>
    agent ∈ database.agents ∧ agent.pk = row.agent ∧ agent.project = row.project

namespace Console

variable {Number : Type u} {setting : Setting Number} {database : Database}

/-- The rows of a later table keep the agents and the projects of earlier rows,
or they have an agent of their project. -/
theorem attributed_of_origin (attributed : Attributed database) {operations : List OperationRow}
    {sequence : Nat}
    (origin : forall row, row ∈ operations ->
      (Exists fun earlier : OperationRow => earlier ∈ database.operations ∧
        earlier.agent = row.agent ∧ earlier.project = row.project) ∨
      Exists fun agent : AgentRegistration =>
        agent ∈ database.agents ∧ agent.pk = row.agent ∧ agent.project = row.project) :
    Attributed { database with operations := operations, operationSequence := sequence } := by
  refine ⟨attributed.keys, fun row listed => ?_⟩
  rcases origin row listed with ⟨earlier, known, agent, project⟩ | own
  · rw [← agent, ← project]
    exact attributed.owned earlier known
  · exact own

theorem origin_update {pk : Nat} {change : OperationRow -> OperationRow} {row : OperationRow}
    (listed : row ∈ Table.update OperationRow.pk pk change database.operations)
    (agent : forall row, (change row).agent = row.agent)
    (project : forall row, (change row).project = row.project) :
    Exists fun earlier : OperationRow => earlier ∈ database.operations ∧
      earlier.agent = row.agent ∧ earlier.project = row.project := by
  rcases Table.mem_update.mp listed with ⟨earlier, known, _, rfl⟩ | ⟨known, _⟩
  · exact ⟨earlier, known, (agent earlier).symm, (project earlier).symm⟩
  · exact ⟨row, known, rfl, rfl⟩

/-- A statement keeps the attribution, when a row that it creates has it. -/
theorem attributed_execute (attributed : Attributed database) {statement : Option Statement}
    (fits : forall row, statement = some (.createOperation row) ->
      Exists fun agent : AgentRegistration =>
        agent ∈ database.agents ∧ agent.pk = row.agent ∧ agent.project = row.project) :
    Attributed (State.execute database statement) := by
  cases statement with
  | none => exact attributed
  | some statement =>
      cases statement with
      | createOperation row =>
          refine attributed_of_origin attributed fun other listed => ?_
          rcases List.mem_cons.mp listed with rfl | known
          · exact Or.inr (fits other rfl)
          · exact Or.inl ⟨other, known, rfl, rfl⟩
      | saveOperation =>
          exact attributed_of_origin attributed fun row listed =>
            Or.inl (origin_update listed (fun _ => rfl) fun _ => rfl)
      | updateOperation =>
          exact attributed_of_origin attributed fun row listed =>
            Or.inl (origin_update listed (fun _ => rfl) fun _ => rfl)
      | deleteOperations =>
          exact attributed_of_origin attributed fun row listed =>
            Or.inl ⟨row, List.mem_of_mem_filter listed, rfl, rfl⟩
      | _ => exact ⟨attributed.keys, attributed.owned⟩

/-- The row that a resolver creates is one of an agent that it has looked up. -/
theorem agent_of_issue {user : Nat} {drawn : Drawn} {mutation : Mutation Number}
    {row : OperationRow}
    (created : (issue setting database user drawn mutation).1 = some (.createOperation row)) :
    Exists fun agent : AgentRegistration =>
      agent ∈ database.agents ∧ agent.pk = row.agent ∧ agent.project = row.project := by
  have resolved := @issued _ setting database user drawn mutation
  cases mutation with
  | startDiagnostic projectId agentId diagnostic =>
      change (startDiagnostic setting database user projectId agentId diagnostic drawn).1 =
        some (.createOperation row) at created
      unfold startDiagnostic at created
      cases foundProject : getProject setting database user projectId with
      | error error =>
          rw [foundProject] at created
          cases created
      | ok project =>
          cases foundAgent : getAgent setting database project agentId with
          | error error =>
              simp only [foundProject, Except.bind, foundAgent] at created
              cases created
          | ok agent =>
              have listed : agent ∈ database.agents := by
                unfold getAgent at foundAgent
                split at foundAgent
                · cases foundAgent
                · exact List.mem_of_mem_filter (mem_of_getRow foundAgent)
              simp only [foundProject, Except.bind, foundAgent] at created
              split at created
              · cases created
              · rename_i accepted
                split at accepted
                · cases accepted
                  cases created
                  exact ⟨_, listed, rfl, rfl⟩
                · cases accepted
  | _ =>
      generalize issue setting database user drawn _ = effect at created resolved
      cases resolved <;> cases created

theorem attributed_of_move {call after : Call} {input : Input Number}
    {statement : Option Statement} (attributed : Attributed database)
    (advanced : advance setting database call input = some (statement, after)) :
    Attributed (State.execute database statement) := by
  refine attributed_execute attributed fun row created => ?_
  have move := advance_move advanced
  subst created
  cases input with
  | issue user mutation drawn =>
      unfold advance at advanced
      dsimp only at advanced
      split at advanced
      · have effect := congrArg Prod.fst (Option.some.inj advanced)
        exact agent_of_issue effect
      · cases advanced
  | insert drawn =>
      generalize same : some (Statement.createOperation row) = executed at move
      cases move with
      | opened target agentId intent drawn effect opening transaction =>
          cases transaction <;> cases same
      | _ => cases same
  | _ =>
      generalize same : some (Statement.createOperation row) = executed at move
      cases move <;> cases same

theorem attributed_of_reachable {state : State}
    (reached : (machine setting Attributed).Reachable state) : Attributed state.database := by
  refine reached.invariant (fun start (starts : Starts Attributed start) => starts.admissible) ?_
  intro before action after _ attributed _ stepped
  rcases action with ⟨number, input⟩
  rcases step_advance stepped with ⟨_, statement, call, advanced, rfl⟩
  exact attributed_of_move attributed advanced

end Console

/-! ## Foreign keys within a project -/

/-- The constraints under which a foreign key stays within its project. -/
structure Linked (database : Database) : Prop where
  consistent : database.Consistent
  attributed : Attributed database

section Links

variable {user : Nat} {left right : Database}

theorem agentId_of_mem {database : Database} (attributed : Attributed database)
    {agent : AgentRegistration} (listed : agent ∈ database.agents) :
    database.agentId agent.pk = agent.agentId := by
  unfold Database.agentId
  rw [Table.find?_of_nodup attributed.keys listed]
  rfl

/-- Two databases that agree on the projects of the user name the same agent
for an operation of one of them. -/
theorem agentId_congr (same : left.visible user = right.visible user)
    (leftLinked : Linked left) (rightLinked : Linked right) {row : OperationRow}
    (listed : row ∈ left.operations) (member : left.isMember user row.project = true) :
    left.agentId row.agent = right.agentId row.agent := by
  rcases leftLinked.attributed.owned row listed with ⟨agent, known, key, project⟩
  have seen : agent ∈ (left.visible user).agents :=
    List.mem_filter.mpr ⟨known, by rw [project]; exact member⟩
  rw [same] at seen
  rw [← key, agentId_of_mem leftLinked.attributed known,
    agentId_of_mem rightLinked.attributed (List.mem_of_mem_filter seen)]

theorem targetName_of_mem {database : Database} (consistent : database.Consistent)
    {target : TargetRow} (listed : target ∈ database.targets) :
    Web.targetName database target.pk = target.fields.name := by
  unfold Web.targetName Database.target?
  rw [consistent.targets.find?_of_mem listed]
  rfl

/-- The same for the target of a release. -/
theorem targetName_congr (same : left.visible user = right.visible user)
    (leftLinked : Linked left) (rightLinked : Linked right) {row : ReleaseRow}
    (listed : row ∈ left.releases) (member : left.isMember user row.project = true) :
    Web.targetName left row.target = Web.targetName right row.target := by
  rcases leftLinked.consistent.referred row listed with ⟨target, known, key⟩
  have project := leftLinked.consistent.owned row target listed known key
  have seen : target ∈ (left.visible user).targets :=
    List.mem_filter.mpr ⟨known, by rw [← project]; exact member⟩
  rw [same] at seen
  rw [← key, targetName_of_mem leftLinked.consistent known,
    targetName_of_mem rightLinked.consistent (List.mem_of_mem_filter seen)]

end Links

namespace Web

variable {Number : Type u} {Other : Type} {setting : Setting Number Other}

/-! ## What a visitor is shown -/

section Shown

variable {user : Nat} {left right : Database} {leftRuntime rightRuntime : Runtime}

theorem memberProject_congr (same : left.visible user = right.visible user) (project : Nat) :
    memberProject left user project = memberProject right user project := by
  have narrow : forall database : Database, (database.projects.filter fun row =>
      decide (user ∈ row.members) && decide (row.pk = project)) =
        (database.projects.filter fun row => decide (user ∈ row.members)).filter fun row =>
          decide (row.pk = project) := by
    intro database
    rw [List.filter_filter]
    exact List.filter_congr fun row _ => Bool.and_comm _ _
  unfold memberProject
  rw [narrow, narrow right, Console.memberProjects, Console.memberProjects right, same]

theorem member_of_memberProject {database : Database} {project : Nat} {row : Project}
    (found : memberProject database user project = .ok row) :
    row.pk = project ∧ database.isMember user project = true := by
  have listed := Console.mem_of_getRow found
  rw [List.mem_filter, Bool.and_eq_true, decide_eq_true_eq, decide_eq_true_eq] at listed
  refine ⟨listed.2.2, ?_⟩
  exact List.any_eq_true.mpr ⟨row, listed.1, decide_eq_true ⟨listed.2.2, listed.2.1⟩⟩

theorem dashboardRow_congr (agree : Console.Agree user left right leftRuntime rightRuntime)
    (leftLinked : Linked left) (rightLinked : Linked right) (project : Project)
    (member : left.isMember user project.pk = true) :
    dashboardRow setting left leftRuntime user project =
      dashboardRow setting right rightRuntime user project := by
  rcases Console.tables_congr agree.rows member with ⟨agents, operations, targets, releases⟩
  have states : ((Console.agentsOf left project).map fun agent =>
      (agent, agentState leftRuntime agent)) = (Console.agentsOf right project).map fun agent =>
        (agent, agentState rightRuntime agent) := by
    rw [← agents]
    refine List.map_congr_left fun agent listed => ?_
    rw [Console.agentState_congr (agree.connections agent
      (Console.mem_visible_of_agentsOf member listed))]
  have named : (((Console.operationsOf left project).take 20).map fun row =>
      (row, left.agentId row.agent)) = ((Console.operationsOf right project).take 20).map
        fun row => (row, right.agentId row.agent) := by
    rw [← operations]
    refine List.map_congr_left fun row listed => ?_
    have own := List.mem_of_mem_take listed
    unfold Console.operationsOf newestFirst at own
    rw [List.mem_insertionSort, List.mem_filter, decide_eq_true_eq] at own
    rw [agentId_congr agree.rows leftLinked rightLinked own.1 (own.2.symm ▸ member)]
  have aimed : (((Console.kubernetesReleasesOf left project).take 20).map fun row =>
      (row, targetName left row.target)) =
        ((Console.kubernetesReleasesOf right project).take 20).map fun row =>
          (row, targetName right row.target) := by
    rw [← releases]
    refine List.map_congr_left fun row listed => ?_
    have own := List.mem_of_mem_take listed
    unfold Console.kubernetesReleasesOf newestFirst at own
    rw [List.mem_insertionSort, List.mem_filter, decide_eq_true_eq] at own
    rw [targetName_congr agree.rows leftLinked rightLinked own.1 (own.2.symm ▸ member)]
  unfold dashboardRow
  rw [memberProject_congr agree.rows, states, named, targets, aimed]
  cases found : memberProject right user project.pk with
  | error error => rfl
  | ok row =>
      have own : left.isMember user row.pk = true := (member_of_memberProject found).1 ▸ member
      have summary := Console.summary_congr agree own setting.otlpConfigured
      simp only [Except.map, summary]

theorem dashboard_congr (agree : Console.Agree user left right leftRuntime rightRuntime)
    (leftLinked : Linked left) (rightLinked : Linked right) (live : Bool) :
    dashboard setting left leftRuntime user live =
      dashboard setting right rightRuntime user live := by
  have projects : (left.projects.filter fun row => decide (user ∈ row.members)) =
      right.projects.filter fun row => decide (user ∈ row.members) := by
    rw [Console.memberProjects, Console.memberProjects right, agree.rows]
  have rows : forall list : List Project,
      (forall project, project ∈ list -> left.isMember user project.pk = true) ->
        list.mapM (dashboardRow setting left leftRuntime user) =
          list.mapM (dashboardRow setting right rightRuntime user) := by
    intro list
    induction list with
    | nil => exact fun _ => rfl
    | cons project rest inductionHypothesis =>
        intro own
        rw [List.mapM_cons, List.mapM_cons,
          dashboardRow_congr agree leftLinked rightLinked project (own project List.mem_cons_self),
          inductionHypothesis fun other listed => own other (List.mem_cons_of_mem _ listed)]
  unfold dashboard
  dsimp only
  rw [← projects, rows]
  intro project listed
  split at listed
  · cases listed
  · rw [List.mem_insertionSort, List.mem_filter, decide_eq_true_eq] at listed
    exact List.any_eq_true.mpr ⟨project, listed.1, decide_eq_true ⟨rfl, listed.2⟩⟩

theorem projectAgent_congr (same : left.visible user = right.visible user) {project : Project}
    (member : left.isMember user project.pk = true) (agent : Nat) :
    projectAgent left project agent = projectAgent right project agent := by
  have narrow : forall database : Database, (database.agents.filter fun row =>
      decide (row.project = project.pk) && decide (row.pk = agent)) =
        (database.agents.filter fun row => decide (row.project = project.pk)).filter fun row =>
          decide (row.pk = agent) := by
    intro database
    rw [List.filter_filter]
    exact List.filter_congr fun row _ => Bool.and_comm _ _
  have tables := same
  unfold Database.visible Database.rowsOf at tables
  rw [show right.isMember user = left.isMember user from
    funext fun key => (Console.isMember_congr same key).symm] at tables
  rcases Rows.mk.inj tables with ⟨_, agents, _⟩
  unfold projectAgent
  rw [narrow, narrow right, Console.filter_project member agents]

/-- A lookup that fails is answered without the rest of the view. -/
theorem orNotFound_error {Row : Type u} (first second : Row -> Outcome) (error : ServiceError) :
    orNotFound first (.error error) = orNotFound second (.error error) := by
  cases error <;> rfl

theorem startDiagnostic_congr (same : left.visible user = right.visible user)
    (project agent : Nat) (drawn : Console.Drawn) :
    (startDiagnostic left user project agent drawn).shown =
      (startDiagnostic right user project agent drawn).shown := by
  unfold startDiagnostic
  rw [memberProject_congr same]
  cases found : memberProject right user project with
  | error error => exact congrArg Outcome.shown (orNotFound_error _ _ error)
  | ok row =>
      have own := member_of_memberProject found
      rw [← Console.isMember_congr same, ← own.1] at own
      change (orNotFound _ (projectAgent left row agent)).shown =
        (orNotFound _ (projectAgent right row agent)).shown
      rw [projectAgent_congr same own.2]
      cases projectAgent right row agent with
      | error error => exact congrArg Outcome.shown (orNotFound_error _ _ error)
      | ok registered => rfl

theorem ecosystemProject_congr (same : left.visible user = right.visible user) (method : Method)
    (project : Nat) (body : Body Other) (clock : Nat -> Nat) :
    ecosystemProject setting left user method project body clock =
      ecosystemProject setting right user method project body clock := by
  unfold ecosystemProject projectCatalog evaluateProjectIntegrations
  simp only [memberProject_congr same]

/-- A view shows the same on databases that agree on the projects of the user. -/
theorem respondTo_congr (agree : Console.Agree user left right leftRuntime rightRuntime)
    (leftLinked : Linked left) (rightLinked : Linked right) (fields : Telemetry.Fields)
    (clock : Nat -> Nat) (drawn : Console.Drawn) (request : Request Other)
    (other : request.page ≠ .metrics) :
    (respondTo setting left ⟨leftRuntime, fields, clock⟩ drawn user request).shown =
      (respondTo setting right ⟨rightRuntime, fields, clock⟩ drawn user request).shown := by
  rcases request with ⟨visitor, method, page⟩
  unfold respondTo
  dsimp only at other ⊢
  cases page with
  | dashboard live =>
      exact congrArg Outcome.shown (dashboard_congr agree leftLinked rightLinked live)
  | metrics => exact absurd rfl other
  | ecosystem project body =>
      dsimp only
      rw [ecosystemProject_congr agree.rows]
  | operationUpdate operationId =>
      dsimp only
      unfold operationUpdate
      rw [Console.getOperation_congr agree.rows]
  | cancelDiagnostic operationId =>
      dsimp only
      unfold cancelDiagnostic
      rw [Console.getOperation_congr agree.rows]
  | startDiagnostic project agent =>
      dsimp only
      split
      · rfl
      · exact startDiagnostic_congr agree.rows project agent drawn

end Shown

/-! ## Runs -/

section Runs

variable {admissible : Database -> Prop}

theorem reachable_of_web (reads : setting.ReadsKeys) {state : Console.State}
    (reached : (machine setting admissible).Reachable state) :
    (Console.machine setting.console admissible).Reachable state :=
  (refinement setting reads admissible).reachable rfl reached

/-- Whatever the views and the calls do, the foreign keys stay within projects. -/
theorem linked_of_web (reads : setting.ReadsKeys) {state : Console.State}
    (reached : (machine setting Attributed).Reachable state) : Linked state.database :=
  ⟨Console.consistent_of_reachable (reachable_of_web reads reached),
    Console.attributed_of_reachable (reachable_of_web reads reached)⟩

/-- A step that the user takes: a visit, or a step of one of their calls. -/
def StepOf (setting : Setting Number Other) (user : Nat) (before after : Console.State) : Prop :=
  (Exists fun number : Nat => Exists fun input : Console.Input Number =>
    step setting before (.call number input) = some after ∧ (after.calls number).user = user) ∨
  Exists fun number : Nat => Exists fun request : Request Other =>
    Exists fun around : Surroundings => Exists fun drawn : Console.Drawn =>
      request.visitor.user = some user ∧
        step setting before (.visit number request around drawn) = some after

/-- A step of the user is none, or one of their calls. -/
theorem stepOf_console (reads : setting.ReadsKeys) {user : Nat} {before after : Console.State}
    (stepped : StepOf setting user before after) :
    after = before ∨ Console.StepOf setting.console user before after := by
  rcases stepped with
    ⟨number, input, stepped, own⟩ | ⟨number, request, around, drawn, logged, stepped⟩
  · exact Or.inr ⟨number, input, stepped, own⟩
  · unfold step at stepped
    dsimp only at stepped
    cases answered : respond setting before.database around drawn request with
    | replied reply =>
        rw [answered] at stepped
        exact Or.inl (Option.some.inj stepped).symm
    | called effect =>
        rw [answered] at stepped
        dsimp only at stepped
        rcases issue_of_called reads answered with ⟨same, known, mutation, _, issued⟩
        rw [logged] at known stepped
        cases known
        rw [Option.getD_some, ← step_issue issued] at stepped
        refine Or.inr ⟨number, _, stepped, ?_⟩
        rcases Console.step_advance stepped with ⟨_, statement, call, advanced, rfl⟩
        dsimp only
        rw [Function.update_self]
        unfold Console.advance at advanced
        dsimp only at advanced
        split at advanced
        · cases advanced
          rfl
        · cases advanced

theorem foreign_of_run (reads : setting.ReadsKeys) {user : Nat} {before after : Console.State}
    (reached : (Console.machine setting.console admissible).Reachable before)
    (run : Relation.ReflTransGen (StepOf setting user) before after) :
    (Console.machine setting.console admissible).Reachable after ∧
      after.database.foreign user = before.database.foreign user := by
  induction run with
  | refl => exact ⟨reached, rfl⟩
  | tail _ stepped inductionHypothesis =>
      rcases inductionHypothesis with ⟨between, same⟩
      rcases stepOf_console reads stepped with rfl | own
      · exact ⟨between, same⟩
      · refine ⟨?_, (Console.foreign_of_step between own).trans same⟩
        rcases own with ⟨number, input, stepped, _⟩
        exact between.next (number, input) trivial stepped

end Runs

/-- A project of others is answered as one that does not exist. -/
theorem memberProject_foreign {database : Database} {user project : Nat}
    (foreign : database.isMember user project = false) :
    memberProject database user project = .error .doesNotExist := by
  have none : (database.projects.filter fun row =>
      decide (user ∈ row.members) && decide (row.pk = project)) = [] := by
    refine List.filter_eq_nil_iff.mpr fun row listed own => ?_
    rw [Bool.and_eq_true, decide_eq_true_eq, decide_eq_true_eq] at own
    exact List.any_eq_false.mp foreign row listed (decide_eq_true ⟨own.2, own.1⟩)
  unfold memberProject
  rw [none]
  rfl

/-- An operation of others is answered as one that does not exist. -/
theorem getOperation_foreign {setting : Console.Setting Number} {database : Database} {user : Nat}
    {operationId key : String} (parsed : setting.uuid operationId = some key)
    (foreign : forall row, row ∈ database.operations -> row.publicId = key ->
      database.isMember user row.project = false) :
    Console.getOperation setting database user operationId = .error .doesNotExist := by
  have none : (database.operations.filter fun row =>
      database.isMember user row.project && decide (row.publicId = key)) = [] := by
    refine List.filter_eq_nil_iff.mpr fun row listed own => ?_
    rw [Bool.and_eq_true, decide_eq_true_eq] at own
    rw [foreign row listed own.2] at own
    cases own.1
  unfold Console.getOperation Console.getPublic
  rw [parsed]
  dsimp only
  rw [none]
  rfl

/-- In every run of the web console, what a user is shown by any view but the
metrics depends on the projects of the user only, a project of others and an
operation of others are not found, and whatever the user visits, the rows of
other projects stay as they are. -/
theorem web_isolation (setting : Setting Number Other) (reads : setting.ReadsKeys) (user : Nat) :
    (forall left right leftRuntime rightRuntime,
      (machine setting Attributed).Reachable left -> (machine setting Attributed).Reachable right ->
      Console.Agree user left.database right.database leftRuntime rightRuntime ->
      forall fields clock drawn request, request.visitor.user = some user ->
        request.page ≠ .metrics ->
        (respond setting left.database ⟨leftRuntime, fields, clock⟩ drawn request).shown =
          (respond setting right.database ⟨rightRuntime, fields, clock⟩ drawn request).shown) ∧
    (forall database around drawn visitor project, visitor.user = some user ->
      Database.isMember database user project = false ->
      (forall agent, respond setting database around drawn
        ⟨visitor, .post, .startDiagnostic project agent⟩ = .replied .notFound) ∧
      (forall body, respond setting database around drawn
        ⟨visitor, .get, .ecosystem project body⟩ = .replied .notFound) ∧
      forall body results, respond setting database around drawn
        ⟨visitor, .post, .ecosystem project body⟩ ≠ .replied (.evaluated results)) ∧
    (forall database around drawn visitor operationId key, visitor.user = some user ->
      setting.console.uuid operationId = some key ->
      (forall row, row ∈ database.operations -> row.publicId = key ->
        Database.isMember database user row.project = false) ->
      respond setting database around drawn ⟨visitor, .get, .operationUpdate operationId⟩ =
          .replied .notFound ∧
        respond setting database around drawn ⟨visitor, .post, .cancelDiagnostic operationId⟩ =
          .replied .notFound) ∧
    (forall before after, (machine setting Attributed).Reachable before ->
      Relation.ReflTransGen (StepOf setting user) before after ->
      after.database.foreign user = before.database.foreign user) := by
  refine ⟨?_, ?_, ?_, fun before after reached run =>
    (foreign_of_run reads (reachable_of_web reads reached) run).2⟩
  · intro left right leftRuntime rightRuntime leftReached rightReached agree fields clock drawn
      request logged other
    unfold respond
    rw [logged]
    exact respondTo_congr agree (linked_of_web reads leftReached) (linked_of_web reads rightReached)
      fields clock drawn request other
  · intro database around drawn visitor project logged foreign
    have missing := memberProject_foreign foreign
    unfold respond
    dsimp only
    rw [logged]
    dsimp only [respondTo]
    refine ⟨fun agent => ?_, fun body => ?_, fun body results => ?_⟩
    · unfold startDiagnostic
      rw [missing]
      rfl
    · unfold ecosystemProject projectCatalog
      rw [missing]
      rfl
    · intro answered
      unfold ecosystemProject evaluateProjectIntegrations at answered
      rw [missing, if_neg (by decide), if_neg (by decide)] at answered
      split at answered
      · cases answered
      · cases answered
      · split at answered
        · rename_i error _
          cases error <;> cases answered
        · cases answered
      · cases answered
  · intro database around drawn visitor operationId key logged parsed foreign
    have missing := getOperation_foreign parsed foreign
    unfold respond
    dsimp only
    rw [logged]
    dsimp only [respondTo]
    unfold operationUpdate cancelDiagnostic
    rw [missing]
    exact ⟨rfl, rfl⟩

/-! ## A sample -/

/-- The sample of the calls, with an `int` that reads every numeral. -/
def sampleWeb : Setting Int Empty where
  console := { Console.sampleSetting with int := fun text => Json.readInteger text.toList }
  python := Cli.samplePython
  demoEnabled := false
  otlpConfigured := false

theorem sampleWeb_reads : sampleWeb.ReadsKeys := by
  intro key
  change Json.readInteger (Nat.repr key).toList = some (key : Int)
  rw [Nat.toList_repr]
  exact Json.readInteger_writeInteger (key : Int)

def sampleAround : Surroundings :=
  ⟨⟨none, fun _ => 0⟩, ⟨[], [], [], [], [], 0, 0, false⟩, fun _ => 0⟩

/-- The user 7 opens the dashboard. -/
def sampleVisit : Request Empty := ⟨⟨some 7, false⟩, .get, .dashboard true⟩

/-- The user 7 starts a diagnostic. -/
def sampleStart : Action Int Empty :=
  .visit 0 ⟨⟨some 7, false⟩, .post, .startDiagnostic 1 1⟩ sampleAround ⟨"a", "b", 0⟩

/-- The second project does not show on the dashboard, and starting a
diagnostic of the first one leaves it alone. -/
theorem web_isolation_sample :
    ((respond sampleWeb Console.sampleDatabase sampleAround ⟨"a", "b", 0⟩ sampleVisit).shown =
      (respond sampleWeb Console.largerDatabase sampleAround ⟨"a", "b", 0⟩ sampleVisit).shown) ∧
    Exists fun after : Console.State =>
      step sampleWeb (.fresh Console.largerDatabase) sampleStart = some after ∧
        after.database.operations.length = 1 ∧
          after.database.foreign 7 = Console.largerDatabase.foreign 7 := by
  have isolated := web_isolation sampleWeb sampleWeb_reads 7
  have left : (machine sampleWeb Attributed).Reachable (.fresh Console.sampleDatabase) :=
    .start (Console.starts_of_empty rfl rfl rfl ⟨by decide, fun _ listed => absurd listed
      List.not_mem_nil⟩)
  have right : (machine sampleWeb Attributed).Reachable (.fresh Console.largerDatabase) :=
    .start (Console.starts_of_empty rfl rfl rfl ⟨by decide, fun _ listed => absurd listed
      List.not_mem_nil⟩)
  refine ⟨isolated.1 _ _ _ _ left right ⟨by decide +kernel, fun _ _ => rfl⟩ _ _ _ sampleVisit rfl
    (fun impossible => by cases impossible), ?_⟩
  have inserted : (step sampleWeb (.fresh Console.largerDatabase) sampleStart).map (fun after =>
      after.database.operations.length) = some 1 := by
    decide +kernel
  rcases Option.map_eq_some_iff.mp inserted with ⟨after, stepped, same⟩
  refine ⟨after, stepped, same, isolated.2.2.2 (.fresh Console.largerDatabase) after right ?_⟩
  exact .single (Or.inr ⟨0, _, sampleAround, ⟨"a", "b", 0⟩, rfl, stepped⟩)

end Web

end ControlPlane
end DjangoOps
