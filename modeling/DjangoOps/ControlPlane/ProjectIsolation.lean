import DjangoOps.ControlPlane.Consistency
import DjangoOps.ControlPlane.Queries

namespace DjangoOps
namespace ControlPlane

open Protocol Gateway OperationsService

universe u

/-!
# Isolation of projects

A user sees, and changes, the projects of which they are a member and nothing
else.  The first half compares two databases that agree on these projects.  The
second half follows the calls of a user: every key that a call holds is the key
of a row of such a project.
-/

/-- The rows of some projects. -/
structure Rows where
  projects : List Project
  agents : List AgentRegistration
  operations : List OperationRow
  targets : List TargetRow
  releases : List ReleaseRow
  deriving DecidableEq

namespace Database

/-- The rows of the projects that pass the test. -/
def rowsOf (database : Database) (test : Nat -> Bool) : Rows where
  projects := database.projects.filter fun row => test row.pk
  agents := database.agents.filter fun row => test row.project
  operations := database.operations.filter fun row => test row.project
  targets := database.targets.filter fun row => test row.fields.project
  releases := database.releases.filter fun row => test row.project

/-- The rows of the projects of a user. -/
def visible (database : Database) (user : Nat) : Rows := database.rowsOf (database.isMember user)

/-- The rows of all other projects. -/
def foreign (database : Database) (user : Nat) : Rows :=
  database.rowsOf fun project => !database.isMember user project

end Database

namespace Console

variable {Number : Type u} {setting : Setting Number}

/-! ## Queries -/

/-- What the connection of an agent shows: the age of its heartbeat, its
capabilities and its protocol version. -/
def connection? (runtime : Runtime) (agentId : String) :
    Option (Nat × List String × Nat × Nat) :=
  (runtime.session? agentId).map fun session =>
    (runtime.heartbeatAge agentId, session.capabilities, session.protocolMajor,
      session.protocolMinor)

/-- Two databases with their gateways agree on the projects of a user, and on
the connections of the agents of these projects. -/
structure Agree (user : Nat) (left right : Database) (leftRuntime rightRuntime : Runtime) :
    Prop where
  rows : left.visible user = right.visible user
  connections : forall agent, agent ∈ (left.visible user).agents ->
    connection? leftRuntime agent.agentId = connection? rightRuntime agent.agentId

theorem agentState_congr {left right : Runtime} {agent : AgentRegistration}
    (same : connection? left agent.agentId = connection? right agent.agentId) :
    agentState left agent = agentState right agent := by
  unfold connection? at same
  unfold agentState Runtime.connected Runtime.heartbeat Runtime.capabilities Runtime.protocolVersion
  cases first : left.session? agent.agentId with
  | none =>
      cases second : right.session? agent.agentId with
      | none => rfl
      | some session =>
          rw [first, second] at same
          cases same
  | some session =>
      cases second : right.session? agent.agentId with
      | none =>
          rw [first, second] at same
          cases same
      | some other =>
          rw [first, second, Option.map_some, Option.map_some, Option.some_inj] at same
          simp only [Prod.mk.injEq] at same
          rcases same with ⟨age, capabilities, major, minor⟩
          simp only [Option.isSome_some, if_true, Option.map_some, Option.getD_some, age,
            capabilities, major, minor]

section Queries

variable {user : Nat} {left right : Database}

/-- The projects that a user is a member of, as the resolvers select them. -/
theorem memberProjects (database : Database) (user : Nat) :
    (database.projects.filter fun row => decide (user ∈ row.members)) =
      (database.visible user).projects.filter fun row => decide (user ∈ row.members) := by
  unfold Database.visible Database.rowsOf
  rw [List.filter_filter]
  refine List.filter_congr fun row listed => ?_
  by_cases member : user ∈ row.members
  · rw [decide_eq_true member, Bool.true_and]
    exact (List.any_eq_true.mpr ⟨row, listed, decide_eq_true ⟨rfl, member⟩⟩).symm
  · rw [decide_eq_false member, Bool.false_and]

theorem isMember_congr (same : left.visible user = right.visible user) (project : Nat) :
    left.isMember user project = right.isMember user project := by
  have restate : forall database : Database, database.isMember user project =
      (database.projects.filter fun row => decide (user ∈ row.members)).any fun row =>
        decide (row.pk = project) := by
    intro database
    unfold Database.isMember
    rw [List.any_filter]
    refine congrArg database.projects.any (funext fun row => ?_)
    rw [Bool.and_comm, ← Bool.decide_and]
  rw [restate, restate, memberProjects, memberProjects right, same]

/-- A selection within a project of the user reads visible rows only. -/
theorem filter_project {Row : Type v} {project : Row -> Nat} {rows others : List Row}
    {member : Nat -> Bool} {key : Nat} (allowed : member key = true)
    (same : (rows.filter fun row => member (project row)) =
      others.filter fun row => member (project row)) :
    (rows.filter fun row => decide (project row = key)) =
      others.filter fun row => decide (project row = key) := by
  have narrow : forall list : List Row, (list.filter fun row => decide (project row = key)) =
      (list.filter fun row => member (project row)).filter fun row =>
        decide (project row = key) := by
    intro list
    rw [List.filter_filter]
    refine List.filter_congr fun row _ => ?_
    by_cases own : project row = key
    · rw [own, allowed, Bool.and_true]
    · rw [decide_eq_false own, Bool.false_and]
  rw [narrow, same, ← narrow]

theorem getProject_congr (same : left.visible user = right.visible user) (projectId : String) :
    getProject setting left user projectId = getProject setting right user projectId := by
  have narrow : forall (database : Database) (key : Int),
      (database.projects.filter fun row =>
          decide (user ∈ row.members) && decide ((row.pk : Int) = key)) =
        (database.projects.filter fun row => decide (user ∈ row.members)).filter fun row =>
          decide ((row.pk : Int) = key) := by
    intro database key
    rw [List.filter_filter]
    exact List.filter_congr fun row _ => Bool.and_comm _ _
  unfold getProject
  cases setting.int projectId with
  | none => rfl
  | some key =>
      dsimp only
      rw [narrow, narrow right, memberProjects, memberProjects right, same]

theorem getOperation_congr (same : left.visible user = right.visible user) (id : String) :
    getOperation setting left user id = getOperation setting right user id := by
  have narrow : forall (database : Database) (key : String),
      (database.operations.filter fun row =>
          database.isMember user row.project && decide (row.publicId = key)) =
        (database.visible user).operations.filter fun row => decide (row.publicId = key) := by
    intro database key
    unfold Database.visible Database.rowsOf
    rw [List.filter_filter]
    exact List.filter_congr fun row _ => Bool.and_comm _ _
  unfold getOperation getPublic
  cases setting.uuid id with
  | none => rfl
  | some key =>
      dsimp only
      rw [narrow, narrow right, same]

variable {project : Project}

/-- What the tables hold for a project of the user. -/
theorem tables_congr (same : left.visible user = right.visible user)
    (member : left.isMember user project.pk = true) :
    agentsOf left project = agentsOf right project ∧
      operationsOf left project = operationsOf right project ∧
      targetsOf left project = targetsOf right project ∧
      kubernetesReleasesOf left project = kubernetesReleasesOf right project := by
  have tables := same
  unfold Database.visible Database.rowsOf at tables
  rw [show right.isMember user = left.isMember user from
    funext fun key => (isMember_congr same key).symm] at tables
  rcases Rows.mk.inj tables with ⟨_, agents, operations, targets, releases⟩
  unfold agentsOf operationsOf targetsOf kubernetesReleasesOf
  rw [filter_project member agents, filter_project member operations,
    filter_project member targets, filter_project member releases]
  exact ⟨rfl, rfl, rfl, rfl⟩

theorem mem_visible_of_agentsOf {agent : AgentRegistration}
    (member : left.isMember user project.pk = true) (listed : agent ∈ agentsOf left project) :
    agent ∈ (left.visible user).agents := by
  unfold agentsOf at listed
  rw [List.mem_insertionSort, List.mem_filter, decide_eq_true_eq] at listed
  refine List.mem_filter.mpr ⟨listed.1, ?_⟩
  rw [listed.2]
  exact member

end Queries

section Resolve

variable {user : Nat} {left right : Database} {leftRuntime rightRuntime : Runtime}
  {project : Project}

theorem viewAgents_congr (agree : Agree user left right leftRuntime rightRuntime)
    (member : left.isMember user project.pk = true) :
    (agentsOf left project).map (viewAgent leftRuntime) =
      (agentsOf right project).map (viewAgent rightRuntime) := by
  rw [← (tables_congr agree.rows member).1]
  refine List.map_congr_left fun agent listed => ?_
  unfold viewAgent
  rw [agentState_congr (agree.connections agent (mem_visible_of_agentsOf member listed))]

theorem summary_congr (agree : Agree user left right leftRuntime rightRuntime)
    (member : left.isMember user project.pk = true) (otlpConfigured : Bool) :
    summaryForProject otlpConfigured left leftRuntime project =
      summaryForProject otlpConfigured right rightRuntime project := by
  rcases tables_congr agree.rows member with ⟨agents, operations, _, releases⟩
  have connected : (agentsOf right project).countP (fun agent =>
      (agentState leftRuntime agent).connected) =
        (agentsOf right project).countP fun agent => (agentState rightRuntime agent).connected := by
    rw [← agents]
    refine List.countP_congr fun agent listed => ?_
    rw [agentState_congr (agree.connections agent (mem_visible_of_agentsOf member listed))]
  unfold summaryForProject
  simp only [agents, operations, releases, connected]

/-- A query answers the same on databases that agree on the projects of the user. -/
theorem resolve_congr (agree : Agree user left right leftRuntime rightRuntime)
    (otlpConfigured : Bool) (query : Query) :
    resolve setting otlpConfigured left leftRuntime user query =
      resolve setting otlpConfigured right rightRuntime user query := by
  have projects : forall projectId, getProject setting left user projectId =
      getProject setting right user projectId := getProject_congr agree.rows
  have member : forall projectId project, getProject setting right user projectId = .ok project ->
      left.isMember user project.pk = true := by
    intro projectId project found
    rw [isMember_congr agree.rows]
    exact getProject_ok found
  cases query with
  | projects =>
      simp only [resolve]
      rw [memberProjects, memberProjects right, agree.rows]
  | agents projectId =>
      simp only [resolve]
      rw [projects]
      cases found : getProject setting right user projectId with
      | error error => rfl
      | ok project =>
          exact congrArg (fun rows => Except.ok (Response.agents rows))
            (viewAgents_congr agree (member _ _ found))
  | diagnosticOperations projectId first =>
      simp only [resolve]
      rw [projects]
      cases found : getProject setting right user projectId with
      | error error => rfl
      | ok project =>
          simp only [Except.bind, (tables_congr agree.rows (member _ _ found)).2.1]
  | diagnosticOperation id =>
      simp only [resolve]
      rw [getOperation_congr agree.rows]
  | kubernetesTargets projectId =>
      simp only [resolve]
      rw [projects]
      cases found : getProject setting right user projectId with
      | error error => rfl
      | ok project =>
          simp only [Except.map, (tables_congr agree.rows (member _ _ found)).2.2.1]
  | kubernetesReleases projectId first =>
      simp only [resolve]
      rw [projects]
      cases found : getProject setting right user projectId with
      | error error => rfl
      | ok project =>
          simp only [Except.bind, (tables_congr agree.rows (member _ _ found)).2.2.2]
  | observabilitySummary projectId =>
      simp only [resolve]
      rw [projects]
      cases found : getProject setting right user projectId with
      | error error => rfl
      | ok project =>
          exact congrArg (fun summary => Except.ok (Response.summary summary))
            (summary_congr agree (member _ _ found) otlpConfigured)

end Resolve

/-! ## Mutations -/

/-- What a call holds on to between two of its statements. -/
inductive Key
  | project (pk : Nat)
  | operation (pk : Nat)
  | target (pk : Nat)
  | release (pk : Nat)

def Phase.keys : Phase -> List Key
  | .asking operation project => [.operation operation, .project project]
  | .starting operation project => [.operation operation, .project project]
  | .saving operation project _ _ => [.operation operation, .project project]
  | .trimming _ project => [.project project]
  | .deleting _ stale => stale.map Key.operation
  | .refreshing operation => [.operation operation]
  | .cancelling operation => [.operation operation]
  | .updating operation _ _ => [.operation operation]
  | .creating fields => [.project fields.project]
  | .validating target => [.target target]
  | .storing target _ => [.target target]
  | .removing target => [.target target]
  | .opening target _ _ => [.target target.pk]
  | .dispatching row _ _ => [.release row.pk]
  | .refreshingRelease release => [.release release]
  | .cancellingRelease release => [.release release]
  | .closing release _ => [.release release]
  | _ => []

def Call.keys (call : Call) : List Key := call.phase.keys ++ call.task.toList.map Key.operation

/-- The key belongs to a project of the user. -/
def Key.Owned (database : Database) (user : Nat) : Key -> Prop
  | .project pk => database.isMember user pk = true
  | .operation pk => Table.Within OperationRow.pk OperationRow.project database.operationSequence
      database.operations (fun project => database.isMember user project = true) pk
  | .target pk => Table.Within TargetRow.pk (fun row => row.fields.project)
      database.targetSequence database.targets
      (fun project => database.isMember user project = true) pk
  | .release pk => Table.Within ReleaseRow.pk ReleaseRow.project database.releaseSequence
      database.releases (fun project => database.isMember user project = true) pk

/-- The call holds keys of its user only. -/
def Confined (database : Database) (call : Call) : Prop :=
  forall key, key ∈ call.keys -> key.Owned database call.user

/-- The statement numbers its row, and touches rows of projects of the user only. -/
def Permitted (database : Database) (user : Nat) : Option Statement -> Prop
  | none => True
  | some (.createOperation row) =>
      row.pk = database.operationSequence ∧ database.isMember user row.project = true
  | some (.saveOperation pk _ _) => (Key.operation pk).Owned database user
  | some (.updateOperation pk _) => (Key.operation pk).Owned database user
  | some (.deleteOperations pks) => forall pk, pk ∈ pks -> (Key.operation pk).Owned database user
  | some (.createTarget row) =>
      row.pk = database.targetSequence ∧ database.isMember user row.fields.project = true
  | some (.saveTarget pk _ _) => (Key.target pk).Owned database user
  | some (.deleteTarget pk) => (Key.target pk).Owned database user
  | some (.createRelease row) =>
      row.pk = database.releaseSequence ∧ database.isMember user row.project = true
  | some (.updateRelease pk _) => (Key.release pk).Owned database user

section Statements

variable {database : Database} {user : Nat} {statement : Option Statement}

theorem isMember_execute (statement : Option Statement) :
    (State.execute database statement).isMember = database.isMember := by
  cases statement with
  | none => rfl
  | some statement => cases statement <;> rfl

/-- What a user holds stays theirs, whoever executes the statement. -/
theorem owned_execute {key : Key} {other : Nat} (owned : key.Owned database user)
    (permitted : Permitted database other statement) :
    key.Owned (State.execute database statement) user := by
  cases statement with
  | none => exact owned
  | some statement =>
      cases key with
      | project pk =>
          unfold Key.Owned
          rw [isMember_execute]
          exact owned
      | operation pk =>
          cases statement with
          | createOperation row => exact Table.Within.insert owned permitted.1
          | saveOperation => exact Table.Within.update owned _ (fun _ => rfl) fun _ => rfl
          | updateOperation => exact Table.Within.update owned _ (fun _ => rfl) fun _ => rfl
          | deleteOperations => exact Table.Within.filter owned _
          | _ => exact owned
      | target pk =>
          cases statement with
          | createTarget row => exact Table.Within.insert owned permitted.1
          | saveTarget => exact Table.Within.update owned _ (fun _ => rfl) fun _ => rfl
          | deleteTarget => exact Table.Within.filter owned _
          | _ => exact owned
      | release pk =>
          cases statement with
          | createRelease row => exact Table.Within.insert owned permitted.1
          | updateRelease => exact Table.Within.update owned _ (fun _ => rfl) fun _ => rfl
          | _ => exact owned

/-- A permitted statement leaves the rows of all other projects alone. -/
theorem foreign_execute (permitted : Permitted database user statement) :
    (State.execute database statement).foreign user = database.foreign user := by
  have hidden : forall project, database.isMember user project = true ->
      (!database.isMember user project) = false := by
    intro project member
    rw [member]
    rfl
  cases statement with
  | none => rfl
  | some statement =>
      unfold Database.foreign Database.rowsOf
      rw [isMember_execute]
      cases statement with
      | createOperation row =>
          refine congrArg (fun operations => Rows.mk _ _ operations _ _) ?_
          exact List.filter_cons_of_neg (Bool.eq_false_iff.mp (hidden _ permitted.2))
      | saveOperation pk =>
          refine congrArg (fun operations => Rows.mk _ _ operations _ _) ?_
          exact Table.filter_update (fun row listed same =>
            hidden _ (permitted.owned row listed same)) fun _ => rfl
      | updateOperation pk =>
          refine congrArg (fun operations => Rows.mk _ _ operations _ _) ?_
          exact Table.filter_update (fun row listed same =>
            hidden _ (permitted.owned row listed same)) fun _ => rfl
      | deleteOperations pks =>
          refine congrArg (fun operations => Rows.mk _ _ operations _ _) ?_
          refine Table.filter_delete fun row listed stale => hidden _ ?_
          have deleted := not_not.mp (of_decide_eq_false stale)
          exact (permitted row.pk deleted).owned row listed rfl
      | createTarget row =>
          refine congrArg (fun targets => Rows.mk _ _ _ targets _) ?_
          exact List.filter_cons_of_neg (Bool.eq_false_iff.mp (hidden _ permitted.2))
      | saveTarget pk =>
          refine congrArg (fun targets => Rows.mk _ _ _ targets _) ?_
          exact Table.filter_update (fun row listed same =>
            hidden _ (permitted.owned row listed same)) fun _ => rfl
      | deleteTarget pk =>
          refine congrArg (fun targets => Rows.mk _ _ _ targets _) ?_
          refine Table.filter_delete fun row listed deleted => hidden _ ?_
          exact permitted.owned row listed (not_not.mp (of_decide_eq_false deleted))
      | createRelease row =>
          refine congrArg (fun releases => Rows.mk _ _ _ _ releases) ?_
          exact List.filter_cons_of_neg (Bool.eq_false_iff.mp (hidden _ permitted.2))
      | updateRelease pk =>
          refine congrArg (fun releases => Rows.mk _ _ _ _ releases) ?_
          exact Table.filter_update (fun row listed same =>
            hidden _ (permitted.owned row listed same)) fun _ => rfl

end Statements

section Moves

variable {database : Database} {call after : Call} {input : Input Number}
  {statement : Option Statement}

theorem owned_of_stale {user project pk : Nat} (consistent : database.Consistent)
    (member : database.isMember user project = true)
    (stale : pk ∈ database.staleOperations project) : (Key.operation pk).Owned database user := by
  rcases List.mem_map.mp (List.mem_of_mem_drop stale) with ⟨row, sorted, rfl⟩
  unfold newestFirst at sorted
  rw [List.mem_insertionSort, List.mem_filter, Bool.and_eq_true, decide_eq_true_eq] at sorted
  exact Table.within_of_mem consistent.operations sorted.1 (sorted.2.1.symm ▸ member)

theorem confined_of_issued {user : Nat} {drawn : Drawn} {mutation : Mutation Number}
    {effect : Effect} (consistent : database.Consistent)
    (resolved : Issued setting database user drawn mutation effect) :
    Permitted database user effect.1 ∧
      Confined (State.execute database effect.1) ⟨user, effect.2, none⟩ := by
  cases resolved with
  | refused mutation answer => exact ⟨trivial, by simp [Confined, Call.keys, Phase.keys]⟩
  | created projectId agentId diagnostic agent member =>
      refine ⟨⟨rfl, member⟩, fun key listed => ?_⟩
      have numbered : (Key.operation database.operationSequence).Owned
          (database.execute (.createOperation (newOperation database user agent diagnostic drawn)))
          user := by
        refine Table.within_inserted consistent.operations rfl ?_
        exact member
      simp only [Call.keys, Phase.keys, Option.toList_none, List.map_nil, List.append_nil,
        List.mem_cons, List.not_mem_nil, or_false] at listed
      rcases listed with rfl | rfl
      · exact numbered
      · exact member
  | operation operationId row listed member =>
      refine ⟨trivial, fun key held => ?_⟩
      cases List.mem_singleton.mp held
      exact Table.within_of_mem consistent.operations listed member
  | targetRefused projectId agentId arguments error =>
      exact ⟨trivial, by simp [Confined, Call.keys, Phase.keys]⟩
  | target projectId agentId arguments fields member =>
      refine ⟨trivial, fun key held => ?_⟩
      cases List.mem_singleton.mp held
      exact member
  | opening targetId arguments row intent listed member accepted =>
      refine ⟨trivial, fun key held => ?_⟩
      cases List.mem_singleton.mp held
      refine Table.within_of_mem consistent.targets listed ?_
      exact member
  | release releaseId row listed member =>
      refine ⟨trivial, fun key held => ?_⟩
      cases List.mem_singleton.mp held
      exact Table.within_of_mem consistent.releases listed member

/-- The project of the row that a call holds by its key. -/
theorem member_of_target? {user : Nat} {target : TargetRow} {locked : TargetRow}
    (owned : (Key.target target.pk).Owned database user)
    (found : database.target? target.pk = some locked) :
    database.isMember user locked.fields.project = true :=
  owned.owned locked (Database.mem_of_target? found).1 (Database.mem_of_target? found).2

theorem confined_of_opened {config : ServiceConfig} {target : TargetRow} {agentId : String}
    {intent : Intent} {drawn : Drawn} {effect : Effect} {user : Nat}
    (consistent : database.Consistent) (owned : (Key.target target.pk).Owned database user)
    (transaction : Opened config database user target agentId intent drawn effect) :
    Permitted database user effect.1 ∧
      forall key, key ∈ effect.2.keys -> key.Owned (State.execute database effect.1) user := by
  cases transaction with
  | missing absent => exact ⟨trivial, fun key held => by cases held⟩
  | answered locked row found listed own active => exact ⟨trivial, fun key held => by cases held⟩
  | reopened locked row found listed own settled =>
      rcases Database.mem_of_target? found with ⟨known, _⟩
      have member : database.isMember user row.project = true := by
        rw [consistent.owned row locked listed known own.symm]
        exact member_of_target? owned found
      have holds : (Key.release row.pk).Owned database user :=
        Table.within_of_mem consistent.releases listed member
      refine ⟨holds, fun key held => ?_⟩
      cases List.mem_singleton.mp held
      exact owned_execute holds (show Permitted database user (some (.updateRelease row.pk _)) from holds)
  | created locked found =>
      have member := member_of_target? owned found
      refine ⟨⟨rfl, member⟩, fun key held => ?_⟩
      cases List.mem_singleton.mp held
      refine Table.within_inserted consistent.releases rfl ?_
      exact member

/-- A call that holds nothing new keeps to the rows of its user. -/
theorem confined_of_kept (confined : Confined database call) (user : after.user = call.user)
    (kept : forall key, key ∈ after.keys -> key ∈ call.keys)
    (permitted : Permitted database call.user statement) :
    Permitted database after.user statement ∧
      Confined (State.execute database statement) after := by
  rw [user]
  refine ⟨permitted, fun key held => ?_⟩
  rw [user]
  exact owned_execute (confined key (kept key held)) permitted

theorem keys_of_phase (task : after.task = call.task)
    (phase : forall key, key ∈ after.phase.keys -> key ∈ call.phase.keys) :
    forall key, key ∈ after.keys -> key ∈ call.keys := by
  intro key held
  unfold Call.keys at held ⊢
  rw [task] at held
  exact List.mem_append.mpr ((List.mem_append.mp held).imp_left (phase key))

theorem confined_of_phase (confined : Confined database call) (user : after.user = call.user)
    (task : after.task = call.task) (permitted : Permitted database call.user statement)
    (phase : forall key, key ∈ after.phase.keys ->
      key.Owned (State.execute database statement) call.user) :
    Permitted database after.user statement ∧
      Confined (State.execute database statement) after := by
  rw [user]
  refine ⟨permitted, fun key held => ?_⟩
  rw [user]
  unfold Call.keys at held
  rw [task] at held
  rcases List.mem_append.mp held with own | consumed
  · exact phase key own
  · exact owned_execute (confined key (List.mem_append_right _ consumed)) permitted

/-- A call keeps to the rows of its user. -/
theorem confined_of_move (consistent : database.Consistent) (confined : Confined database call)
    (move : Move setting database call input statement after) :
    Permitted database after.user statement ∧
      Confined (State.execute database statement) after := by
  have holds : forall {key : Key}, key ∈ call.phase.keys -> key.Owned database call.user :=
    fun held => confined _ (List.mem_append_left _ held)
  cases move with
  | issued user mutation drawn effect idle resolved => exact confined_of_issued consistent resolved
  | online operation project phase | offline operation project phase =>
      exact confined_of_kept confined rfl (keys_of_phase rfl fun key held => phase ▸ held) trivial
  | scheduled operation project starting =>
      refine confined_of_kept confined rfl (fun key held => List.mem_append_left _ ?_) trivial
      rw [starting]
      rcases List.mem_append.mp held with project | task
      · exact .tail _ project
      · cases List.mem_singleton.mp task
        exact .head _
  | overloaded operation project message starting =>
      refine confined_of_kept confined rfl (fun key held => List.mem_append_left _ ?_) trivial
      rw [starting]
      exact (List.mem_append.mp held).resolve_right List.not_mem_nil
  | startRaised operation project starting =>
      refine confined_of_kept confined rfl (fun key held => ?_) trivial
      cases held
  | cancelAnswered operation outcome status errorCode phase verdict | refreshed operation phase
  | targetValid target validation phase valid | targetInvalid target validation phase invalid
  | cancelReleaseAnswered release accepted phase | releaseRefreshed release phase =>
      exact confined_of_kept confined rfl (keys_of_phase rfl fun key held => phase ▸ held) trivial
  | cancelRaised operation outcome phase silent | identityTaken fields drawn phase taken
  | targetEscaped target error phase | releaseEscaped row agentId request course error phase
  | saveLost operation project status errorCode phase gone | refreshEnded operation answer phase
  | targetProtected target phase referred | releaseRefreshEnded release answer phase =>
      exact confined_of_kept confined rfl
        (keys_of_phase rfl fun key held => absurd held List.not_mem_nil) trivial
  | targetCreated fields drawn creating free =>
      have member : (Key.project fields.project).Owned database call.user :=
        holds (by rw [creating]; exact .head _)
      refine confined_of_phase confined rfl rfl ⟨rfl, member⟩ fun key held => ?_
      cases List.mem_singleton.mp held
      refine Table.within_inserted consistent.targets rfl ?_
      exact member
  | opened target agentId intent drawn effect opening transaction =>
      have owned : (Key.target target.pk).Owned database call.user :=
        holds (by rw [opening]; exact .head _)
      rcases confined_of_opened consistent owned transaction with ⟨permitted, phase⟩
      exact confined_of_phase confined rfl rfl permitted phase
  | staleFound operation project trimming =>
      have member : (Key.project project).Owned database call.user :=
        holds (by rw [trimming]; exact .head _)
      refine confined_of_phase confined rfl rfl trivial fun key held => ?_
      rcases List.mem_map.mp held with ⟨pk, stale, rfl⟩
      exact owned_of_stale consistent member stale
  | targetStored target validation now phase | targetRemoved target phase free =>
      have owned : (Key.target target).Owned database call.user :=
        holds (by rw [phase]; exact .head _)
      exact confined_of_kept confined rfl
        (keys_of_phase rfl fun key held => absurd held List.not_mem_nil) owned
  | releaseRecorded row agentId request course result phase
  | releaseUnavailable row agentId request course phase =>
      have owned : (Key.release row.pk).Owned database call.user :=
        holds (by rw [phase]; exact .head _)
      exact confined_of_kept confined rfl
        (keys_of_phase rfl fun key held => absurd held List.not_mem_nil) owned
  | releaseClosed release accepted closing =>
      have owned : (Key.release release).Owned database call.user :=
        holds (by rw [closing]; exact .head _)
      exact confined_of_kept confined rfl
        (keys_of_phase rfl fun key held => absurd held List.not_mem_nil) owned
  | consumed operation write scheduled =>
      have owned : (Key.operation operation).Owned database call.user := by
        refine confined _ (List.mem_append_right _ ?_)
        rw [scheduled]
        exact .head _
      exact confined_of_kept confined rfl (fun key held => held) owned
  | saved operation project status errorCode row saving present =>
      have owned : (Key.operation operation).Owned database call.user :=
        holds (by rw [saving]; exact .head _)
      refine confined_of_kept confined rfl (keys_of_phase rfl fun key held => ?_) owned
      rw [saving]
      exact .tail _ held
  | updated operation status errorCode answer updating =>
      have owned : (Key.operation operation).Owned database call.user :=
        holds (by rw [updating]; exact .head _)
      exact confined_of_kept confined rfl
        (keys_of_phase rfl fun key held => absurd held List.not_mem_nil) owned
  | trimmed operation stale deleting =>
      have owned : forall pk, pk ∈ stale -> (Key.operation pk).Owned database call.user := by
        intro pk listed
        refine holds ?_
        rw [deleting]
        exact List.mem_map_of_mem listed
      exact confined_of_kept confined rfl
        (keys_of_phase rfl fun key held => absurd held List.not_mem_nil) owned

end Moves

/-- Every call keeps to the rows of its user. -/
def AllConfined (state : State) : Prop :=
  forall number, Confined state.database (state.calls number)

theorem confined_of_reachable {admissible : Database -> Prop}
    {guard : State -> Nat × Input Number -> Prop} {state : State}
    (reached : (machine setting admissible).ReachableUnder guard state) : AllConfined state := by
  refine reached.invariant ?_ ?_
  · intro start starts number
    rw [starts.idle]
    exact fun key held => absurd held List.not_mem_nil
  · intro before action after earlier confined _ stepped other
    rcases action with ⟨number, input⟩
    rcases step_move stepped with ⟨_, statement, call, move, rfl⟩
    have moved := confined_of_move (consistent_of_reachable earlier) (confined number) move
    dsimp only
    by_cases own : other = number
    · subst own
      rw [Function.update_self]
      exact moved.2
    · rw [Function.update_of_ne own]
      exact fun key held => owned_execute (confined other key held) moved.1

/-- A step of a call that the user has issued, or of the task `_consume` that one of
these calls has scheduled. -/
def StepOf (setting : Setting Number) (user : Nat) (before after : State) : Prop :=
  Exists fun number : Nat => Exists fun input : Input Number =>
    step setting before (number, input) = some after ∧ (after.calls number).user = user

theorem foreign_of_step {admissible : Database -> Prop} {user : Nat} {before after : State}
    (reached : (machine setting admissible).Reachable before)
    (stepped : StepOf setting user before after) :
    after.database.foreign user = before.database.foreign user := by
  rcases stepped with ⟨number, input, stepped, own⟩
  rcases step_move stepped with ⟨_, statement, call, move, rfl⟩
  dsimp only at own
  rw [Function.update_self] at own
  have moved := confined_of_move (consistent_of_reachable reached)
    (confined_of_reachable reached number) move
  exact foreign_execute (own ▸ moved.1)

/-- A query shows a user nothing but their projects: two databases that agree
on these give the same answer, whatever they hold otherwise.  And whatever the
mutations of a user do, in any number and interleaved in any way, the rows of all
other projects stay as they are. -/
theorem project_isolation (setting : Setting Number) (otlpConfigured : Bool)
    (admissible : Database -> Prop) (user : Nat) :
    (forall left right leftRuntime rightRuntime,
      Agree user left right leftRuntime rightRuntime ->
      forall query, resolve setting otlpConfigured left leftRuntime user query =
        resolve setting otlpConfigured right rightRuntime user query) ∧
    (forall before after, (machine setting admissible).Reachable before ->
      Relation.ReflTransGen (StepOf setting user) before after ->
      after.database.foreign user = before.database.foreign user) := by
  refine ⟨fun left right leftRuntime rightRuntime agree query =>
    resolve_congr agree otlpConfigured query, fun before after reached run => ?_⟩
  have both : (machine setting admissible).Reachable after ∧
      after.database.foreign user = before.database.foreign user := by
    induction run with
    | refl => exact ⟨reached, rfl⟩
    | tail _ stepped inductionHypothesis =>
        rcases inductionHypothesis with ⟨between, same⟩
        refine ⟨?_, (foreign_of_step between stepped).trans same⟩
        rcases stepped with ⟨number, input, stepped, _⟩
        exact between.next (number, input) trivial stepped
  exact both.2

/-- The sample database, and a second project of another user beside it. -/
def largerDatabase : Database :=
  { sampleDatabase with
    projects := ⟨2, "bank", "Bank", "current", [8]⟩ :: sampleDatabase.projects
    agents := ⟨2, 2, "agent-2", []⟩ :: sampleDatabase.agents }

def startSample : Nat × Input Int :=
  (0, .issue 7 (.startDiagnostic "1" "1" "django_health") ⟨"a", "b", 0⟩)

/-- The second project does not show, and a diagnostic of the first one leaves
it alone. -/
theorem project_isolation_sample :
    (forall query, resolve sampleSetting false sampleDatabase ⟨none, fun _ => 0⟩ 7 query =
      resolve sampleSetting false largerDatabase ⟨none, fun _ => 0⟩ 7 query) ∧
    Exists fun after : State => step sampleSetting (.fresh largerDatabase) startSample = some after ∧
      after.database.operations.length = 1 ∧
        after.database.foreign 7 = largerDatabase.foreign 7 := by
  have isolated := project_isolation sampleSetting false (fun _ => True) 7
  refine ⟨isolated.1 sampleDatabase largerDatabase _ _ ⟨by decide +kernel, fun _ _ => rfl⟩, ?_⟩
  have inserted : (step sampleSetting (.fresh largerDatabase) startSample).map (fun after =>
      (after.database.operations.length, (after.calls 0).user)) = some (1, 7) := by
    decide +kernel
  rcases Option.map_eq_some_iff.mp inserted with ⟨after, stepped, same⟩
  rw [Prod.mk.injEq] at same
  refine ⟨after, stepped, same.1, isolated.2 (.fresh largerDatabase) after ?_ ?_⟩
  · exact .start (starts_of_empty rfl rfl rfl trivial)
  · exact .single ⟨0, startSample.2, stepped, same.2⟩

end Console
end ControlPlane
end DjangoOps
