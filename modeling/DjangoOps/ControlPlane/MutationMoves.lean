import DjangoOps.ControlPlane.Mutations

namespace DjangoOps
namespace ControlPlane

open Protocol Gateway OperationsService

universe u

namespace Console

variable {Number : Type u}

/-!
# What a step of a call does

Every step of a call is one of the moves below, with what it has found in the
database.  The results on the console argue by cases on these moves.
-/

/-! ## What the lookups find -/

theorem mem_of_getRow {Row : Type v} {rows : List Row} {row : Row}
    (found : getRow rows = .ok row) : row ∈ rows := by
  cases rows with
  | nil => cases found
  | cons first rest =>
      cases rest with
      | nil =>
          cases found
          exact .head _
      | cons => cases found

theorem getProject_ok {setting : Setting Number} {database : Database} {user : Nat}
    {projectId : String} {project : Project}
    (found : getProject setting database user projectId = .ok project) :
    database.isMember user project.pk = true := by
  unfold getProject at found
  split at found
  · cases found
  · have listed := mem_of_getRow found
    rw [List.mem_filter, Bool.and_eq_true] at listed
    exact List.any_eq_true.mpr
      ⟨project, listed.1, decide_eq_true ⟨rfl, of_decide_eq_true listed.2.1⟩⟩

theorem getAgent_ok {setting : Setting Number} {database : Database} {project : Project}
    {agentId : String} {agent : AgentRegistration}
    (found : getAgent setting database project agentId = .ok agent) :
    agent.project = project.pk := by
  unfold getAgent at found
  split at found
  · cases found
  · have listed := mem_of_getRow found
    rw [List.mem_filter, Bool.and_eq_true] at listed
    exact of_decide_eq_true listed.2.1

theorem getPublic_ok {Row : Type v} {setting : Setting Number} {database : Database} {user : Nat}
    {project : Row -> Nat} {publicId : Row -> String} {rows : List Row} {id : String} {row : Row}
    (found : getPublic setting database user project publicId rows id = .ok row) :
    row ∈ rows ∧ database.isMember user (project row) = true := by
  unfold getPublic at found
  split at found
  · cases found
  · have listed := mem_of_getRow found
    rw [List.mem_filter, Bool.and_eq_true] at listed
    exact ⟨listed.1, listed.2.1⟩

/-- What `register_target` gives to `objects.create` belongs to its project. -/
theorem prepareTarget_ok {python : Python Number} {database : Database} {project : Project}
    {agent : AgentRegistration} {arguments : TargetArguments} {fields : TargetFields}
    (prepared : prepareTarget python database project agent arguments = .ok fields) :
    fields.project = project.pk := by
  unfold prepareTarget at prepared
  split at prepared
  · cases prepared
  · rcases bind_eq_ok prepared with ⟨apiServer, _, first⟩
    rcases bind_eq_ok first with ⟨namespaceName, _, second⟩
    rcases bind_eq_ok second with ⟨releaseName, _, third⟩
    split at third
    · cases third
    · rcases bind_eq_ok third with ⟨credentialRef, _, fourth⟩
      rcases bind_eq_ok fourth with ⟨ingressClass, _, fifth⟩
      rcases bind_eq_ok fifth with ⟨tlsSecretName, _, made⟩
      cases made
      rfl

/-! ## The moves -/

/-- How a resolver gets to the point where it first waits. -/
inductive Issued (setting : Setting Number) (database : Database) (user : Nat) (drawn : Drawn) :
    Mutation Number -> Effect -> Prop
  | refused (mutation : Mutation Number) (answer : Answer) :
      Issued setting database user drawn mutation (none, .ended answer)
  | created (projectId agentId diagnostic : String) (agent : AgentRegistration)
      (member : database.isMember user agent.project = true) :
      Issued setting database user drawn (.startDiagnostic projectId agentId diagnostic)
        (some (.createOperation (newOperation database user agent diagnostic drawn)),
          .asking database.operationSequence agent.project)
  | operation (operationId : String) (row : OperationRow) (listed : row ∈ database.operations)
      (member : database.isMember user row.project = true) :
      Issued setting database user drawn (.cancelDiagnostic operationId) (none, .refreshing row.pk)
  | targetRefused (projectId agentId : String) (arguments : TargetArguments)
      (error : ServiceError) :
      Issued setting database user drawn (.registerKubernetesTarget projectId agentId arguments)
        (none, .registered none (.error error))
  | target (projectId agentId : String) (arguments : TargetArguments) (fields : TargetFields)
      (member : database.isMember user fields.project = true) :
      Issued setting database user drawn (.registerKubernetesTarget projectId agentId arguments)
        (none, .creating fields)
  | opening (targetId : String) (arguments : Arguments Number) (row : TargetRow) (intent : Intent)
      (listed : row ∈ database.targets)
      (member : database.isMember user row.fields.project = true)
      (accepted : startIntent setting.python arguments = .ok intent) :
      Issued setting database user drawn (.startKubernetesRelease targetId arguments)
        (none, .opening row (database.agentId row.fields.agent) intent)
  | release (releaseId : String) (row : ReleaseRow) (listed : row ∈ database.releases)
      (member : database.isMember user row.project = true) :
      Issued setting database user drawn (.cancelKubernetesRelease releaseId)
        (none, .refreshingRelease row.pk)

section Issue

variable {setting : Setting Number} {database : Database} {user : Nat} {drawn : Drawn}

theorem issued_startDiagnostic (projectId agentId diagnostic : String) :
    Issued setting database user drawn (.startDiagnostic projectId agentId diagnostic)
      (startDiagnostic setting database user projectId agentId diagnostic drawn) := by
  unfold startDiagnostic
  cases foundProject : getProject setting database user projectId with
  | error error => exact .refused _ _
  | ok project =>
      cases foundAgent : getAgent setting database project agentId with
      | error error =>
          simp only [Except.bind, foundAgent]
          exact .refused _ _
      | ok agent =>
          by_cases known : diagnostic = "django_health"
          · simp only [Except.bind, foundAgent, if_pos known]
            refine .created projectId agentId diagnostic agent ?_
            rw [getAgent_ok foundAgent]
            exact getProject_ok foundProject
          · simp only [Except.bind, foundAgent, if_neg known]
            exact .refused _ _

theorem issued_registerTarget (projectId agentId : String) (arguments : TargetArguments) :
    Issued setting database user drawn (.registerKubernetesTarget projectId agentId arguments)
      (registerTarget setting database user projectId agentId arguments) := by
  unfold registerTarget
  cases foundProject : getProject setting database user projectId with
  | error error => exact .targetRefused _ _ _ error
  | ok project =>
      cases foundAgent : getAgent setting database project agentId with
      | error error =>
          simp only [Except.bind, foundAgent]
          exact .targetRefused _ _ _ error
      | ok agent =>
          cases prepared : prepareTarget setting.python database project agent arguments with
          | error error =>
              simp only [Except.bind, foundAgent, prepared]
              exact .targetRefused _ _ _ error
          | ok fields =>
              simp only [Except.bind, foundAgent, prepared]
              refine .target _ _ _ fields ?_
              rw [prepareTarget_ok prepared]
              exact getProject_ok foundProject

theorem issued_startRelease (targetId : String) (arguments : Arguments Number) :
    Issued setting database user drawn (.startKubernetesRelease targetId arguments)
      (startRelease setting database user targetId arguments) := by
  unfold startRelease
  cases found : getTarget setting database user targetId with
  | error error => exact .refused _ _
  | ok row =>
      cases accepted : startIntent setting.python arguments with
      | error error => exact .refused _ _
      | ok intent =>
          have known := getPublic_ok found
          exact .opening _ _ row intent known.1 known.2 accepted

theorem issued (mutation : Mutation Number) :
    Issued setting database user drawn mutation (issue setting database user drawn mutation) := by
  cases mutation with
  | startDiagnostic projectId agentId diagnostic =>
      exact issued_startDiagnostic projectId agentId diagnostic
  | cancelDiagnostic operationId =>
      simp only [issue]
      cases found : getOperation setting database user operationId with
      | error error => exact .refused _ _
      | ok row => exact .operation _ row (getPublic_ok found).1 (getPublic_ok found).2
  | registerKubernetesTarget projectId agentId arguments =>
      exact issued_registerTarget projectId agentId arguments
  | startKubernetesRelease targetId arguments => exact issued_startRelease targetId arguments
  | cancelKubernetesRelease releaseId =>
      simp only [issue]
      cases found : getRelease setting database user releaseId with
      | error error => exact .refused _ _
      | ok row => exact .release _ row (getPublic_ok found).1 (getPublic_ok found).2

end Issue

/-- How the transaction of `start_release` ends. -/
inductive Opened (config : ServiceConfig) (database : Database) (user : Nat) (target : TargetRow)
    (agentId : String) (intent : Intent) (drawn : Drawn) : Effect -> Prop
  | missing (absent : database.target? target.pk = none) :
      Opened config database user target agentId intent drawn
        (none, .ended (releaseAnswer (.error .doesNotExist)))
  | answered (locked : TargetRow) (row : ReleaseRow)
      (found : database.target? target.pk = some locked)
      (listed : row ∈ database.releases) (own : row.target = locked.pk)
      (active : row.release.status.active = true) :
      Opened config database user target agentId intent drawn
        (none, .ended (releaseAnswer (.ok row.pk)))
  | reopened (locked : TargetRow) (row : ReleaseRow)
      (found : database.target? target.pk = some locked)
      (listed : row ∈ database.releases) (own : row.target = locked.pk)
      (settled : row.release.status.active = false) :
      Opened config database user target agentId intent drawn
        (some (.updateRelease row.pk KubernetesRelease.reopen),
          .dispatching { row with release := row.release.reopen } agentId
            (releaseRequest config intent row.release.reopen))
  | created (locked : TargetRow) (found : database.target? target.pk = some locked) :
      Opened config database user target agentId intent drawn
        (some (.createRelease (newRelease config database user locked intent drawn)),
          .dispatching (newRelease config database user locked intent drawn) agentId
            (releaseRequest config intent
              (newRelease config database user locked intent drawn).release))

theorem mem_releasesOf {database : Database} {target : Nat} {row : ReleaseRow} :
    row ∈ database.releasesOf target <-> row ∈ database.releases ∧ row.target = target := by
  unfold Database.releasesOf newestFirst
  rw [List.mem_insertionSort, List.mem_filter, decide_eq_true_eq]

theorem opened (config : ServiceConfig) (database : Database) (user : Nat) (target : TargetRow)
    (agentId : String) (intent : Intent) (drawn : Drawn) :
    Opened config database user target agentId intent drawn
      (openRelease config database user target agentId intent drawn) := by
  unfold openRelease
  cases found : database.target? target.pk with
  | none => exact .missing found
  | some locked =>
      dsimp only
      cases existing : (database.releasesOf locked.pk).find? fun row =>
          row.release.matchesIntent config intent && row.release.isOpen with
      | none => exact .created locked found
      | some row =>
          have listed := mem_releasesOf.mp (List.mem_of_find?_eq_some existing)
          dsimp only
          split
          · rename_i active
            exact .answered locked row found listed.1 listed.2 active
          · rename_i settled
            exact .reopened locked row found listed.1 listed.2
              (Bool.eq_false_of_not_eq_true settled)

/-- One step of a call. -/
inductive Move (setting : Setting Number) (database : Database) (call : Call) :
    Input Number -> Option Statement -> Call -> Prop
  | issued (user : Nat) (mutation : Mutation Number) (drawn : Drawn) (effect : Effect)
      (idle : call.phase = .idle)
      (resolved : Issued setting database user drawn mutation effect) :
      Move setting database call (.issue user mutation drawn) effect.1
        { user := user, phase := effect.2, task := none }
  | online (operation project : Nat) (asking : call.phase = .asking operation project) :
      Move setting database call (.connected true) none
        { call with phase := .starting operation project }
  | offline (operation project : Nat) (asking : call.phase = .asking operation project) :
      Move setting database call (.connected false) none
        { call with phase := .saving operation project .offline "AGENT_OFFLINE" }
  | scheduled (operation project : Nat) (starting : call.phase = .starting operation project) :
      Move setting database call (.started .scheduled) none
        { call with phase := .trimming operation project, task := some operation }
  | overloaded (operation project : Nat) (message : String)
      (starting : call.phase = .starting operation project) :
      Move setting database call (.started (.runtimeError message)) none
        { call with
          phase := .saving operation project (startVerdict setting.letters.lower message).1
            (startVerdict setting.letters.lower message).2
          task := none }
  | startRaised (operation project : Nat) (starting : call.phase = .starting operation project) :
      Move setting database call (.started .raised) none
        { call with phase := .ended (.raised (.python .cancelledError)), task := none }
  | cancelAnswered (operation : Nat) (outcome : CancelOutcome) (status : OperationStatus)
      (errorCode : String) (cancelling : call.phase = .cancelling operation)
      (verdict : outcome.verdict = some (status, errorCode)) :
      Move setting database call (.cancelled outcome) none
        { call with phase := .updating operation status errorCode }
  | cancelRaised (operation : Nat) (outcome : CancelOutcome)
      (cancelling : call.phase = .cancelling operation) (silent : outcome.verdict = none) :
      Move setting database call (.cancelled outcome) none
        { call with phase := .ended (.raised (.python .cancelledError)) }
  | identityTaken (fields : TargetFields) (drawn : Drawn) (creating : call.phase = .creating fields)
      (taken : database.identityTaken fields = true) :
      Move setting database call (.insert drawn) none
        { call with phase := .registered none (.error .integrityError) }
  | targetCreated (fields : TargetFields) (drawn : Drawn) (creating : call.phase = .creating fields)
      (free : database.identityTaken fields = false) :
      Move setting database call (.insert drawn)
        (some (.createTarget (newTarget database fields drawn)))
        { call with phase := .validating database.targetSequence }
  | opened (target : TargetRow) (agentId : String) (intent : Intent) (drawn : Drawn)
      (effect : Effect) (opening : call.phase = .opening target agentId intent)
      (transaction : Opened (serviceConfig setting target.fields agentId) database call.user target
        agentId intent drawn effect) :
      Move setting database call (.insert drawn) effect.1 { call with phase := effect.2 }
  | targetEscaped (target : Nat) (error : PyException)
      (validating : call.phase = .validating target) :
      Move setting database call (.validated (.error error)) none
        { call with phase := .registered (some target) (.error (.python error)) }
  | targetValid (target : Nat) (validation : TargetValidation)
      (validating : call.phase = .validating target) (valid : validation.valid = true) :
      Move setting database call (.validated (.ok validation)) none
        { call with phase := .storing target validation }
  | targetInvalid (target : Nat) (validation : TargetValidation)
      (validating : call.phase = .validating target) (invalid : validation.valid = false) :
      Move setting database call (.validated (.ok validation)) none
        { call with phase := .removing target }
  | targetStored (target : Nat) (validation : TargetValidation) (now : Nat)
      (storing : call.phase = .storing target validation) :
      Move setting database call (.store now) (some (.saveTarget target validation now))
        { call with phase := .registered (some target) (.ok target) }
  | releaseRecorded (row : ReleaseRow) (agentId : String) (request : KubernetesReleaseRequest)
      (course : Course) (result : ReleaseResult)
      (dispatching : call.phase = .dispatching row agentId request) :
      Move setting database call (.dispatched course)
        (some (.updateRelease row.pk fun current =>
          current.updateActive fun active => row.release.applyResult active result))
        { call with phase := .ended (releaseAnswer (.ok row.pk)) }
  | releaseUnavailable (row : ReleaseRow) (agentId : String) (request : KubernetesReleaseRequest)
      (course : Course) (dispatching : call.phase = .dispatching row agentId request) :
      Move setting database call (.dispatched course)
        (some (.updateRelease row.pk fun current =>
          current.updateActive KubernetesRelease.applyUnavailable))
        { call with phase := .ended (releaseAnswer (.ok row.pk)) }
  | releaseEscaped (row : ReleaseRow) (agentId : String) (request : KubernetesReleaseRequest)
      (course : Course) (error : PyException)
      (dispatching : call.phase = .dispatching row agentId request) :
      Move setting database call (.dispatched course) none
        { call with phase := .ended (releaseAnswer (.error (.python error))) }
  | cancelReleaseAnswered (release : Nat) (accepted : Bool)
      (cancelling : call.phase = .cancellingRelease release) :
      Move setting database call (.cancelledRelease accepted) none
        { call with phase := .closing release accepted }
  | consumed (operation : Nat) (write : ConsumerWrite) (scheduled : call.task = some operation) :
      Move setting database call (.consume write)
        (some (.updateOperation operation fun current =>
          write.apply setting.letters.upper current)) call
  | saveLost (operation project : Nat) (status : OperationStatus) (errorCode : String)
      (saving : call.phase = .saving operation project status errorCode)
      (gone : database.operation? operation = none) :
      Move setting database call .proceed none
        { call with phase := .ended (.raised .databaseError) }
  | saved (operation project : Nat) (status : OperationStatus) (errorCode : String)
      (row : OperationRow) (saving : call.phase = .saving operation project status errorCode)
      (present : database.operation? operation = some row) :
      Move setting database call .proceed (some (.saveOperation operation status errorCode))
        { call with phase := .trimming operation project }
  | staleFound (operation project : Nat) (trimming : call.phase = .trimming operation project) :
      Move setting database call .proceed none
        { call with phase := .deleting operation (database.staleOperations project) }
  | trimmed (operation : Nat) (stale : List Nat) (deleting : call.phase = .deleting operation stale) :
      Move setting database call .proceed (some (.deleteOperations stale))
        { call with phase := .ended (startAnswer (.ok operation)) }
  | refreshEnded (operation : Nat) (answer : Answer)
      (refreshing : call.phase = .refreshing operation) :
      Move setting database call .proceed none { call with phase := .ended answer }
  | refreshed (operation : Nat) (refreshing : call.phase = .refreshing operation) :
      Move setting database call .proceed none { call with phase := .cancelling operation }
  | updated (operation : Nat) (status : OperationStatus) (errorCode : String) (answer : Answer)
      (updating : call.phase = .updating operation status errorCode) :
      Move setting database call .proceed
        (some (.updateOperation operation fun current => current.saveError status errorCode))
        { call with phase := .ended answer }
  | targetProtected (target : Nat) (removing : call.phase = .removing target)
      (referred : database.isProtected target = true) :
      Move setting database call .proceed none
        { call with phase := .registered (some target) (.error .protectedError) }
  | targetRemoved (target : Nat) (removing : call.phase = .removing target)
      (free : database.isProtected target = false) :
      Move setting database call .proceed (some (.deleteTarget target))
        { call with
          phase := .registered (some target)
            (.error (.python (.valueError "cluster validation failed"))) }
  | releaseRefreshEnded (release : Nat) (answer : Answer)
      (refreshing : call.phase = .refreshingRelease release) :
      Move setting database call .proceed none { call with phase := .ended answer }
  | releaseRefreshed (release : Nat) (refreshing : call.phase = .refreshingRelease release) :
      Move setting database call .proceed none { call with phase := .cancellingRelease release }
  | releaseClosed (release : Nat) (accepted : Bool)
      (closing : call.phase = .closing release accepted) :
      Move setting database call .proceed
        (some (.updateRelease release fun current =>
          current.updateActive (KubernetesRelease.applyCancel accepted)))
        { call with phase := .ended (cancelReleaseAnswer (.ok release)) }

section Advance

variable {setting : Setting Number} {database : Database} {call after : Call}
  {statement : Option Statement}

theorem proceed_move {effect : Effect} (proceeded : proceed database call.phase = some effect) :
    Move setting database call .proceed effect.1 { call with phase := effect.2 } := by
  unfold proceed at proceeded
  split at proceeded
  · rename_i operation project status errorCode saving
    cases present : database.operation? operation with
    | none =>
        simp only [present] at proceeded
        cases proceeded
        exact .saveLost operation project status errorCode saving present
    | some row =>
        simp only [present] at proceeded
        cases proceeded
        exact .saved operation project status errorCode row saving present
  · rename_i operation project trimming
    cases proceeded
    exact .staleFound operation project trimming
  · rename_i operation stale deleting
    cases proceeded
    exact .trimmed operation stale deleting
  · rename_i operation refreshing
    cases present : database.operation? operation with
    | none =>
        simp only [present] at proceeded
        cases proceeded
        exact .refreshEnded operation _ refreshing
    | some row =>
        simp only [present] at proceeded
        split at proceeded
        · cases proceeded
          exact .refreshed operation refreshing
        · cases proceeded
          exact .refreshEnded operation _ refreshing
  · rename_i operation status errorCode updating
    cases proceeded
    exact .updated operation status errorCode _ updating
  · rename_i target removing
    split at proceeded
    · rename_i referred
      cases proceeded
      exact .targetProtected target removing referred
    · rename_i free
      cases proceeded
      exact .targetRemoved target removing (Bool.eq_false_of_not_eq_true free)
  · rename_i release refreshing
    cases present : database.release? release with
    | none =>
        simp only [present] at proceeded
        cases proceeded
        exact .releaseRefreshEnded release _ refreshing
    | some row =>
        simp only [present] at proceeded
        split at proceeded
        · cases proceeded
          exact .releaseRefreshed release refreshing
        · cases proceeded
          exact .releaseRefreshEnded release _ refreshing
  · rename_i release accepted closing
    cases proceeded
    exact .releaseClosed release accepted closing
  · cases proceeded

theorem cancelled_move {outcome : CancelOutcome}
    (advanced : advance setting database call (.cancelled outcome) = some (statement, after)) :
    Move setting database call (.cancelled outcome) statement after := by
  simp only [advance] at advanced
  split at advanced
  · rename_i operation verdict cancelling known
    cases advanced
    exact .cancelAnswered operation outcome verdict.1 verdict.2 cancelling known
  · rename_i operation cancelling silent
    cases advanced
    exact .cancelRaised operation outcome cancelling silent
  · cases advanced

theorem started_move {outcome : StartOutcome}
    (advanced : advance setting database call (.started outcome) = some (statement, after)) :
    Move setting database call (.started outcome) statement after := by
  simp only [advance] at advanced
  split at advanced
  · rename_i operation project starting
    cases outcome with
    | scheduled =>
        cases advanced
        exact .scheduled operation project starting
    | runtimeError message =>
        cases advanced
        exact .overloaded operation project message starting
    | raised =>
        cases advanced
        exact .startRaised operation project starting
  · cases advanced

theorem insert_move {drawn : Drawn}
    (advanced : advance setting database call (.insert drawn) = some (statement, after)) :
    Move setting database call (.insert drawn) statement after := by
  simp only [advance] at advanced
  split at advanced
  · rename_i fields creating
    split at advanced
    · rename_i taken
      cases advanced
      exact .identityTaken fields drawn creating taken
    · rename_i free
      cases advanced
      exact .targetCreated fields drawn creating (Bool.eq_false_of_not_eq_true free)
  · rename_i target agentId intent opening
    cases advanced
    exact .opened target agentId intent drawn _ opening (opened _ _ _ _ _ _ _)
  · cases advanced

theorem validated_move {outcome : Except PyException TargetValidation}
    (advanced : advance setting database call (.validated outcome) = some (statement, after)) :
    Move setting database call (.validated outcome) statement after := by
  simp only [advance] at advanced
  split at advanced
  · rename_i target error validating
    cases advanced
    exact .targetEscaped target error validating
  · rename_i target validation validating
    cases valid : validation.valid with
    | true =>
        rw [valid] at advanced
        cases advanced
        exact .targetValid target validation validating valid
    | false =>
        rw [valid] at advanced
        cases advanced
        exact .targetInvalid target validation validating valid
  · cases advanced

theorem dispatched_move {course : Course}
    (advanced : advance setting database call (.dispatched course) = some (statement, after)) :
    Move setting database call (.dispatched course) statement after := by
  simp only [advance] at advanced
  split at advanced
  · rename_i row agentId request dispatching
    unfold finishRelease at advanced
    cases outcome : runBackend agentId row.release.operationId course with
    | ok result =>
        simp only [outcome] at advanced
        cases advanced
        exact .releaseRecorded row agentId request course result dispatching
    | error error =>
        simp only [outcome] at advanced
        cases error with
        | runtimeError message =>
            cases advanced
            exact .releaseUnavailable row agentId request course dispatching
        | _ =>
            cases advanced
            exact .releaseEscaped row agentId request course _ dispatching
  · cases advanced

theorem advance_move {input : Input Number}
    (advanced : advance setting database call input = some (statement, after)) :
    Move setting database call input statement after := by
  cases input with
  | issue user mutation drawn =>
      simp only [advance] at advanced
      split at advanced
      · rename_i idle
        cases advanced
        exact .issued user mutation drawn _ idle (issued mutation)
      · cases advanced
  | connected answer =>
      simp only [advance] at advanced
      split at advanced
      · rename_i operation project asking
        cases answer with
        | true =>
            cases advanced
            exact .online operation project asking
        | false =>
            cases advanced
            exact .offline operation project asking
      · cases advanced
  | started outcome => exact started_move advanced
  | cancelled outcome => exact cancelled_move advanced
  | insert drawn => exact insert_move advanced
  | validated outcome => exact validated_move advanced
  | store now =>
      simp only [advance] at advanced
      split at advanced
      · rename_i target validation storing
        cases advanced
        exact .targetStored target validation now storing
      · cases advanced
  | dispatched course => exact dispatched_move advanced
  | cancelledRelease accepted =>
      simp only [advance] at advanced
      split at advanced
      · rename_i release cancelling
        cases advanced
        exact .cancelReleaseAnswered release accepted cancelling
      · cases advanced
  | consume write =>
      simp only [advance] at advanced
      split at advanced
      · rename_i operation scheduled
        cases advanced
        exact .consumed operation write scheduled
      · cases advanced
  | proceed =>
      simp only [advance] at advanced
      rcases Option.map_eq_some_iff.mp advanced with ⟨effect, proceeded, same⟩
      cases same
      exact proceed_move proceeded

end Advance

theorem step_advance {setting : Setting Number} {before after : State} {number : Nat}
    {input : Input Number} (stepped : step setting before (number, input) = some after) :
    (forall text, text ∈ input.draws -> text ∉ before.drawn) ∧
      Exists fun statement : Option Statement => Exists fun call : Call =>
        advance setting before.database (before.calls number) input = some (statement, call) ∧
          after =
            { database := State.execute before.database statement
              calls := Function.update before.calls number call
              drawn := input.draws ++ before.drawn } := by
  unfold step at stepped
  split at stepped
  · cases stepped
  · rename_i fresh
    rcases Option.map_eq_some_iff.mp stepped with ⟨⟨statement, call⟩, advanced, rfl⟩
    refine ⟨fun text drawn known => fresh ?_, statement, call, advanced, rfl⟩
    exact List.any_eq_true.mpr ⟨text, drawn, decide_eq_true known⟩

/-- A step of the machine is a move of one call. -/
theorem step_move {setting : Setting Number} {before after : State} {number : Nat}
    {input : Input Number} (stepped : step setting before (number, input) = some after) :
    (forall text, text ∈ input.draws -> text ∉ before.drawn) ∧
      Exists fun statement : Option Statement => Exists fun call : Call =>
        Move setting before.database (before.calls number) input statement call ∧
          after =
            { database := State.execute before.database statement
              calls := Function.update before.calls number call
              drawn := input.draws ++ before.drawn } := by
  rcases step_advance stepped with ⟨fresh, statement, call, advanced, same⟩
  exact ⟨fresh, statement, call, advance_move advanced, same⟩

end Console
end ControlPlane
end DjangoOps
