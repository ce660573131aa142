import DjangoOps.Agent.Transport

namespace DjangoOps
namespace Agent

open Protocol

/-!
# What one step of the agent can change

The inversion lemmas say once, for every action, what becomes of a worker, of
the receive loop and of the ledger.
-/

namespace State

theorem workers_modifyWorker (state : State) (worker other : Nat) (change : Worker -> Worker) :
    (state.modifyWorker worker change).workers other =
      if other = worker then change (state.workers worker) else state.workers other := by
  by_cases same : other = worker
  · subst same
    rw [if_pos rfl]
    exact Function.update_self _ _ _
  · rw [if_neg same]
    exact Function.update_of_ne same _ _

theorem workers_modifyWorker_ne (state : State) {worker other : Nat} (different : other ≠ worker)
    (change : Worker -> Worker) :
    (state.modifyWorker worker change).workers other = state.workers other := by
  rw [workers_modifyWorker, if_neg different]

theorem workers_setPhase_self (state : State) (worker : Nat) (phase : WorkerPhase) :
    (state.setPhase worker phase).workers worker =
      { state.workers worker with phase := phase } := by
  rw [setPhase, workers_modifyWorker, if_pos rfl]

theorem workers_markCompleted (state : State) (jobId : String) :
    (state.markCompleted jobId).workers = state.workers := by
  unfold markCompleted
  split <;> rfl

theorem loop_markCompleted (state : State) (jobId : String) :
    (state.markCompleted jobId).loop = state.loop := by
  unfold markCompleted
  split <;> rfl

theorem ledger_markCompleted (state : State) (jobId : String) :
    (state.markCompleted jobId).ledger = state.ledger := by
  unfold markCompleted
  split <;> rfl

end State

/-! ## Workers -/

/-- The actions that end the context of a job. -/
def Action.cancels : Action -> Bool
  | .disconnect => true
  | .shutdown => true
  | .receive _ => true
  | _ => false

/-- What a step can do to one worker. -/
inductive WorkerMove (config : AgentConfig) (before : State) (worker : Nat) :
    Action -> Worker -> Prop
  | same (action : Action) : WorkerMove config before worker action (before.workers worker)
  | cancelled (action : Action) (cause : action.cancels = true) :
      WorkerMove config before worker action { before.workers worker with cancelled := true }
  | killed (used : (before.workers worker).phase ≠ .fresh) :
      WorkerMove config before worker .crash { before.workers worker with phase := .killed }
  | prepared (request : Request) (release : KubernetesReleaseRequest)
      (kind : request = .kubernetes release) (loop : before.loop = .examined request)
      (fresh : (before.workers worker).phase = .fresh) :
      WorkerMove config before worker (.admitJob worker)
        { Worker.unused with
          request := request, connection := before.connection, phase := .prepared }
  | diagnosing (request : Request) (diagnostics : DiagnosticsRequest)
      (kind : request = .diagnostics diagnostics) (loop : before.loop = .examined request)
      (fresh : (before.workers worker).phase = .fresh) :
      WorkerMove config before worker (.admitJob worker)
        { Worker.unused with
          request := request, connection := before.connection, phase := .running 1 }
  | refused (request : KubernetesReleaseRequest) (io : LedgerIO)
      (loop : before.loop = .admitted request worker) :
      WorkerMove config before worker (.begin io) { before.workers worker with phase := .refused }
  | begun (request : KubernetesReleaseRequest) (io : LedgerIO)
      (loop : before.loop = .admitted request worker) :
      WorkerMove config before worker (.begin io) { before.workers worker with begun := true }
  | launched (request : KubernetesReleaseRequest) (loop : before.loop = .begun request worker) :
      WorkerMove config before worker .launch { before.workers worker with phase := .running 1 }
  | progressed (sequence : Nat) (phase message : String) (delivered : Bool)
      (running : (before.workers worker).phase = .running sequence) :
      WorkerMove config before worker (.progress worker phase message delivered)
        { before.workers worker with phase := .running (sequence + 1) }
  | diagnosed (request : DiagnosticsRequest) (sequence : Nat) (checks : List DiagnosticCheck)
      (status : String) (kind : (before.workers worker).request = .diagnostics request)
      (running : (before.workers worker).phase = .running sequence) :
      WorkerMove config before worker (.finish worker (.diagnostics checks status))
        { before.workers worker with
          phase := .concluded (resultFrame request.jobId sequence
            (diagnosticsVerdict (before.workers worker).cancelled status) checks) }
  | returned (request : KubernetesReleaseRequest) (sequence : Nat) (result : PersistedResult)
      (kind : (before.workers worker).request = .kubernetes request)
      (running : (before.workers worker).phase = .running sequence) :
      WorkerMove config before worker (.finish worker (.kubernetes result))
        { before.workers worker with
          phase := .returned sequence
            (kubernetesVerdict (before.workers worker).cancelled result) }
  | recorded (request : KubernetesReleaseRequest) (sequence : Nat) (result : PersistedResult)
      (io : LedgerIO) (kind : (before.workers worker).request = .kubernetes request)
      (returned : (before.workers worker).phase = .returned sequence result) :
      WorkerMove config before worker (.record worker io)
        { before.workers worker with
          recorded := some result
          phase := .concluded (persistedResultFrame request.jobId sequence result) }
  | unrecorded (request : KubernetesReleaseRequest) (sequence : Nat) (result : PersistedResult)
      (io : LedgerIO) (kind : (before.workers worker).request = .kubernetes request)
      (returned : (before.workers worker).phase = .returned sequence result) :
      WorkerMove config before worker (.record worker io)
        { before.workers worker with
          phase := .concluded (persistedResultFrame request.jobId sequence
            (.failed "DURABLE_STATE_UNAVAILABLE")) }
  | sent (frame : AgentFrame) (delivered : Bool)
      (concluded : (before.workers worker).phase = .concluded frame) :
      WorkerMove config before worker (.send worker delivered)
        { before.workers worker with phase := .sent }
  | marked (sent : (before.workers worker).phase = .sent) :
      WorkerMove config before worker (.mark worker) { before.workers worker with phase := .marked }
  | done (marked : (before.workers worker).phase = .marked) :
      WorkerMove config before worker (.done worker)
        { before.workers worker with phase := .finished }

/-- A step that changes one worker treats all others as unchanged. -/
theorem WorkerMove.of_update {config : AgentConfig} {before : State} {action : Action}
    {worker other : Nat} {record : Worker}
    (own : WorkerMove config before worker action record) :
    WorkerMove config before other action (Function.update before.workers worker record other) := by
  by_cases same : other = worker
  · subst same
    rw [Function.update_self]
    exact own
  · rw [Function.update_of_ne same]
    exact .same action

/-- Every step treats a worker in one of the listed ways. -/
theorem step_worker_move {config : AgentConfig} {before after : State} {action : Action}
    {events : List Event} (stepped : step config before action = some (after, events))
    (worker : Nat) : WorkerMove config before worker action (after.workers worker) := by
  cases action <;> simp only [step, silent] at stepped
  case connect =>
    rcases Option.map_eq_some_iff.mp stepped with ⟨state, connected, result⟩
    cases result
    unfold State.connect at connected
    split at connected <;> cases connected
    exact .same _
  case disconnect =>
    rcases Option.map_eq_some_iff.mp stepped with ⟨state, ended, result⟩
    cases result
    unfold State.disconnect at ended
    split at ended <;> cases ended
    dsimp only
    split
    · exact .cancelled _ rfl
    · exact .same _
  case shutdown =>
    cases stepped
    exact .cancelled _ rfl
  case crash =>
    cases stepped
    simp only [State.crash]
    split
    · exact .same _
    · rename_i used
      exact .killed used
  case receive frame =>
    unfold State.receive at stepped
    split at stepped
    · split at stepped
      · split at stepped <;> cases stepped <;> exact .same _
      · split at stepped <;> cases stepped <;> exact .same _
      · split at stepped <;> cases stepped
        · exact .same _
        · exact .of_update (.cancelled _ rfl)
    · cases stepped
  case admitJob admitted =>
    unfold State.admitJob at stepped
    split at stepped
    · rename_i request loop
      split at stepped
      · cases stepped
        exact .same _
      · split at stepped
        · rename_i fresh
          dsimp only at stepped
          split at stepped <;> cases stepped
          · exact .of_update (.prepared _ _ rfl loop fresh)
          · exact .of_update (.diagnosing _ _ rfl loop fresh)
        · cases stepped
    · cases stepped
  case begin io =>
    rcases Option.map_eq_some_iff.mp stepped with ⟨state, begun, result⟩
    cases result
    unfold State.begin at begun
    split at begun
    · rename_i request admitted loop
      dsimp only at begun
      split at begun <;> cases begun
      · exact .of_update (.refused request io loop)
      · exact .of_update (.refused request io loop)
      · exact .of_update (.begun request io loop)
    · cases begun
  case launch =>
    unfold State.launch at stepped
    split at stepped <;> cases stepped
    rename_i request admitted loop
    exact .of_update (.launched request loop)
  case answer delivered =>
    unfold State.answer at stepped
    split at stepped <;> cases stepped
    exact .same _
  case progress own phase message delivered =>
    unfold State.progress at stepped
    dsimp only at stepped
    split at stepped
    · rename_i sequence running
      split at stepped
      · cases stepped
        exact .same _
      · split at stepped <;> cases stepped
        exact .of_update (.progressed sequence phase message delivered running)
    · cases stepped
  case finish own outcome =>
    rcases Option.map_eq_some_iff.mp stepped with ⟨state, finished, result⟩
    cases result
    unfold State.finish at finished
    dsimp only at finished
    split at finished <;> cases finished
    · rename_i sequence request checks status running kind
      exact .of_update (.diagnosed request sequence checks status kind running)
    · rename_i sequence request result running kind
      exact .of_update (.returned request sequence result kind running)
  case record own io =>
    rcases Option.map_eq_some_iff.mp stepped with ⟨state, recorded, result⟩
    cases result
    unfold State.record at recorded
    split at recorded
    · rename_i sequence result request returned kind
      split at recorded <;> cases recorded
      · exact .of_update (.recorded request sequence result io kind returned)
      · exact .of_update (.unrecorded request sequence result io kind returned)
    · cases recorded
  case send own delivered =>
    unfold State.send at stepped
    split at stepped
    · rename_i frame concluded
      split at stepped <;> cases stepped
      exact .of_update (.sent frame delivered concluded)
    · cases stepped
  case mark own =>
    rcases Option.map_eq_some_iff.mp stepped with ⟨state, marked, result⟩
    cases result
    unfold State.mark at marked
    split at marked <;> cases marked
    rename_i sent
    simp only [State.setPhase, State.modifyWorker, State.workers_markCompleted]
    exact .of_update (.marked sent)
  case done own =>
    rcases Option.map_eq_some_iff.mp stepped with ⟨state, ended, result⟩
    cases result
    unfold State.done at ended
    split at ended
    · rename_i marked
      dsimp only at ended
      split at ended <;> cases ended <;> exact .of_update (.done marked)
    · cases ended

/-! ## The receive loop -/

/-- The frame that an event sends. -/
def Event.frame? : Event -> Option AgentFrame
  | .frame sent => some sent
  | _ => none

/-- The actions that the agent takes while its connection lasts.  A send fails
only for a goroutine whose own connection is gone. -/
def State.goesOn (state : State) : Action -> Bool
  | .connect => false
  | .disconnect => false
  | .shutdown => false
  | .crash => false
  | .receive _ => false
  | .answer delivered => delivered
  | .progress worker _ _ delivered => delivered || !state.live worker
  | .send worker delivered => delivered || !state.live worker
  | _ => true

/-- The actions that move the receive loop in every case. -/
def Action.movesLoop : Action -> Bool
  | .connect => true
  | .disconnect => true
  | .crash => true
  | .admitJob _ => true
  | .begin _ => true
  | .launch => true
  | .answer _ => true
  | _ => false

/-- What a step can do to the receive loop, with the events of the step. -/
inductive LoopMove (config : AgentConfig) (before after : State) :
    Action -> LoopPhase -> List Event -> Prop
  | same (action : Action) (events : List Event) (outside : action.movesLoop = false)
      (frames : forall event, event ∈ events ->
        Exists fun frame : AgentFrame => event = .frame frame) :
      LoopMove config before after action before.loop events
  | connected (offline : before.loop = .offline) : LoopMove config before after .connect .waiting []
  | disconnected (waiting : before.loop = .waiting) :
      LoopMove config before after .disconnect .offline []
  | crashed : LoopMove config before after .crash .offline []
  | rejected (request : DiagnosticsRequest) (waiting : before.loop = .waiting)
      (cause : safeJobID request.jobId = false ∨ request.jobId ∈ before.completed) :
      LoopMove config before after (.receive (.diagnostics request)) .waiting
        [.dropped (.diagnostics request)]
  | invalid (request : KubernetesReleaseRequest) (waiting : before.loop = .waiting) :
      LoopMove config before after (.receive (.kubernetesRelease request))
        (.answering request.jobId (.failed "INVALID_OPERATION_ID")) []
  | examined (frame : ControlFrame) (request : Request) (waiting : before.loop = .waiting)
      (carried : frame.request? = some request) (safe : safeJobID request.jobId = true) :
      LoopMove config before after (.receive frame) (.examined request) []
  | dropped (request : Request) (worker : Nat) (loop : before.loop = .examined request)
      (cause : request.jobId ∈ before.active ∨ maxActiveJobs ≤ before.active.entries.length) :
      LoopMove config before after (.admitJob worker) .waiting [.dropped request]
  | admitted (release : KubernetesReleaseRequest) (worker : Nat)
      (loop : before.loop = .examined (.kubernetes release))
      (own : after.workers worker =
        { Worker.unused with
          request := .kubernetes release, connection := before.connection, phase := .prepared }) :
      LoopMove config before after (.admitJob worker) (.admitted release worker) []
  | diagnosing (request : DiagnosticsRequest) (worker : Nat)
      (loop : before.loop = .examined (.diagnostics request))
      (own : after.workers worker =
        { Worker.unused with
          request := .diagnostics request, connection := before.connection
          phase := .running 1 }) :
      LoopMove config before after (.admitJob worker) .waiting [.started (.diagnostics request)]
  | refused (request : KubernetesReleaseRequest) (worker : Nat) (io : LedgerIO)
      (result : PersistedResult) (loop : before.loop = .admitted request worker)
      (own : after.workers worker = { before.workers worker with phase := .refused }) :
      LoopMove config before after (.begin io) (.answering request.jobId result) []
  | begun (request : KubernetesReleaseRequest) (worker : Nat) (io : LedgerIO)
      (loop : before.loop = .admitted request worker)
      (own : after.workers worker = { before.workers worker with begun := true }) :
      LoopMove config before after (.begin io) (.begun request worker) []
  | launched (request : KubernetesReleaseRequest) (worker : Nat)
      (loop : before.loop = .begun request worker)
      (own : after.workers worker = { before.workers worker with phase := .running 1 }) :
      LoopMove config before after .launch .waiting [.started (.kubernetes request)]
  | answered (jobId : String) (result : PersistedResult) (delivered : Bool)
      (loop : before.loop = .answering jobId result) :
      LoopMove config before after (.answer delivered) .waiting
        (if delivered then [.frame (persistedResultFrame jobId 1 result)] else [])

theorem LoopMove.of_eq {config : AgentConfig} {before after : State} {action : Action}
    {loop : LoopPhase} (outside : action.movesLoop = false) (same : loop = before.loop) :
    LoopMove config before after action loop [] := by
  rw [same]
  exact .same action [] outside (fun _ impossible => nomatch impossible)

/-- A worker that sends one frame, or none. -/
theorem LoopMove.of_frame {config : AgentConfig} {before after : State} {action : Action}
    {delivered : Bool} {frame : AgentFrame} (outside : action.movesLoop = false) :
    LoopMove config before after action before.loop (if delivered then [.frame frame] else []) := by
  refine .same action _ outside ?_
  intro event member
  split at member
  · exact ⟨frame, List.mem_singleton.mp member⟩
  · cases member

/-- Every step treats the receive loop in one of the listed ways. -/
theorem step_loop_move {config : AgentConfig} {before after : State} {action : Action}
    {events : List Event} (stepped : step config before action = some (after, events)) :
    LoopMove config before after action after.loop events := by
  cases action <;> simp only [step, silent] at stepped
  case connect =>
    rcases Option.map_eq_some_iff.mp stepped with ⟨state, connected, result⟩
    cases result
    unfold State.connect at connected
    split at connected <;> cases connected
    rename_i offline
    exact .connected offline
  case disconnect =>
    rcases Option.map_eq_some_iff.mp stepped with ⟨state, ended, result⟩
    cases result
    unfold State.disconnect at ended
    split at ended <;> cases ended
    rename_i waiting
    exact .disconnected waiting
  case shutdown =>
    cases stepped
    exact .of_eq rfl rfl
  case crash =>
    cases stepped
    exact .crashed
  case receive frame =>
    unfold State.receive at stepped
    split at stepped
    · rename_i waiting
      split at stepped
      · split at stepped <;> cases stepped
        · rename_i cause
          rw [waiting]
          exact .rejected _ waiting cause
        · rename_i cause
          exact .examined _ _ waiting rfl (Bool.eq_true_of_not_eq_false (not_or.mp cause).1)
      · split at stepped <;> cases stepped
        · exact .invalid _ waiting
        · rename_i cause
          exact .examined _ _ waiting rfl (Bool.eq_true_of_not_eq_false cause)
      · split at stepped <;> cases stepped
        · exact .of_eq rfl rfl
        · exact .of_eq rfl rfl
    · cases stepped
  case admitJob admitted =>
    unfold State.admitJob at stepped
    split at stepped
    · rename_i request loop
      split at stepped
      · rename_i cause
        cases stepped
        exact .dropped request admitted loop cause
      · split at stepped
        · dsimp only at stepped
          split at stepped <;> cases stepped
          · exact .admitted _ _ loop (Function.update_self _ _ _)
          · exact .diagnosing _ _ loop (Function.update_self _ _ _)
        · cases stepped
    · cases stepped
  case begin io =>
    rcases Option.map_eq_some_iff.mp stepped with ⟨state, begun, result⟩
    cases result
    unfold State.begin at begun
    split at begun
    · rename_i request admitted loop
      dsimp only at begun
      split at begun <;> cases begun
      · exact .refused request _ io _ loop (Function.update_self _ _ _)
      · exact .refused request _ io _ loop (Function.update_self _ _ _)
      · exact .begun request _ io loop (Function.update_self _ _ _)
    · cases begun
  case launch =>
    unfold State.launch at stepped
    split at stepped <;> cases stepped
    rename_i request admitted loop
    exact .launched request _ loop (Function.update_self _ _ _)
  case answer delivered =>
    unfold State.answer at stepped
    split at stepped <;> cases stepped
    rename_i jobId result loop
    exact .answered jobId result delivered loop
  case progress own phase message delivered =>
    unfold State.progress at stepped
    dsimp only at stepped
    split at stepped
    · split at stepped
      · cases stepped
        exact .of_eq rfl rfl
      · split at stepped <;> cases stepped
        exact .of_frame rfl
    · cases stepped
  case finish own outcome =>
    rcases Option.map_eq_some_iff.mp stepped with ⟨state, finished, result⟩
    cases result
    unfold State.finish at finished
    dsimp only at finished
    split at finished <;> cases finished <;> exact .of_eq rfl rfl
  case record own io =>
    rcases Option.map_eq_some_iff.mp stepped with ⟨state, recorded, result⟩
    cases result
    unfold State.record at recorded
    split at recorded
    · split at recorded <;> cases recorded <;> exact .of_eq rfl rfl
    · cases recorded
  case send own delivered =>
    unfold State.send at stepped
    split at stepped
    · split at stepped <;> cases stepped
      exact .of_frame rfl
    · cases stepped
  case mark own =>
    rcases Option.map_eq_some_iff.mp stepped with ⟨state, marked, result⟩
    cases result
    unfold State.mark at marked
    split at marked <;> cases marked
    exact .of_eq rfl (before.loop_markCompleted _)
  case done own =>
    rcases Option.map_eq_some_iff.mp stepped with ⟨state, ended, result⟩
    cases result
    unfold State.done at ended
    split at ended
    · dsimp only at ended
      split at ended <;> cases ended <;> exact .of_eq rfl rfl
    · cases ended

/-! ## The two steps that touch the ledger -/

/-- The actions that read and may replace the ledger file. -/
def Action.touchesLedger : Action -> Bool
  | .begin _ => true
  | .record _ _ => true
  | _ => false

theorem ledger_of_step {config : AgentConfig} {before after : State} {action : Action}
    {events : List Event} (stepped : step config before action = some (after, events))
    (other : action.touchesLedger = false) : after.ledger = before.ledger := by
  cases action <;> simp only [step, silent] at stepped
  case connect =>
    rcases Option.map_eq_some_iff.mp stepped with ⟨state, connected, result⟩
    cases result
    unfold State.connect at connected
    split at connected <;> cases connected
    rfl
  case disconnect =>
    rcases Option.map_eq_some_iff.mp stepped with ⟨state, ended, result⟩
    cases result
    unfold State.disconnect at ended
    split at ended <;> cases ended
    rfl
  case shutdown =>
    cases stepped
    rfl
  case crash =>
    cases stepped
    rfl
  case receive frame =>
    unfold State.receive at stepped
    split at stepped
    · split at stepped <;> split at stepped <;> cases stepped <;> rfl
    · cases stepped
  case admitJob admitted =>
    unfold State.admitJob at stepped
    split at stepped
    · split at stepped
      · cases stepped
        rfl
      · split at stepped
        · dsimp only at stepped
          split at stepped <;> cases stepped <;> rfl
        · cases stepped
    · cases stepped
  case begin io => cases other
  case launch =>
    unfold State.launch at stepped
    split at stepped <;> cases stepped
    rfl
  case answer delivered =>
    unfold State.answer at stepped
    split at stepped <;> cases stepped
    rfl
  case progress own phase message delivered =>
    unfold State.progress at stepped
    dsimp only at stepped
    split at stepped
    · split at stepped
      · cases stepped
        rfl
      · split at stepped <;> cases stepped
        rfl
    · cases stepped
  case finish own outcome =>
    rcases Option.map_eq_some_iff.mp stepped with ⟨state, finished, result⟩
    cases result
    unfold State.finish at finished
    dsimp only at finished
    split at finished <;> cases finished <;> rfl
  case record own io => cases other
  case send own delivered =>
    unfold State.send at stepped
    split at stepped
    · split at stepped <;> cases stepped
      rfl
    · cases stepped
  case mark own =>
    rcases Option.map_eq_some_iff.mp stepped with ⟨state, marked, result⟩
    cases result
    unfold State.mark at marked
    split at marked <;> cases marked
    exact before.ledger_markCompleted _
  case done own =>
    rcases Option.map_eq_some_iff.mp stepped with ⟨state, ended, result⟩
    cases result
    unfold State.done at ended
    split at ended
    · dsimp only at ended
      split at ended <;> cases ended <;> rfl
    · cases ended

/-- The three ways in which the ledger part of `startKubernetes` ends. -/
theorem begin_cases {config : AgentConfig} {before after : State} {io : LedgerIO}
    {events : List Event} (stepped : step config before (.begin io) = some (after, events)) :
    Exists fun request : KubernetesReleaseRequest => Exists fun worker : Nat =>
      before.loop = .admitted request worker ∧
      ((beginKubernetesOperation config.projectRoot io before.ledger request.jobId
            (kubernetesFingerprint config.sha256 request) = .unavailable ∧
          after = before.refuse worker request.jobId (.failed "DURABLE_STATE_UNAVAILABLE")) ∨
        (Exists fun job : PersistedJob =>
          beginKubernetesOperation config.projectRoot io before.ledger request.jobId
            (kubernetesFingerprint config.sha256 request) = .existing job ∧
          after = before.refuse worker request.jobId
            (answerExisting job (kubernetesFingerprint config.sha256 request))) ∨
        Exists fun written : Ledger =>
          beginKubernetesOperation config.projectRoot io before.ledger request.jobId
            (kubernetesFingerprint config.sha256 request) = .begun written ∧
          after = { before.modifyWorker worker fun record => { record with begun := true } with
            ledger := written
            loop := .begun request worker }) := by
  simp only [step, silent] at stepped
  rcases Option.map_eq_some_iff.mp stepped with ⟨state, begun, result⟩
  cases result
  unfold State.begin at begun
  split at begun
  · rename_i request worker loop
    refine ⟨request, worker, loop, ?_⟩
    dsimp only at begun
    split at begun <;> cases begun
    · rename_i outcome
      exact .inl ⟨outcome, rfl⟩
    · rename_i job outcome
      exact .inr (.inl ⟨job, outcome, rfl⟩)
    · rename_i written outcome
      exact .inr (.inr ⟨written, outcome, rfl⟩)
  · cases begun

/-- The two ways in which the ledger part of `executeKubernetes` ends. -/
theorem record_cases {config : AgentConfig} {before after : State} {worker : Nat} {io : LedgerIO}
    {events : List Event} (stepped : step config before (.record worker io) = some (after, events)) :
    Exists fun request : KubernetesReleaseRequest => Exists fun sequence : Nat =>
      Exists fun result : PersistedResult =>
      (before.workers worker).phase = .returned sequence result ∧
      (before.workers worker).request = .kubernetes request ∧
      ((completeKubernetesOperation config.projectRoot io before.ledger request.jobId
            (kubernetesFingerprint config.sha256 request) result = none ∧
          after.ledger = before.ledger ∧ (after.workers worker).recorded =
            (before.workers worker).recorded) ∨
        (completeKubernetesOperation config.projectRoot io before.ledger request.jobId
            (kubernetesFingerprint config.sha256 request) result = some after.ledger ∧
          (after.workers worker).recorded = some result)) := by
  simp only [step, silent] at stepped
  rcases Option.map_eq_some_iff.mp stepped with ⟨state, recorded, result⟩
  cases result
  unfold State.record at recorded
  split at recorded
  · rename_i sequence result request returned kind
    refine ⟨request, sequence, result, returned, kind, ?_⟩
    split at recorded <;> cases recorded
    · rename_i written outcome
      refine .inr ⟨outcome, ?_⟩
      simp only [State.workers_modifyWorker, if_true]
    · rename_i outcome
      refine .inl ⟨outcome, rfl, ?_⟩
      simp only [State.setPhase, State.workers_modifyWorker, if_true]
  · cases recorded

end Agent
end DjangoOps
