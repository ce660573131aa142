import DjangoOps.Agent.Transport

namespace DjangoOps
namespace Agent

open Protocol

/-!
# The moves of the agent

One constructor for each way in which an action can end, with the state that
it leads to, the events, and what the action has found.  What a step does to
one part of the state is read off this list, and no step is taken apart again.
-/

/-- What a step does. -/
inductive Move (config : AgentConfig) (before : State) : Action -> State -> List Event -> Prop
  | connected (offline : before.loop = .offline) :
      Move config before .connect
        { before with connection := before.connection + 1, active := ∅, loop := .waiting } []
  | disconnected (waiting : before.loop = .waiting) :
      Move config before .disconnect
        { before with
          loop := .offline
          workers := fun worker =>
            if (before.workers worker).connection = before.connection then
              { before.workers worker with cancelled := true }
            else before.workers worker } []
  | shutdown : Move config before .shutdown before.shutdown []
  | crashed : Move config before .crash before.crash []
  | rejected (request : DiagnosticsRequest) (waiting : before.loop = .waiting)
      (cause : safeJobID request.jobId = false ∨ request.jobId ∈ before.completed) :
      Move config before (.receive (.diagnostics request)) before [.dropped (.diagnostics request)]
  | examined (request : DiagnosticsRequest) (waiting : before.loop = .waiting)
      (safe : safeJobID request.jobId = true) (fresh : request.jobId ∉ before.completed) :
      Move config before (.receive (.diagnostics request))
        { before with loop := .examined (.diagnostics request) } []
  | invalid (request : KubernetesReleaseRequest) (waiting : before.loop = .waiting)
      (notSafe : safeJobID request.jobId = false) :
      Move config before (.receive (.kubernetesRelease request))
        { before with
          loop := .answering request.jobId (.failed "INVALID_OPERATION_ID") } []
  | taken (request : KubernetesReleaseRequest) (waiting : before.loop = .waiting)
      (safe : safeJobID request.jobId = true) :
      Move config before (.receive (.kubernetesRelease request))
        { before with loop := .examined (.kubernetes request) } []
  | unknown (jobId : String) (waiting : before.loop = .waiting)
      (missing : before.active.lookup jobId = none) :
      Move config before (.receive (.cancel jobId)) before []
  | cancelled (jobId : String) (worker : Nat) (waiting : before.loop = .waiting)
      (found : before.active.lookup jobId = some worker) :
      Move config before (.receive (.cancel jobId))
        (before.modifyWorker worker fun record => { record with cancelled := true }) []
  | dropped (request : Request) (worker : Nat) (loop : before.loop = .examined request)
      (cause : request.jobId ∈ before.active ∨ maxActiveJobs ≤ before.active.entries.length) :
      Move config before (.admitJob worker) { before with loop := .waiting } [.dropped request]
  | admitted (release : KubernetesReleaseRequest) (worker : Nat)
      (loop : before.loop = .examined (.kubernetes release))
      (free : ¬ (release.jobId ∈ before.active ∨
        maxActiveJobs ≤ before.active.entries.length))
      (fresh : (before.workers worker).phase = .fresh) :
      Move config before (.admitJob worker)
        { { before with active := before.active.insert release.jobId worker }.modifyWorker worker
            fun _ =>
              { Worker.unused with
                request := .kubernetes release, connection := before.connection
                phase := .prepared } with
          loop := .admitted release worker } []
  | diagnosing (request : DiagnosticsRequest) (worker : Nat)
      (loop : before.loop = .examined (.diagnostics request))
      (free : ¬ (request.jobId ∈ before.active ∨
        maxActiveJobs ≤ before.active.entries.length))
      (fresh : (before.workers worker).phase = .fresh) :
      Move config before (.admitJob worker)
        { { before with active := before.active.insert request.jobId worker }.modifyWorker worker
            fun _ =>
              { Worker.unused with
                request := .diagnostics request, connection := before.connection
                phase := .running 1 } with
          loop := .waiting } [.started (.diagnostics request)]
  | unavailable (request : KubernetesReleaseRequest) (worker : Nat) (io : LedgerIO)
      (loop : before.loop = .admitted request worker)
      (outcome : beginKubernetesOperation config.projectRoot io before.ledger request.jobId
        (kubernetesFingerprint config.sha256 request) = .unavailable) :
      Move config before (.begin io)
        (before.refuse worker request.jobId (.failed "DURABLE_STATE_UNAVAILABLE")) []
  | existing (request : KubernetesReleaseRequest) (worker : Nat) (io : LedgerIO)
      (job : PersistedJob) (loop : before.loop = .admitted request worker)
      (outcome : beginKubernetesOperation config.projectRoot io before.ledger request.jobId
        (kubernetesFingerprint config.sha256 request) = .existing job) :
      Move config before (.begin io)
        (before.refuse worker request.jobId
          (answerExisting job (kubernetesFingerprint config.sha256 request))) []
  | begun (request : KubernetesReleaseRequest) (worker : Nat) (io : LedgerIO) (written : Ledger)
      (loop : before.loop = .admitted request worker)
      (outcome : beginKubernetesOperation config.projectRoot io before.ledger request.jobId
        (kubernetesFingerprint config.sha256 request) = .begun written) :
      Move config before (.begin io)
        { before.modifyWorker worker fun record => { record with begun := true } with
          ledger := written
          loop := .begun request worker } []
  | launched (request : KubernetesReleaseRequest) (worker : Nat)
      (loop : before.loop = .begun request worker) :
      Move config before .launch
        { before.setPhase worker (.running 1) with loop := .waiting }
        [.started (.kubernetes request)]
  | answered (jobId : String) (result : PersistedResult) (delivered : Bool)
      (loop : before.loop = .answering jobId result) :
      Move config before (.answer delivered) { before with loop := .waiting }
        (if delivered then [.frame (persistedResultFrame jobId 1 result)] else [])
  | stopped (worker sequence : Nat) (phase message : String) (delivered : Bool)
      (running : (before.workers worker).phase = .running sequence)
      (ended : (before.workers worker).cancelled = true) :
      Move config before (.progress worker phase message delivered) before []
  | progressed (worker sequence : Nat) (phase message : String) (delivered : Bool)
      (running : (before.workers worker).phase = .running sequence)
      (arrives : ¬ (delivered = true ∧ before.live worker = false)) :
      Move config before (.progress worker phase message delivered)
        (before.setPhase worker (.running (sequence + 1)))
        (if delivered then
          [.frame (State.progressFrame (before.workers worker).request sequence phase message)]
        else [])
  | diagnosed (worker sequence : Nat) (request : DiagnosticsRequest)
      (checks : List DiagnosticCheck) (status : String)
      (running : (before.workers worker).phase = .running sequence)
      (kind : (before.workers worker).request = .diagnostics request) :
      Move config before (.finish worker (.diagnostics checks status))
        (before.setPhase worker (.concluded (resultFrame request.jobId sequence
          (diagnosticsVerdict (before.workers worker).cancelled status) checks))) []
  | returned (worker sequence : Nat) (request : KubernetesReleaseRequest)
      (result : PersistedResult) (running : (before.workers worker).phase = .running sequence)
      (kind : (before.workers worker).request = .kubernetes request) :
      Move config before (.finish worker (.kubernetes result))
        (before.setPhase worker
          (.returned sequence (kubernetesVerdict (before.workers worker).cancelled result))) []
  | recorded (worker sequence : Nat) (request : KubernetesReleaseRequest)
      (result : PersistedResult) (io : LedgerIO) (written : Ledger)
      (returned : (before.workers worker).phase = .returned sequence result)
      (kind : (before.workers worker).request = .kubernetes request)
      (outcome : completeKubernetesOperation config.projectRoot io before.ledger request.jobId
        (kubernetesFingerprint config.sha256 request) result = some written) :
      Move config before (.record worker io)
        { before.modifyWorker worker fun current =>
            { current with
              recorded := some result
              phase := .concluded (persistedResultFrame request.jobId sequence result) } with
          ledger := written } []
  | unrecorded (worker sequence : Nat) (request : KubernetesReleaseRequest)
      (result : PersistedResult) (io : LedgerIO)
      (returned : (before.workers worker).phase = .returned sequence result)
      (kind : (before.workers worker).request = .kubernetes request)
      (outcome : completeKubernetesOperation config.projectRoot io before.ledger request.jobId
        (kubernetesFingerprint config.sha256 request) result = none) :
      Move config before (.record worker io)
        (before.setPhase worker (.concluded (persistedResultFrame request.jobId sequence
          (.failed "DURABLE_STATE_UNAVAILABLE")))) []
  | sent (worker : Nat) (frame : AgentFrame) (delivered : Bool)
      (concluded : (before.workers worker).phase = .concluded frame)
      (arrives : ¬ (delivered = true ∧ before.live worker = false)) :
      Move config before (.send worker delivered) (before.setPhase worker .sent)
        (if delivered then [.frame frame] else [])
  | marked (worker : Nat) (sent : (before.workers worker).phase = .sent) :
      Move config before (.mark worker)
        ((before.markCompleted (before.workers worker).request.jobId).setPhase worker .marked) []
  | done (worker : Nat) (marked : (before.workers worker).phase = .marked)
      (here : (before.workers worker).connection = before.connection) :
      Move config before (.done worker)
        { before.setPhase worker .finished with
          active := before.active.erase (before.workers worker).request.jobId } []
  | doneElsewhere (worker : Nat) (marked : (before.workers worker).phase = .marked)
      (elsewhere : (before.workers worker).connection ≠ before.connection) :
      Move config before (.done worker) (before.setPhase worker .finished) []

/-- A step without visible events. -/
theorem silent_eq_some {result : Option State} {after : State} {events : List Event} :
    silent result = some (after, events) <-> result = some after ∧ events = [] := by
  unfold silent
  rw [Option.map_eq_some_iff]
  constructor
  · rintro ⟨state, made, same⟩
    cases same
    exact ⟨made, rfl⟩
  · rintro ⟨made, rfl⟩
    exact ⟨after, made, rfl⟩

section Inversion

variable {config : AgentConfig} {before after : State} {events : List Event}

theorem receive_move {frame : ControlFrame}
    (stepped : before.receive frame = some (after, events)) :
    Move config before (.receive frame) after events := by
  unfold State.receive at stepped
  split at stepped
  · rename_i waiting
    cases frame with
    | diagnostics request =>
        dsimp only at stepped
        split at stepped <;> cases stepped
        · rename_i cause
          exact .rejected request waiting cause
        · rename_i passed
          rcases not_or.mp passed with ⟨safe, fresh⟩
          exact .examined request waiting (Bool.eq_true_of_not_eq_false safe) fresh
    | kubernetesRelease request =>
        dsimp only at stepped
        split at stepped <;> cases stepped
        · rename_i notSafe
          exact .invalid request waiting notSafe
        · rename_i safe
          exact .taken request waiting (Bool.eq_true_of_not_eq_false safe)
    | cancel jobId =>
        dsimp only at stepped
        split at stepped <;> cases stepped
        · rename_i missing
          exact .unknown jobId waiting missing
        · rename_i worker found
          exact .cancelled jobId worker waiting found
  · cases stepped

theorem admitJob_move {worker : Nat} (stepped : before.admitJob worker = some (after, events)) :
    Move config before (.admitJob worker) after events := by
  unfold State.admitJob at stepped
  split at stepped
  · rename_i request loop
    split at stepped
    · rename_i cause
      cases stepped
      exact .dropped request worker loop cause
    · rename_i free
      split at stepped
      · rename_i fresh
        cases request with
        | kubernetes release =>
            cases stepped
            exact .admitted release worker loop free fresh
        | diagnostics request =>
            cases stepped
            exact .diagnosing request worker loop free fresh
      · cases stepped
  · cases stepped

theorem begin_move {io : LedgerIO} (stepped : before.begin config io = some after) :
    Move config before (.begin io) after [] := by
  unfold State.begin at stepped
  split at stepped
  · rename_i request worker loop
    dsimp only at stepped
    split at stepped <;> cases stepped
    · rename_i outcome
      exact .unavailable request worker io loop outcome
    · rename_i job outcome
      exact .existing request worker io job loop outcome
    · rename_i written outcome
      exact .begun request worker io written loop outcome
  · cases stepped

theorem progress_move {worker : Nat} {phase message : String} {delivered : Bool}
    (stepped : before.progress worker phase message delivered = some (after, events)) :
    Move config before (.progress worker phase message delivered) after events := by
  unfold State.progress at stepped
  dsimp only at stepped
  split at stepped
  · rename_i sequence running
    split at stepped
    · rename_i ended
      cases stepped
      exact .stopped worker sequence phase message delivered running ended
    · split at stepped
      · cases stepped
      · rename_i arrives
        cases stepped
        exact .progressed worker sequence phase message delivered running arrives
  · cases stepped

theorem record_move {worker : Nat} {io : LedgerIO}
    (stepped : before.record config worker io = some after) :
    Move config before (.record worker io) after [] := by
  unfold State.record at stepped
  split at stepped
  · rename_i sequence result request returned kind
    split at stepped <;> cases stepped
    · rename_i written outcome
      exact .recorded worker sequence request result io written returned kind outcome
    · rename_i outcome
      exact .unrecorded worker sequence request result io returned kind outcome
  · cases stepped

theorem send_move {worker : Nat} {delivered : Bool}
    (stepped : before.send worker delivered = some (after, events)) :
    Move config before (.send worker delivered) after events := by
  unfold State.send at stepped
  split at stepped
  · rename_i frame concluded
    split at stepped
    · cases stepped
    · rename_i arrives
      cases stepped
      exact .sent worker frame delivered concluded arrives
  · cases stepped

theorem done_move {worker : Nat} (stepped : before.done worker = some after) :
    Move config before (.done worker) after [] := by
  unfold State.done at stepped
  split at stepped
  · rename_i marked
    dsimp only at stepped
    split at stepped <;> cases stepped
    · rename_i here
      exact .done worker marked here
    · rename_i elsewhere
      exact .doneElsewhere worker marked elsewhere
  · cases stepped

/-- Every step is one of the moves. -/
theorem step_move {action : Action} (stepped : step config before action = some (after, events)) :
    Move config before action after events := by
  cases action with
  | connect =>
      rcases silent_eq_some.mp stepped with ⟨moved, rfl⟩
      unfold State.connect at moved
      split at moved <;> cases moved
      rename_i offline
      exact .connected offline
  | disconnect =>
      rcases silent_eq_some.mp stepped with ⟨moved, rfl⟩
      unfold State.disconnect at moved
      split at moved <;> cases moved
      rename_i waiting
      exact .disconnected waiting
  | shutdown =>
      cases stepped
      exact .shutdown
  | crash =>
      cases stepped
      exact .crashed
  | receive frame => exact receive_move stepped
  | admitJob worker => exact admitJob_move stepped
  | begin io =>
      rcases silent_eq_some.mp stepped with ⟨moved, rfl⟩
      exact begin_move moved
  | launch =>
      simp only [step, State.launch] at stepped
      split at stepped <;> cases stepped
      rename_i request worker loop
      exact .launched request worker loop
  | answer delivered =>
      simp only [step, State.answer] at stepped
      split at stepped <;> cases stepped
      rename_i jobId result loop
      exact .answered jobId result delivered loop
  | progress worker phase message delivered => exact progress_move stepped
  | finish worker outcome =>
      rcases silent_eq_some.mp stepped with ⟨moved, rfl⟩
      simp only [State.finish] at moved
      split at moved <;> cases moved
      · rename_i sequence request checks status running kind
        exact .diagnosed worker sequence request checks status running kind
      · rename_i sequence request result running kind
        exact .returned worker sequence request result running kind
  | record worker io =>
      rcases silent_eq_some.mp stepped with ⟨moved, rfl⟩
      exact record_move moved
  | send worker delivered => exact send_move stepped
  | mark worker =>
      rcases silent_eq_some.mp stepped with ⟨moved, rfl⟩
      unfold State.mark at moved
      split at moved <;> cases moved
      rename_i sent
      exact .marked worker sent
  | done worker =>
      rcases silent_eq_some.mp stepped with ⟨moved, rfl⟩
      exact done_move moved

end Inversion

end Agent
end DjangoOps
