import Mathlib.Data.Finset.Basic
import Mathlib.Logic.Function.Basic
import DjangoOps.Foundation.Transition
import DjangoOps.Agent.Ledger

namespace DjangoOps
namespace Agent

open Protocol

/-!
# The agent process

One receive loop starts job goroutines; they share the ledger, the set of
completed jobs and the map of active jobs, each behind a mutex.  One action is
what one goroutine does between two such shared accesses.  What a job's
executor does in between is left open here: it may report any progress and
return any outcome.

A worker is one admitted job.  Its fields `begun` and `recorded` do not exist
in the program: they remember that the ledger entry of the job was written,
and which result was durably recorded for it, also after the process died.
-/

def maxActiveJobs : Nat := 4

/-- What the agent is given: the root of its project, below which the ledger lies, and the
digest that fingerprints are made with. -/
structure AgentConfig where
  projectRoot : String
  sha256 : String -> String

/-- What `diagnostics.Runner.Run` or `kubernetes.Runner.Run` returns. -/
inductive Outcome
  | diagnostics (checks : List DiagnosticCheck) (status : String)
  | kubernetes (result : PersistedResult)
  deriving DecidableEq

/-- Where a job goroutine stands.  `prepared` is admitted but not started,
`refused` will never be started, `returned` goes on to record its result,
`concluded` goes on to send its last frame. -/
inductive WorkerPhase
  | fresh
  | prepared
  | refused
  | running (sequence : Nat)
  | returned (sequence : Nat) (result : PersistedResult)
  | concluded (frame : AgentFrame)
  | sent
  | marked
  | finished
  | killed
  deriving DecidableEq

/-- One goroutine: its request, the stream that it was started on, whether its context has
been cancelled, how far it has come, whether it has an entry in the ledger, and the
result that it has recorded there. -/
structure Worker where
  request : Request
  connection : Nat
  cancelled : Bool
  phase : WorkerPhase
  begun : Bool
  recorded : Option PersistedResult

/-- Where the receive loop stands.  `examined` has passed the checks before
`admitJob`, `admitted` goes on to the ledger, `begun` goes on to start the
goroutine, and `answering` to send a result without starting one. -/
inductive LoopPhase
  | offline
  | waiting
  | examined (request : Request)
  | admitted (request : KubernetesReleaseRequest) (worker : Nat)
  | begun (request : KubernetesReleaseRequest) (worker : Nat)
  | answering (jobId : String) (result : PersistedResult)
  deriving DecidableEq

/-- The runner of the agent: the ledger on the disk, the completed ids in memory and
their order, the number of the current stream, the receive loop, the active jobs of
the current stream with their goroutines, and all goroutines so far. -/
structure State where
  ledger : Ledger
  completed : Finset String
  completedOrder : List String
  connection : Nat
  loop : LoopPhase
  active : AList (fun _ : String => Nat)
  workers : Nat -> Worker

/-- What can be seen of a step. -/
inductive Event
  | frame (frame : AgentFrame)
  | started (request : Request)
  | dropped (request : Request)
  deriving DecidableEq

def Worker.unused : Worker :=
  { request := .diagnostics ⟨"", ""⟩, connection := 0, cancelled := false, phase := .fresh
    begun := false, recorded := none }

/-- An agent that has never run. -/
def State.initial : State :=
  { ledger := ∅, completed := ∅, completedOrder := [], connection := 0, loop := .offline
    active := ∅, workers := fun _ => .unused }

/-- `persistedResultFrame`. -/
def persistedResultFrame (jobId : String) (sequence : Nat) (result : PersistedResult) : AgentFrame :=
  .kubernetesResult
    { jobId := jobId, sequence := sequence, status := result.status
      helmRevision := result.helmRevision, previousRevision := result.previousRevision
      rollbackStatus := result.rollbackStatus, errorCode := result.errorCode }

/-- `resultFrame`. -/
def resultFrame (jobId : String) (sequence : Nat) (status : String)
    (checks : List DiagnosticCheck) : AgentFrame :=
  .result { jobId := jobId, sequence := sequence, status := status, checks := checks }

/-- The verdict of `executeDiagnostics` once its runner has returned. -/
def diagnosticsVerdict (cancelled : Bool) (status : String) : String :=
  if cancelled then "canceled" else status

/-- The verdict of `executeKubernetes` once its runner has returned. -/
def kubernetesVerdict (cancelled : Bool) (result : PersistedResult) : PersistedResult :=
  if cancelled then { result with status := "cancelled", errorCode := "CANCELLED" } else result

/-- The answer of `startKubernetes` to a job id that the ledger knows. -/
def answerExisting (job : PersistedJob) (fingerprint : String) : PersistedResult :=
  if job.fingerprint ≠ fingerprint then .failed "OPERATION_ID_CONFLICT"
  else
    match job.state, job.result with
    | .completed, some result => result
    | _, _ => .failed "RECOVERY_REQUIRED"

namespace State

def modifyWorker (state : State) (worker : Nat) (change : Worker -> Worker) : State :=
  { state with workers := Function.update state.workers worker (change (state.workers worker)) }

def setPhase (state : State) (worker : Nat) (phase : WorkerPhase) : State :=
  state.modifyWorker worker fun record => { record with phase := phase }

/-- The connection that a worker sends on is still there. -/
def live (state : State) (worker : Nat) : Bool :=
  decide ((state.workers worker).connection = state.connection ∧ state.loop ≠ .offline)

/-- `connectOnce`, up to its receive loop. -/
def connect (state : State) : Option State :=
  if state.loop = .offline then
    some { state with connection := state.connection + 1, active := ∅, loop := .waiting }
  else none

/-- `stream.Recv` fails: the context of every job of the connection ends. -/
def disconnect (state : State) : Option State :=
  if state.loop = .waiting then
    some { state with
      loop := .offline
      workers := fun worker =>
        if (state.workers worker).connection = state.connection then
          { state.workers worker with cancelled := true }
        else state.workers worker }
  else none

/-- The context of the whole process ends. -/
def shutdown (state : State) : State :=
  { state with workers := fun worker => { state.workers worker with cancelled := true } }

/-- The process dies and keeps nothing but the ledger. -/
def crash (state : State) : State :=
  { state with
    completed := ∅
    completedOrder := []
    loop := .offline
    active := ∅
    workers := fun worker =>
      if (state.workers worker).phase = .fresh then state.workers worker
      else { state.workers worker with phase := .killed } }

/-- The receive loop takes the next frame: the checks before `admitJob`, or the
cancellation of an active job. -/
def receive (state : State) (frame : ControlFrame) : Option (State × List Event) :=
  if state.loop = .waiting then
    match frame with
    | .diagnostics request =>
        if safeJobID request.jobId = false ∨ request.jobId ∈ state.completed then
          some (state, [.dropped (.diagnostics request)])
        else some ({ state with loop := .examined (.diagnostics request) }, [])
    | .kubernetesRelease request =>
        if safeJobID request.jobId = false then
          some ({ state with
            loop := .answering request.jobId (.failed "INVALID_OPERATION_ID") }, [])
        else some ({ state with loop := .examined (.kubernetes request) }, [])
    | .cancel jobId =>
        match state.active.lookup jobId with
        | none => some (state, [])
        | some worker =>
            some (state.modifyWorker worker fun record => { record with cancelled := true }, [])
  else none

/-- `admitJob`, and the start of a diagnostics goroutine. -/
def admitJob (state : State) (worker : Nat) : Option (State × List Event) :=
  match state.loop with
  | .examined request =>
      if request.jobId ∈ state.active ∨ maxActiveJobs ≤ state.active.entries.length then
        some ({ state with loop := .waiting }, [.dropped request])
      else if (state.workers worker).phase = .fresh then
        let prepared := { state with active := state.active.insert request.jobId worker }
        match request with
        | .kubernetes release =>
            some ({ prepared.modifyWorker worker fun _ =>
                { Worker.unused with
                  request := request, connection := state.connection, phase := .prepared } with
              loop := .admitted release worker }, [])
        | .diagnostics _ =>
            some ({ prepared.modifyWorker worker fun _ =>
                { Worker.unused with
                  request := request, connection := state.connection, phase := .running 1 } with
              loop := .waiting }, [.started request])
      else none
  | _ => none

/-- The deletion of an active job that is not started, before its answer. -/
def refuse (state : State) (worker : Nat) (jobId : String) (result : PersistedResult) : State :=
  { state.setPhase worker .refused with
    active := state.active.erase jobId
    loop := .answering jobId result }

/-- `beginKubernetesOperation` within `startKubernetes`. -/
def begin (config : AgentConfig) (state : State) (io : LedgerIO) : Option State :=
  match state.loop with
  | .admitted request worker =>
      let fingerprint := kubernetesFingerprint config.sha256 request
      match beginKubernetesOperation config.projectRoot io state.ledger request.jobId
          fingerprint with
      | .unavailable =>
          some (state.refuse worker request.jobId (.failed "DURABLE_STATE_UNAVAILABLE"))
      | .existing job =>
          some (state.refuse worker request.jobId (answerExisting job fingerprint))
      | .begun written =>
          some { state.modifyWorker worker fun record => { record with begun := true } with
            ledger := written
            loop := .begun request worker }
  | _ => none

/-- `go r.executeKubernetes(...)`. -/
def launch (state : State) : Option (State × List Event) :=
  match state.loop with
  | .begun request worker =>
      some ({ state.setPhase worker (.running 1) with loop := .waiting },
        [.started (.kubernetes request)])
  | _ => none

/-- `send` of an answer of the receive loop. -/
def answer (state : State) (delivered : Bool) : Option (State × List Event) :=
  match state.loop with
  | .answering jobId result =>
      some ({ state with loop := .waiting },
        if delivered then [.frame (persistedResultFrame jobId 1 result)] else [])
  | _ => none

/-- The progress frame of a job. -/
def progressFrame (request : Request) (sequence : Nat) (phase message : String) : AgentFrame :=
  match request with
  | .diagnostics request => .progress ⟨request.jobId, sequence, phase, message⟩
  | .kubernetes request => .kubernetesProgress ⟨request.jobId, sequence, phase, message⟩

/-- The progress callback of both executors. -/
def progress (state : State) (worker : Nat) (phase message : String) (delivered : Bool) :
    Option (State × List Event) :=
  let record := state.workers worker
  match record.phase with
  | .running sequence =>
      if record.cancelled then some (state, [])
      else if delivered ∧ state.live worker = false then none
      else some (state.setPhase worker (.running (sequence + 1)),
        if delivered then [.frame (progressFrame record.request sequence phase message)] else [])
  | _ => none

/-- The executor returns, and the context is looked at once more. -/
def finish (state : State) (worker : Nat) (outcome : Outcome) : Option State :=
  let record := state.workers worker
  match record.phase, record.request, outcome with
  | .running sequence, .diagnostics request, .diagnostics checks status =>
      some (state.setPhase worker (.concluded
        (resultFrame request.jobId sequence (diagnosticsVerdict record.cancelled status) checks)))
  | .running sequence, .kubernetes _, .kubernetes result =>
      some (state.setPhase worker
        (.returned sequence (kubernetesVerdict record.cancelled result)))
  | _, _, _ => none

/-- `completeKubernetesOperation` within `executeKubernetes`. -/
def record (config : AgentConfig) (state : State) (worker : Nat) (io : LedgerIO) : Option State :=
  match (state.workers worker).phase, (state.workers worker).request with
  | .returned sequence result, .kubernetes request =>
      match completeKubernetesOperation config.projectRoot io state.ledger request.jobId
          (kubernetesFingerprint config.sha256 request) result with
      | some written =>
          some { state.modifyWorker worker fun current =>
              { current with
                recorded := some result
                phase := .concluded (persistedResultFrame request.jobId sequence result) } with
            ledger := written }
      | none =>
          some (state.setPhase worker (.concluded
            (persistedResultFrame request.jobId sequence (.failed "DURABLE_STATE_UNAVAILABLE"))))
  | _, _ => none

/-- `send` of the last frame of a job. -/
def send (state : State) (worker : Nat) (delivered : Bool) : Option (State × List Event) :=
  match (state.workers worker).phase with
  | .concluded frame =>
      if delivered ∧ state.live worker = false then none
      else some (state.setPhase worker .sent, if delivered then [.frame frame] else [])
  | _ => none

/-- `Runner.markCompleted`. -/
def markCompleted (state : State) (jobId : String) : State :=
  if jobId ∈ state.completed then state
  else
    let kept : Finset String × List String :=
      if maxCompletedJobs ≤ state.completedOrder.length then
        match state.completedOrder with
        | [] => (state.completed, [])
        | evicted :: rest => (state.completed.erase evicted, rest)
      else (state.completed, state.completedOrder)
    { state with completed := insert jobId kept.1, completedOrder := kept.2 ++ [jobId] }

def mark (state : State) (worker : Nat) : Option State :=
  if (state.workers worker).phase = .sent then
    some ((state.markCompleted (state.workers worker).request.jobId).setPhase worker .marked)
  else none

/-- The deferred `done()`, on the active jobs of the worker's connection. -/
def done (state : State) (worker : Nat) : Option State :=
  if (state.workers worker).phase = .marked then
    let ended := state.setPhase worker .finished
    if (state.workers worker).connection = state.connection then
      some { ended with active := state.active.erase (state.workers worker).request.jobId }
    else some ended
  else none

end State

/-- What happens next: the stream comes or goes, the process ends and starts again, the
receive loop takes a frame or goes on with it, or a goroutine takes a step.  Frames
may be lost on their way, and the ledger may fail. -/
inductive Action
  | connect
  | disconnect
  | shutdown
  | crash
  | receive (frame : ControlFrame)
  | admitJob (worker : Nat)
  | begin (io : LedgerIO)
  | launch
  | answer (delivered : Bool)
  | progress (worker : Nat) (phase message : String) (delivered : Bool)
  | finish (worker : Nat) (outcome : Outcome)
  | record (worker : Nat) (io : LedgerIO)
  | send (worker : Nat) (delivered : Bool)
  | mark (worker : Nat)
  | done (worker : Nat)

/-- A step without visible events. -/
def silent (after : Option State) : Option (State × List Event) := after.map fun state => (state, [])

/-- One step of the agent, with the frames and starts that it shows. -/
def step (config : AgentConfig) (state : State) : Action -> Option (State × List Event)
  | .connect => silent state.connect
  | .disconnect => silent state.disconnect
  | .shutdown => silent (some state.shutdown)
  | .crash => silent (some state.crash)
  | .receive frame => state.receive frame
  | .admitJob worker => state.admitJob worker
  | .begin io => silent (state.begin config io)
  | .launch => state.launch
  | .answer delivered => state.answer delivered
  | .progress worker phase message delivered => state.progress worker phase message delivered
  | .finish worker outcome => silent (state.finish worker outcome)
  | .record worker io => silent (state.record config worker io)
  | .send worker delivered => state.send worker delivered
  | .mark worker => silent (state.mark worker)
  | .done worker => silent (state.done worker)

/-- The agent as a machine that starts with no ledger file. -/
def machine (config : AgentConfig) : Transition.Machine State Action where
  initial := fun state => state = .initial
  step := fun state action => (step config state action).map Prod.fst

/-! ## Sample surroundings -/

def AgentConfig.sample : AgentConfig where
  projectRoot := "/srv/project"
  sha256 := sampleDigest

def LedgerIO.sample (now : Int) : LedgerIO where
  now := now
  order := .stable
  reads := true
  writes := true

end Agent
end DjangoOps
