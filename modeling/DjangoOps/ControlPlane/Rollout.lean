import DjangoOps.Foundation.RevisionHistory
import DjangoOps.Agent.Verdict
import DjangoOps.ControlPlane.Retry

namespace DjangoOps
namespace ControlPlane
namespace Rollout

open Protocol Gateway Agent

/-!
# Releases and their cluster

The release service of one target together with the Helm release that it
deploys.  What the agent does for an operation is not tied to the dispatch that
asked for it: it may take effect after the dispatch has timed out, after the
release was cancelled, and in any order with other operations.  The agent begins
a run of an operation when its ledger has no entry for it: at the first request,
and again at a later one when the outcome of every earlier run was recorded and
the entry has been evicted since.

A Helm revision may be made without taking effect.  Reading the revision back
yields the newest one, whoever made it.  Helm keeps a bounded number of
revisions, so every revision but the newest may be pruned at any time; the
history records all that were made.
-/

/-- One run of the executor: the request it was begun with, the revision it has
made and whether this took effect, the revision it has read back, and the result
that was recorded for it. -/
structure Run where
  request : KubernetesReleaseRequest
  made : Option Nat
  applied : Bool
  read : Option Nat
  result : Option PersistedResult
  deriving DecidableEq

def Run.fresh (request : KubernetesReleaseRequest) : Run := ⟨request, none, false, none, none⟩

/-- The history holds image and values of every Helm revision that was made, and
`pruned` the numbers of those that Helm has dropped.  The newest run of an
operation is the head of its list. -/
structure State where
  service : Service.State
  sent : List KubernetesReleaseRequest
  history : List (Revision (String × String))
  pruned : List Nat
  runs : String -> List Run

def State.initial : State :=
  { service := .initial, sent := [], history := [], pruned := [], runs := fun _ => [] }

/-- The result frame carries a result of the executor. -/
def carries (frame : KubernetesReleaseResult) (result : PersistedResult) : Bool :=
  decide (frame.status = result.status ∧ frame.helmRevision = result.helmRevision ∧
    frame.previousRevision = result.previousRevision ∧
    frame.rollbackStatus = result.rollbackStatus ∧ frame.errorCode = result.errorCode)

/-- A result frame of the agent for an operation: one of the answers that
`startKubernetes` gives without running it, or the result of one of its runs. -/
def authors (runs : List Run) (frame : KubernetesReleaseResult) : Bool :=
  carries frame (.failed frame.errorCode) ||
    runs.any fun run =>
      match run.result with
      | some result => carries frame result
      | none => false

/-- A run agrees with what happened to the cluster. -/
def Run.agrees (run : Run) (world : Executor.World) (completed : List Executor.Step) : Bool :=
  (decide (Executor.Step.upgrade ∉ completed) || (run.made.isSome && run.applied)) &&
    (decide (Executor.Step.recordRevision ∉ completed) ||
      match world.helmOutput with
      | .metadata value => decide (Executor.helmRevision value = run.read)
      | _ => true)

namespace State

/-- The run that a request was begun with, as long as it has no result. -/
def running? (state : State) (request : KubernetesReleaseRequest) : Option Run :=
  (state.runs request.jobId).head?.filter fun run =>
    decide (run.request = request) && run.result.isNone

/-- Write the newest run of an operation. -/
def setRun (state : State) (operationId : String) (run : Run) : State :=
  { state with
    runs := Function.update state.runs operationId (run :: (state.runs operationId).tail) }

/-- `start_release` up to its dispatch. -/
def start (config : ServiceConfig) (state : State) (call : Nat) (intent : Intent)
    (operationId : String) : Option State :=
  (Service.step config state.service (.start call intent operationId)).map fun service =>
    { state with
      service := service
      sent :=
        match service.calls call with
        | .dispatching _ request => request :: state.sent
        | _ => state.sent }

/-- A result of the agent is one that the agent has for the operation. -/
def genuine (config : ServiceConfig) (state : State) (operationId : String) (course : Course) :
    Bool :=
  match course.result? config.target.agentId operationId with
  | some (delivery, frame) =>
      decide (delivery.origin = .gateway) || authors (state.runs operationId) frame
  | none => true

/-- `start_release` behind its dispatch. -/
def finish (config : ServiceConfig) (state : State) (call : Nat) (course : Course) : Option State :=
  match Service.outstanding? (state.service.calls call) with
  | none => none
  | some operationId =>
      if state.genuine config operationId course then
        (Service.step config state.service (.finish call course)).map fun service =>
          { state with service := service }
      else none

def cancelRelease (state : State) (operationId : String) (accepted : Bool) : State :=
  { state with service := state.service.cancelRelease operationId accepted }

def addRevision (state : State) (revision : Revision (String × String)) : State :=
  { state with history := state.history ++ [revision] }

/-- The agent begins a run: the outcome of every earlier run of the operation was
recorded, and no entry is left in its ledger. -/
def begin (state : State) (request : KubernetesReleaseRequest) : Option State :=
  if request ∈ state.sent ∧
      (state.runs request.jobId).all (fun run => run.result.isSome) = true then
    some { state with
      runs := Function.update state.runs request.jobId
        (.fresh request :: state.runs request.jobId) }
  else none

/-- `helm upgrade` makes a revision for a run. -/
def upgrade (state : State) (request : KubernetesReleaseRequest) (effective : Bool) :
    Option State :=
  match state.running? request with
  | none => none
  | some run =>
      if run.made.isNone then
        some ((state.addRevision ⟨(request.image, request.valuesJson), effective, none⟩).setRun
          request.jobId
          { run with made := some (state.history.length + 1), applied := effective })
      else none

/-- `helm get metadata` reads the newest revision. -/
def readRevision (state : State) (request : KubernetesReleaseRequest) : Option State :=
  match state.running? request with
  | none => none
  | some run =>
      if run.made.isSome then
        some (state.setRun request.jobId { run with read := some state.history.length })
      else none

/-- `helm rollback` to the revision that the request names, which has to be
stored. -/
def rollback (state : State) (request : KubernetesReleaseRequest) (effective : Bool) :
    Option State :=
  match state.running? request with
  | none => none
  | some run =>
      if run.made.isSome ∧ request.rollbackPolicy = "allow" then
        (RevisionHistory.stored? state.pruned state.history request.previousRevision).map
          fun target =>
            state.addRevision ⟨target.content, effective, some request.previousRevision⟩
      else none

/-- The executor of an operation returns, and its verdict is recorded. -/
def conclude (state : State) (request : KubernetesReleaseRequest) (world : Executor.World) :
    Option State :=
  match state.running? request with
  | none => none
  | some run =>
      if run.agrees world (Executor.run world request).completed then
        some (state.setRun request.jobId { run with result := some (verdictOf world request) })
      else none

/-- Helm drops a revision that is not the newest one. -/
def prune (state : State) (number : Nat) : Option State :=
  if number < state.history.length then some { state with pruned := number :: state.pruned }
  else none

end State

/-- The steps of the service, of the agent that runs a request, and of Helm, which may
prune a revision at any time.  An upgrade and a rollback take effect or do not,
whatever the agent reports of them in the end. -/
inductive Action
  | start (call : Nat) (intent : Intent) (operationId : String)
  | finish (call : Nat) (course : Course)
  | cancelRelease (operationId : String) (accepted : Bool)
  | begin (request : KubernetesReleaseRequest)
  | upgrade (request : KubernetesReleaseRequest) (effective : Bool)
  | readRevision (request : KubernetesReleaseRequest)
  | rollback (request : KubernetesReleaseRequest) (effective : Bool)
  | conclude (request : KubernetesReleaseRequest) (world : Executor.World)
  | prune (number : Nat)

def step (config : ServiceConfig) (state : State) : Action -> Option State
  | .start call intent operationId => state.start config call intent operationId
  | .finish call course => state.finish config call course
  | .cancelRelease operationId accepted => some (state.cancelRelease operationId accepted)
  | .begin request => state.begin request
  | .upgrade request effective => state.upgrade request effective
  | .readRevision request => state.readRevision request
  | .rollback request effective => state.rollback request effective
  | .conclude request world => state.conclude request world
  | .prune number => state.prune number

/-- A target without releases whose Helm release was never installed. -/
def machine (config : ServiceConfig) : Transition.Machine State Action where
  initial := fun state => state = .initial
  step := step config

/-- What the steps outside the service can do to the runs and to the cluster. -/
inductive Outcome (before : State) : Action -> State -> Prop
  | begun (request : KubernetesReleaseRequest) (asked : request ∈ before.sent)
      (recorded : (before.runs request.jobId).all (fun run => run.result.isSome) = true) :
      Outcome before (.begin request)
        { before with
          runs := Function.update before.runs request.jobId
            (.fresh request :: before.runs request.jobId) }
  | upgraded (request : KubernetesReleaseRequest) (effective : Bool) (run : Run)
      (running : before.running? request = some run) (unmade : run.made = none) :
      Outcome before (.upgrade request effective)
        ((before.addRevision ⟨(request.image, request.valuesJson), effective, none⟩).setRun
          request.jobId
          { run with made := some (before.history.length + 1), applied := effective })
  | read (request : KubernetesReleaseRequest) (run : Run) (number : Nat)
      (running : before.running? request = some run) (made : run.made = some number) :
      Outcome before (.readRevision request)
        (before.setRun request.jobId { run with read := some before.history.length })
  | restored (request : KubernetesReleaseRequest) (effective : Bool)
      (target : Revision (String × String)) (kept : request.previousRevision ∉ before.pruned)
      (found : RevisionHistory.at? before.history request.previousRevision = some target) :
      Outcome before (.rollback request effective)
        (before.addRevision ⟨target.content, effective, some request.previousRevision⟩)
  | concluded (request : KubernetesReleaseRequest) (world : Executor.World) (run : Run)
      (running : before.running? request = some run)
      (agrees : run.agrees world (Executor.run world request).completed = true) :
      Outcome before (.conclude request world)
        (before.setRun request.jobId { run with result := some (verdictOf world request) })
  | pruned (number : Nat) (old : number < before.history.length) :
      Outcome before (.prune number) { before with pruned := number :: before.pruned }

/-- The steps of the service itself. -/
def Action.ofService : Action -> Bool
  | .start _ _ _ | .finish _ _ | .cancelRelease _ _ => true
  | _ => false

theorem step_outcome {config : ServiceConfig} {before after : State} {action : Action}
    (stepped : step config before action = some after) (outside : action.ofService = false) :
    Outcome before action after := by
  cases action with
  | start | finish | cancelRelease => cases outside
  | begin request =>
      simp only [step, State.begin] at stepped
      split at stepped
      · rename_i enabled
        cases stepped
        exact .begun request enabled.1 enabled.2
      · cases stepped
  | upgrade request effective =>
      simp only [step, State.upgrade] at stepped
      split at stepped
      · cases stepped
      · rename_i run running
        split at stepped
        · rename_i unmade
          cases stepped
          exact .upgraded request effective run running (Option.isNone_iff_eq_none.mp unmade)
        · cases stepped
  | readRevision request =>
      simp only [step, State.readRevision] at stepped
      split at stepped
      · cases stepped
      · rename_i run running
        split at stepped
        · rename_i made
          cases stepped
          rcases Option.isSome_iff_exists.mp made with ⟨number, same⟩
          exact .read request run number running same
        · cases stepped
  | rollback request effective =>
      simp only [step, State.rollback] at stepped
      split at stepped
      · cases stepped
      · split at stepped
        · rcases Option.map_eq_some_iff.mp stepped with ⟨target, stored, rfl⟩
          rcases RevisionHistory.stored?_eq_some stored with ⟨kept, found⟩
          exact .restored request effective target kept found
        · cases stepped
  | conclude request world =>
      simp only [step, State.conclude] at stepped
      split at stepped
      · cases stepped
      · rename_i run running
        split at stepped
        · rename_i agrees
          cases stepped
          exact .concluded request world run running agrees
        · cases stepped
  | prune number =>
      simp only [step, State.prune] at stepped
      split at stepped
      · rename_i old
        cases stepped
        exact .pruned number old
      · cases stepped

/-- The service takes its own steps only. -/
theorem service_of_step {config : ServiceConfig} {before after : State} {action : Action}
    (stepped : step config before action = some after) :
    after.service = before.service ∨
      Exists fun own : Service.Action =>
        Service.step config before.service own = some after.service := by
  cases outside : action.ofService with
  | false =>
      cases step_outcome stepped outside <;> exact .inl rfl
  | true =>
      cases action with
      | start call intent operationId =>
          rcases Option.map_eq_some_iff.mp stepped with ⟨service, moved, rfl⟩
          exact .inr ⟨_, moved⟩
      | finish call course =>
          simp only [step, State.finish] at stepped
          split at stepped
          · cases stepped
          · split at stepped
            · rcases Option.map_eq_some_iff.mp stepped with ⟨service, moved, rfl⟩
              exact .inr ⟨_, moved⟩
            · cases stepped
      | cancelRelease operationId accepted =>
          cases stepped
          exact .inr ⟨.cancelRelease operationId accepted, rfl⟩
      | _ => cases outside

def State.ServiceReachable (config : ServiceConfig) (state : State) : Prop :=
  (Service.machine config).Reachable state.service

/-- The service of a target with its cluster runs as the service alone does. -/
theorem service_reachable {config : ServiceConfig} {state : State}
    (reached : (machine config).Reachable state) : state.ServiceReachable config := by
  refine reached.invariant ?_ ?_
  · rintro start ⟨⟩
    exact .start rfl
  · intro before action after _ inductionHypothesis _ stepped
    unfold State.ServiceReachable at inductionHypothesis ⊢
    rcases service_of_step stepped with same | ⟨own, moved⟩
    · rw [same]
      exact inductionHypothesis
    · exact inductionHypothesis.next own trivial moved

end Rollout
end ControlPlane
end DjangoOps
