import DjangoOps.ControlPlane.OperationsService
import DjangoOps.Gateway.Watch

namespace DjangoOps
namespace ControlPlane

open Protocol Gateway

/-!
# The task of one diagnostic operation

`OperationsService.start` and `cancel` run in web threads, `_consume` in the
event loop of the gateway, next to everything else that the gateway does.  One
action is the run of one of them from a point where it waits to the next.

A statement that `_consume` hands to `asyncio.to_thread` runs in a thread of
its own.  When the timeout interrupts the wait for it, the thread still runs
the statement, at any later time.
-/

namespace DiagnosticTask

/-- The operation: what `_consume` reads from its row, and the number of the
`gateway.cancel` call of its timeout handler. -/
structure Operation extends WatchedJob where
  releaseRoot : String
  handler : Nat

/-- A statement that `_consume` runs in a thread. -/
inductive PendingWrite
  | progress (phase message : String)
  | result (status : String) (checks : List DiagnosticCheck)
  | error (status : OperationStatus) (code : String)
  deriving DecidableEq

def PendingWrite.statement : PendingWrite -> OperationsService.Action
  | .progress phase message => .saveProgress phase message
  | .result status checks => .saveResult status checks
  | .error status code => .saveError status code

/-- What `_consume` saves for a frame. -/
def writeOf : AgentFrame -> Option PendingWrite
  | .progress event => some (.progress event.phase event.message)
  | .result event =>
      some (.result event.status
        ((event.checks.take maxChecks).map DiagnosticOperation.storedCheck))
  | _ => none

/-- What the exception handlers of `_consume` save. -/
def errorOf : PyException -> PendingWrite
  | .timeoutError => .error .timeout "DIAGNOSTIC_TIMEOUT"
  | .lookupError _ => .error .offline "AGENT_OFFLINE"
  | .runtimeError _ => .error .overloaded "OVERLOADED"
  | _ => .error .failed "DIAGNOSTIC_FAILED"

/-- Where `_consume` stands.  `iterating` waits for its generator, `saving` for
the statement of a frame, `unwinding` for the lock that the timed out generator
needs for its clean-up, `cancelling` for `gateway.cancel` in the handler of the
timeout, and `failing` for the statement of an exception handler. -/
inductive ConsumePhase
  | absent
  | iterating
  | saving (write : PendingWrite)
  | unwinding
  | cancelling
  | failing (write : PendingWrite)
  | finished
  deriving DecidableEq

/-- The gateway, the row with the web process that works on it, the cancellations that
have been issued, the task, and the write that a cancelled task has left behind in
its thread. -/
structure State where
  watch : Watch
  service : OperationsService.State
  issued : Nat -> Bool
  consumer : ConsumePhase
  orphan : Option PendingWrite

def State.initial : State :=
  { watch := .initial, service := .initial, issued := fun _ => false, consumer := .absent
    orphan := none }

/-- The surroundings and the parameters of all runs: one diagnostics operation under a
gateway, and the letter cases that the service uses. -/
structure Setting where
  config : GatewayConfig
  letters : OperationsService.Letters
  operation : Operation

namespace State

variable (setting : Setting) (state : State)

abbrev gateway : Gateway.State := state.watch.gateway

/-- The generator call of the operation. -/
def call : Call := state.gateway.calls setting.operation.call

/-- A step of the gateway. -/
def gatewayStep (action : Gateway.Action) : Option State :=
  (Watch.step setting.config setting.operation.toWatchedJob state.watch action).map fun watch =>
    { state with watch := watch }

/-- A statement or backend call of one of the writers. -/
def serviceStep (action : OperationsService.Action) : Option State :=
  (OperationsService.step setting.letters state.service action).map fun service =>
    { state with service := service }

/-- The action belongs to another task of the gateway. -/
def foreign : Gateway.Action -> Bool
  | .openDiagnostics call _ jobId _ =>
      decide (call ≠ setting.operation.call ∧ jobId ≠ setting.operation.jobId)
  | .openKubernetes call _ request =>
      decide (call ≠ setting.operation.call ∧ request.jobId ≠ setting.operation.jobId)
  | .dropUnsupported call => decide (call ≠ setting.operation.call)
  | .requestResume call => decide (call ≠ setting.operation.call)
  | .deliver call => decide (call ≠ setting.operation.call)
  | .advance call => decide (call ≠ setting.operation.call)
  | .abandon call => decide (call ≠ setting.operation.call)
  | .finalise call => decide (call ≠ setting.operation.call)
  | .cancel request jobId =>
      decide (jobId ≠ setting.operation.jobId ∧ request ≠ setting.operation.handler ∧
        state.service.cancels request = .idle)
  | .cancelResume request => decide (request ≠ setting.operation.handler)
  | .cancelAbandon request =>
      -- the callers of `gateway.cancel` for a diagnostic never cancel it
      setting.operation.allows state.gateway (.cancelAbandon request)
  | _ => true

/-- A step of any other task. -/
def surroundings (action : Gateway.Action) : Option State :=
  if state.foreign setting action then state.gatewayStep setting action else none

/-- `run_coroutine_threadsafe(gateway.cancel(...))` in `backend.cancel`. -/
def issueCancel (request : Nat) : Option State :=
  if state.service.cancels request = .refreshed ∧ state.issued request = false then
    some { state with issued := Function.update state.issued request true }
  else none

/-- The event loop starts that `gateway.cancel`. -/
def runCancel (request : Nat) : Option State :=
  if state.issued request then
    state.gatewayStep setting (.cancel request setting.operation.jobId)
  else none

/-- How `backend.cancel` can end: with the value of `gateway.cancel`, with a
timeout while it waits for that value, or without having issued it. -/
def answers (request : Nat) : OperationsService.CancelOutcome -> Bool
  | .accepted => decide (state.gateway.cancels request = .returned true)
  | .refused => decide (state.gateway.cancels request = .returned false)
  | .timeoutError => state.issued request
  | .runtimeError => !state.issued request
  | .raised => true

/-- A statement or backend call of `start` or `cancel`. -/
def web (action : OperationsService.Action) : Option State :=
  match action with
  | .setRunning => none
  | .saveProgress _ _ => none
  | .saveResult _ _ => none
  | .saveError _ _ => none
  | .askConnected true =>
      if setting.operation.agentId ∈ state.gateway.sessions then
        state.serviceStep setting (.askConnected true)
      else none
  | .refresh request =>
      if request ≠ setting.operation.handler ∧ state.gateway.cancels request = .idle then
        state.serviceStep setting (.refresh request)
      else none
  | .backendCancel request outcome =>
      if state.answers request outcome then
        state.serviceStep setting (.backendCancel request outcome)
      else none
  | other => state.serviceStep setting other

/-- `_consume` begins: it reads the row and executes `_set_running`. -/
def begin : Option State :=
  if state.consumer = .absent then
    (state.serviceStep setting .setRunning).map fun next => { next with consumer := .iterating }
  else none

/-- The generator of the loop starts. -/
def openJob : Option State :=
  if state.consumer = .iterating then
    (state.gatewayStep setting (.openDiagnostics setting.operation.call setting.operation.agentId
      setting.operation.jobId setting.operation.releaseRoot)).map fun next =>
        match (next.call setting).phase with
        | .refused error => { next with consumer := .failing (errorOf error) }
        | _ => next
  else none

/-- The generator goes on after its put of the request. -/
def requestResume : Option State :=
  if state.consumer = .iterating then
    state.gatewayStep setting (.requestResume setting.operation.call)
  else none

/-- The generator yields a frame. -/
def deliver : Option State :=
  if state.consumer = .iterating then
    (state.gatewayStep setting (.deliver setting.operation.call)).map fun next =>
      match (next.call setting).phase with
      | .delivered delivery =>
          match writeOf delivery.frame with
          | some write => { next with consumer := .saving write }
          | none => next
      | _ => next
  else none

/-- The loop asks for the next frame. -/
def advance : Option State :=
  if state.consumer = .iterating then
    state.gatewayStep setting (.advance setting.operation.call)
  else none

/-- The statement that `_consume` waits for has been executed. -/
def saved : Option State :=
  match state.consumer with
  | .saving write =>
      (state.serviceStep setting write.statement).map fun next =>
        { next with consumer := .iterating }
  | .failing write =>
      (state.serviceStep setting write.statement).map fun next =>
        { next with consumer := .finished }
  | _ => none

/-- A statement whose waiting was interrupted is executed. -/
def orphanSaved : Option State :=
  match state.orphan with
  | some write =>
      (state.serviceStep setting write.statement).map fun next => { next with orphan := none }
  | none => none

/-- `await gateway.cancel(...)` in the handler of the timeout. -/
def handleTimeout : Option State :=
  (state.gatewayStep setting (.cancel setting.operation.handler setting.operation.jobId)).map
    fun next =>
      match next.gateway.cancels setting.operation.handler with
      | .waiting _ => { next with consumer := .cancelling }
      | _ => { next with consumer := .failing (errorOf .timeoutError) }

/-- The timeout interrupts `_consume`.  At a frame's statement the generator is
suspended at its `yield` and stays so; at every other point the cancellation is
thrown into the generator, which leaves before the handler runs. -/
def timeout : Option State :=
  match state.consumer, (state.call setting).phase with
  | .saving write, _ => { state with orphan := some write }.handleTimeout setting
  | .iterating, .idle => state.handleTimeout setting
  | .iterating, .requesting _ =>
      (state.gatewayStep setting (.abandon setting.operation.call)).bind
        (handleTimeout setting)
  | .iterating, .closing _ =>
      (state.gatewayStep setting (.abandon setting.operation.call)).bind
        (handleTimeout setting)
  | .iterating, .receiving =>
      (state.gatewayStep setting (.abandon setting.operation.call)).bind fun closing =>
        if closing.gateway.lock = none then
          (closing.gatewayStep setting (.finalise setting.operation.call)).bind
            (handleTimeout setting)
        else some { closing with consumer := .unwinding }
  | _, _ => none

/-- The `finally` clause of `_events`: behind the last frame, for the timeout,
or in the task that closes a generator which the timeout left at its `yield`. -/
def finalise : Option State :=
  (state.gatewayStep setting (.finalise setting.operation.call)).bind fun next =>
    match next.consumer with
    | .iterating => some { next with consumer := .finished }
    | .unwinding => next.handleTimeout setting
    | _ => some next

/-- The event loop closes the generator that the timeout left at its `yield`. -/
def collect : Option State :=
  match state.consumer, (state.call setting).phase with
  | .cancelling, .delivered _ => state.gatewayStep setting (.abandon setting.operation.call)
  | .failing _, .delivered _ => state.gatewayStep setting (.abandon setting.operation.call)
  | .finished, .delivered _ => state.gatewayStep setting (.abandon setting.operation.call)
  | _, _ => none

/-- The cancellation of the handler gets room. -/
def handlerResume : Option State :=
  if state.consumer = .cancelling then
    (state.gatewayStep setting (.cancelResume setting.operation.handler)).map fun next =>
      { next with consumer := .failing (errorOf .timeoutError) }
  else none

end State

/-- A step of the gateway or of the web process, or of the task that consumes the job of
one operation, with what its time-out and its handlers do. -/
inductive Action
  | surroundings (action : Gateway.Action)
  | web (action : OperationsService.Action)
  | issueCancel (request : Nat)
  | runCancel (request : Nat)
  | begin
  | openJob
  | requestResume
  | deliver
  | advance
  | saved
  | orphanSaved
  | timeout
  | finalise
  | collect
  | handlerResume
  deriving DecidableEq

def step (setting : Setting) (state : State) : Action -> Option State
  | .surroundings action => state.surroundings setting action
  | .web action => state.web setting action
  | .issueCancel request => state.issueCancel request
  | .runCancel request => state.runCancel setting request
  | .begin => state.begin setting
  | .openJob => state.openJob setting
  | .requestResume => state.requestResume setting
  | .deliver => state.deliver setting
  | .advance => state.advance setting
  | .saved => state.saved setting
  | .orphanSaved => state.orphanSaved setting
  | .timeout => state.timeout setting
  | .finalise => state.finalise setting
  | .collect => state.collect setting
  | .handlerResume => state.handlerResume setting

def machine (setting : Setting) : Transition.Machine State Action where
  initial := fun state => state = .initial
  step := step setting

/-! ## The two sides of a step -/

/-- A step of the gateway that leaves the names of the operation to it, and
opens its job only when `opening` says so. -/
def WatchStep (setting : Setting) (opening : Prop) (before after : Watch) : Prop :=
  Exists fun action : Gateway.Action =>
    setting.operation.allows before.gateway action = true ∧
      (forall call agentId, action.opens? = some (call, agentId, setting.operation.jobId) ->
        opening) ∧
      Watch.step setting.config setting.operation.toWatchedJob before action = some after

abbrev WatchRun (setting : Setting) (opening : Prop) : Watch -> Watch -> Prop :=
  Relation.ReflTransGen (WatchStep setting opening)

/-- The statement or backend call of a step. -/
def State.statement? (state : State) : Action -> Option OperationsService.Action
  | .web action => some action
  | .begin => some .setRunning
  | .saved =>
      match state.consumer with
      | .saving write => some write.statement
      | .failing write => some write.statement
      | _ => none
  | .orphanSaved => state.orphan.map PendingWrite.statement
  | _ => none

section Sides

variable {setting : Setting} {before after : State} {action : Action}

theorem gatewayStep_side {gatewayAction : Gateway.Action}
    (stepped : before.gatewayStep setting gatewayAction = some after) :
    Watch.step setting.config setting.operation.toWatchedJob before.watch gatewayAction =
        some after.watch ∧
      after = { before with watch := after.watch } := by
  rcases Option.map_eq_some_iff.mp stepped with ⟨watch, moved, rfl⟩
  exact ⟨moved, rfl⟩

theorem serviceStep_side {statement : OperationsService.Action}
    (stepped : before.serviceStep setting statement = some after) :
    OperationsService.step setting.letters before.service statement = some after.service ∧
      after = { before with service := after.service } := by
  rcases Option.map_eq_some_iff.mp stepped with ⟨service, moved, rfl⟩
  exact ⟨moved, rfl⟩

/-- The own steps of the operation open no job. -/
theorem WatchRun.own {gatewayAction : Gateway.Action}
    (allowed : setting.operation.allows before.gateway gatewayAction = true)
    (silent : gatewayAction.opens? = none) {opening : Prop}
    (stepped : before.gatewayStep setting gatewayAction = some after) :
    WatchRun setting opening before.watch after.watch := by
  refine .single ⟨gatewayAction, allowed, fun call agentId opens => ?_, (gatewayStep_side stepped).1⟩
  rw [silent] at opens
  cases opens

theorem handleTimeout_side (opening : Prop) (stepped : before.handleTimeout setting = some after) :
    WatchRun setting opening before.watch after.watch ∧ after.service = before.service := by
  rcases Option.map_eq_some_iff.mp stepped with ⟨next, moved, result⟩
  have run : WatchRun setting opening before.watch next.watch := WatchRun.own rfl rfl moved
  have side := (gatewayStep_side moved).2
  have service : next.service = before.service := by rw [side]
  split at result <;> cases result <;> exact ⟨run, service⟩

theorem foreign_allows {gatewayAction : Gateway.Action}
    (other : before.foreign setting gatewayAction = true) :
    setting.operation.allows before.gateway gatewayAction = true ∧
      forall call agentId,
        gatewayAction.opens? ≠ some (call, agentId, setting.operation.jobId) := by
  cases gatewayAction with
  | openDiagnostics call agentId jobId releaseRoot =>
      have distinct := of_decide_eq_true other
      refine ⟨Bool.or_eq_true_iff.mpr (.inr (decide_eq_true distinct)), ?_⟩
      intro _ _ opens
      cases opens
      exact distinct.2 rfl
  | openKubernetes call agentId request =>
      have distinct := of_decide_eq_true other
      refine ⟨decide_eq_true distinct, fun _ _ opens => distinct.2 ?_⟩
      exact congrArg (fun opened : Nat × String × String => opened.2.2) (Option.some.inj opens)
  | cancelAbandon request => exact ⟨other, nofun⟩
  | _ => exact ⟨rfl, nofun⟩

theorem timeout_side (opening : Prop) (stepped : before.timeout setting = some after) :
    WatchRun setting opening before.watch after.watch ∧ after.service = before.service := by
  have abandoned : forall {next : State},
      before.gatewayStep setting (.abandon setting.operation.call) = some next ->
      WatchRun setting opening before.watch next.watch ∧ next.service = before.service := by
    intro next moved
    refine ⟨WatchRun.own rfl rfl moved, ?_⟩
    rw [(gatewayStep_side moved).2]
  unfold State.timeout at stepped
  split at stepped
  · have side := handleTimeout_side opening stepped
    exact side
  · exact handleTimeout_side opening stepped
  · rcases Option.bind_eq_some_iff.mp stepped with ⟨next, moved, rest⟩
    exact ⟨(abandoned moved).1.trans (handleTimeout_side _ rest).1,
      (handleTimeout_side opening rest).2.trans (abandoned moved).2⟩
  · rcases Option.bind_eq_some_iff.mp stepped with ⟨next, moved, rest⟩
    exact ⟨(abandoned moved).1.trans (handleTimeout_side _ rest).1,
      (handleTimeout_side opening rest).2.trans (abandoned moved).2⟩
  · rcases Option.bind_eq_some_iff.mp stepped with ⟨next, moved, rest⟩
    rcases abandoned moved with ⟨run, service⟩
    split at rest
    · rcases Option.bind_eq_some_iff.mp rest with ⟨freed, finalised, handled⟩
      have freeing : WatchRun setting opening next.watch freed.watch :=
        WatchRun.own rfl rfl finalised
      rcases handleTimeout_side opening handled with ⟨further, same⟩
      refine ⟨run.trans (freeing.trans further), same.trans ?_⟩
      rw [(gatewayStep_side finalised).2]
      exact service
    · cases rest
      exact ⟨run, service⟩
  · cases stepped

/-- The gateway makes steps of its own in every step of the operation. -/
theorem watch_of_step (stepped : step setting before action = some after) :
    WatchRun setting (action = .openJob) before.watch after.watch := by
  cases action <;> simp only [step] at stepped
  case surroundings gatewayAction =>
    unfold State.surroundings at stepped
    split at stepped
    · rename_i other
      rcases foreign_allows other with ⟨allowed, silent⟩
      exact .single ⟨gatewayAction, allowed, fun call agentId opens => absurd opens (silent _ _),
        (gatewayStep_side stepped).1⟩
    · cases stepped
  case web statement =>
    have same : forall {given : OperationsService.Action},
        before.serviceStep setting given = some after -> after.watch = before.watch := by
      intro given moved
      rw [(serviceStep_side moved).2]
    have kept : after.watch = before.watch := by
      unfold State.web at stepped
      split at stepped
      · cases stepped
      · cases stepped
      · cases stepped
      · cases stepped
      · split at stepped
        · exact same stepped
        · cases stepped
      · split at stepped
        · exact same stepped
        · cases stepped
      · split at stepped
        · exact same stepped
        · cases stepped
      · exact same stepped
    rw [kept]
  case issueCancel =>
    unfold State.issueCancel at stepped
    split at stepped <;> cases stepped
    exact .refl
  case runCancel =>
    unfold State.runCancel at stepped
    split at stepped
    · exact WatchRun.own rfl rfl stepped
    · cases stepped
  case begin =>
    unfold State.begin at stepped
    split at stepped
    · rcases Option.map_eq_some_iff.mp stepped with ⟨next, moved, result⟩
      cases result
      rw [show next.watch = before.watch by rw [(serviceStep_side moved).2]]
    · cases stepped
  case openJob =>
    unfold State.openJob at stepped
    split at stepped
    · rcases Option.map_eq_some_iff.mp stepped with ⟨next, moved, result⟩
      have run : WatchRun setting (Action.openJob = Action.openJob) before.watch next.watch := by
        refine .single ⟨_, ?_, fun _ _ _ => rfl, (gatewayStep_side moved).1⟩
        exact Bool.or_eq_true_iff.mpr (.inl (decide_eq_true ⟨rfl, rfl, rfl⟩))
      split at result <;> cases result <;> exact run
    · cases stepped
  case requestResume =>
    unfold State.requestResume at stepped
    split at stepped
    · exact WatchRun.own rfl rfl stepped
    · cases stepped
  case deliver =>
    unfold State.deliver at stepped
    split at stepped
    · rcases Option.map_eq_some_iff.mp stepped with ⟨next, moved, result⟩
      have run : WatchRun setting (Action.deliver = .openJob) before.watch next.watch :=
        WatchRun.own rfl rfl moved
      split at result
      · split at result <;> cases result <;> exact run
      · cases result
        exact run
    · cases stepped
  case advance =>
    unfold State.advance at stepped
    split at stepped
    · exact WatchRun.own rfl rfl stepped
    · cases stepped
  case saved =>
    unfold State.saved at stepped
    split at stepped
    · rcases Option.map_eq_some_iff.mp stepped with ⟨next, moved, result⟩
      cases result
      rw [show next.watch = before.watch by rw [(serviceStep_side moved).2]]
    · rcases Option.map_eq_some_iff.mp stepped with ⟨next, moved, result⟩
      cases result
      rw [show next.watch = before.watch by rw [(serviceStep_side moved).2]]
    · cases stepped
  case orphanSaved =>
    unfold State.orphanSaved at stepped
    split at stepped
    · rcases Option.map_eq_some_iff.mp stepped with ⟨next, moved, result⟩
      cases result
      rw [show next.watch = before.watch by rw [(serviceStep_side moved).2]]
    · cases stepped
  case timeout => exact (timeout_side _ stepped).1
  case finalise =>
    unfold State.finalise at stepped
    rcases Option.bind_eq_some_iff.mp stepped with ⟨next, moved, rest⟩
    have run : WatchRun setting (Action.finalise = .openJob) before.watch next.watch :=
      WatchRun.own rfl rfl moved
    split at rest
    · cases rest
      exact run
    · exact run.trans (handleTimeout_side _ rest).1
    · cases rest
      exact run
  case collect =>
    unfold State.collect at stepped
    split at stepped
    · exact WatchRun.own rfl rfl stepped
    · exact WatchRun.own rfl rfl stepped
    · exact WatchRun.own rfl rfl stepped
    · cases stepped
  case handlerResume =>
    unfold State.handlerResume at stepped
    split at stepped
    · rcases Option.map_eq_some_iff.mp stepped with ⟨next, moved, result⟩
      cases result
      have run : WatchRun setting (Action.handlerResume = .openJob) before.watch next.watch :=
        WatchRun.own rfl rfl moved
      exact run
    · cases stepped

/-- The row and its writers make the statement of the step, if it has one. -/
theorem service_of_step (stepped : step setting before action = some after) :
    (forall statement, before.statement? action = some statement ->
        OperationsService.step setting.letters before.service statement = some after.service) ∧
      (before.statement? action = none -> after.service = before.service) := by
  have quiet : forall {gatewayAction : Gateway.Action} {next : State},
      before.gatewayStep setting gatewayAction = some next -> next.service = before.service := by
    intro gatewayAction next moved
    rw [(gatewayStep_side moved).2]
  have still : after.service = before.service -> before.statement? action = none ->
      (forall statement, before.statement? action = some statement ->
        OperationsService.step setting.letters before.service statement = some after.service) ∧
      (before.statement? action = none -> after.service = before.service) := by
    intro same silent
    refine ⟨fun statement given => ?_, fun _ => same⟩
    rw [silent] at given
    cases given
  have made : forall {statement : OperationsService.Action} {next : State},
      before.serviceStep setting statement = some next -> next.service = after.service ->
      before.statement? action = some statement ->
      (forall statement, before.statement? action = some statement ->
        OperationsService.step setting.letters before.service statement = some after.service) ∧
      (before.statement? action = none -> after.service = before.service) := by
    intro statement next moved same given
    rw [given]
    refine ⟨?_, nofun⟩
    rintro _ ⟨⟩
    exact same ▸ (serviceStep_side moved).1
  cases action <;> simp only [step] at stepped
  case surroundings =>
    unfold State.surroundings at stepped
    split at stepped
    · exact still (quiet stepped) rfl
    · cases stepped
  case web statement =>
    unfold State.web at stepped
    split at stepped
    · cases stepped
    · cases stepped
    · cases stepped
    · cases stepped
    · split at stepped
      · exact made stepped rfl rfl
      · cases stepped
    · split at stepped
      · exact made stepped rfl rfl
      · cases stepped
    · split at stepped
      · exact made stepped rfl rfl
      · cases stepped
    · exact made stepped rfl rfl
  case issueCancel =>
    unfold State.issueCancel at stepped
    split at stepped <;> cases stepped
    exact still rfl rfl
  case runCancel =>
    unfold State.runCancel at stepped
    split at stepped
    · exact still (quiet stepped) rfl
    · cases stepped
  case begin =>
    unfold State.begin at stepped
    split at stepped
    · rcases Option.map_eq_some_iff.mp stepped with ⟨next, moved, result⟩
      cases result
      exact made moved rfl rfl
    · cases stepped
  case openJob =>
    unfold State.openJob at stepped
    split at stepped
    · rcases Option.map_eq_some_iff.mp stepped with ⟨next, moved, result⟩
      have same := quiet moved
      split at result <;> cases result <;> exact still same rfl
    · cases stepped
  case requestResume =>
    unfold State.requestResume at stepped
    split at stepped
    · exact still (quiet stepped) rfl
    · cases stepped
  case deliver =>
    unfold State.deliver at stepped
    split at stepped
    · rcases Option.map_eq_some_iff.mp stepped with ⟨next, moved, result⟩
      have same := quiet moved
      split at result
      · split at result <;> cases result <;> exact still same rfl
      · cases result
        exact still same rfl
    · cases stepped
  case advance =>
    unfold State.advance at stepped
    split at stepped
    · exact still (quiet stepped) rfl
    · cases stepped
  case saved =>
    unfold State.saved at stepped
    split at stepped
    · rename_i write consumer
      rcases Option.map_eq_some_iff.mp stepped with ⟨next, moved, result⟩
      cases result
      exact made moved rfl (by simp only [State.statement?, consumer])
    · rename_i write consumer
      rcases Option.map_eq_some_iff.mp stepped with ⟨next, moved, result⟩
      cases result
      exact made moved rfl (by simp only [State.statement?, consumer])
    · cases stepped
  case orphanSaved =>
    unfold State.orphanSaved at stepped
    split at stepped
    · rename_i write orphan
      rcases Option.map_eq_some_iff.mp stepped with ⟨next, moved, result⟩
      cases result
      exact made moved rfl (by simp only [State.statement?, orphan, Option.map_some])
    · cases stepped
  case timeout => exact still (timeout_side True stepped).2 rfl
  case finalise =>
    unfold State.finalise at stepped
    rcases Option.bind_eq_some_iff.mp stepped with ⟨next, moved, rest⟩
    have same := quiet moved
    split at rest
    · cases rest
      exact still same rfl
    · exact still ((handleTimeout_side True rest).2.trans same) rfl
    · cases rest
      exact still same rfl
  case collect =>
    unfold State.collect at stepped
    split at stepped
    · exact still (quiet stepped) rfl
    · exact still (quiet stepped) rfl
    · exact still (quiet stepped) rfl
    · cases stepped
  case handlerResume =>
    unfold State.handlerResume at stepped
    split at stepped
    · rcases Option.map_eq_some_iff.mp stepped with ⟨next, moved, result⟩
      cases result
      have same := quiet moved
      exact still same rfl
    · cases stepped

theorem sound_of_run {opening : Prop} {first last : Watch}
    (sound : first.Sound setting.operation.toWatchedJob setting.config)
    (run : WatchRun setting opening first last) :
    last.Sound setting.operation.toWatchedJob setting.config := by
  induction run with
  | refl => exact sound
  | tail _ step inductionHypothesis =>
      rcases step with ⟨_, allowed, _, moved⟩
      exact inductionHypothesis.step allowed moved

/-- The memory beside the gateway is right. -/
def State.Sound (setting : Setting) (state : State) : Prop :=
  state.watch.Sound setting.operation.toWatchedJob setting.config

theorem sound_of_reachable {guard : State -> Action -> Prop}
    (reached : (machine setting).ReachableUnder guard before) : before.Sound setting := by
  refine reached.invariant ?_ ?_
  · rintro start ⟨⟩
    exact .initial _ _
  · intro source action target _ sound _ stepped
    exact sound_of_run sound (watch_of_step stepped)

end Sides

/-! ## One operation of a connected agent -/

def Setting.sample : Setting where
  config := .pair
  letters := .simple
  operation :=
    { agentId := "alpha", jobId := "job-1", call := 0, releaseRoot := "releases/web", handler := 9 }

/-- The agent connects and the row is created. -/
def created : List Action :=
  [.surroundings (.connect 0), .surroundings (.firstFrame 0 (some (helloOf "alpha" "alpha-token"))),
    .surroundings (.register 0), .web .create, .web (.askConnected true)]

/-- `_consume` is scheduled and opens the job. -/
def dispatched : List Action := [.web (.backendStart .scheduled), .begin, .openJob]

end DiagnosticTask
end ControlPlane
end DjangoOps
