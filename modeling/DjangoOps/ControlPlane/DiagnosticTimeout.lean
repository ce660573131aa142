import DjangoOps.ControlPlane.DiagnosticTask

namespace DjangoOps
namespace ControlPlane

open Protocol Gateway

/-!
# The timeout of a diagnostic operation

The timeout is thrown into whatever `_consume` waits for.  A generator that
waits for a frame takes its job out of `_jobs` before the handler asks the
gateway to cancel it, so the handler cancels nothing.  At every other point the
job is still registered when the handler runs.
-/

namespace DiagnosticTask

variable {setting : Setting}

/-- The timeout does not strike while the generator waits for a frame of a job
that nobody has cancelled, nor while a cancellation of the job waits for room. -/
def CancelsInTime (setting : Setting) (state : State) (action : Action) : Prop :=
  action = .timeout ->
    ((state.call setting).phase = .receiving ->
      (state.call setting).job.cancelSent = true) ∧
    state.watch.cancelWaits setting.operation.toWatchedJob = false

instance (state : State) (action : Action) : Decidable (CancelsInTime setting state action) :=
  inferInstanceAs (Decidable (_ -> _))

/-! ## The session of the job and its cancel frame -/

def State.CancelReached (setting : Setting) (state : State) : Prop :=
  state.watch.CancelReached setting.operation.toWatchedJob

def State.Awaits (setting : Setting) (state : State) : Prop :=
  state.watch.Awaits setting.operation.toWatchedJob setting.operation.handler

/-- A job that was never opened has no session. -/
theorem reached_of_idle {state : State} (sound : state.Sound setting)
    (idle : (state.call setting).phase = .idle) : state.CancelReached setting :=
  fun stream opened => absurd idle (sound.opened stream opened).1

section Runs

variable {opening : Prop} {first last : Watch}

theorem stream_of_watchStep (closed : ¬ opening)
    (sound : first.Sound setting.operation.toWatchedJob setting.config)
    (step : WatchStep setting opening first last) : last.stream = first.stream := by
  rcases step with ⟨action, allowed, permitted, moved⟩
  exact sound.stream_of_silent allowed (fun opens => closed (permitted _ _ opens)) moved

theorem reached_of_run (closed : ¬ opening)
    (sound : first.Sound setting.operation.toWatchedJob setting.config)
    (requested : first.CancelReached setting.operation.toWatchedJob)
    (run : WatchRun setting opening first last) :
    last.CancelReached setting.operation.toWatchedJob := by
  induction run with
  | refl => exact requested
  | tail earlier step inductionHypothesis =>
      have known := sound_of_run sound earlier
      have same := stream_of_watchStep closed known step
      rcases step with ⟨_, _, _, moved⟩
      exact inductionHypothesis.step known moved same

theorem awaits_of_run (closed : ¬ opening)
    (sound : first.Sound setting.operation.toWatchedJob setting.config) {request : Nat}
    (awaits : first.Awaits setting.operation.toWatchedJob request)
    (run : WatchRun setting opening first last) :
    last.Awaits setting.operation.toWatchedJob request := by
  induction run with
  | refl => exact awaits
  | tail earlier step inductionHypothesis =>
      have known := sound_of_run sound earlier
      have same := stream_of_watchStep closed known step
      rcases step with ⟨_, allowed, _, moved⟩
      exact inductionHypothesis.step known allowed moved same

end Runs

/-! ## Steps of the generator -/

section Generator

variable {config : GatewayConfig} {before after : Gateway.State} {action : Gateway.Action}
  {call : Nat}

/-- A generator that is suspended at its `yield` is moved by its consumer only. -/
theorem delivered_of_step (stepped : Gateway.step config before action = some after)
    {delivery : Delivery} (phase : (before.calls call).phase = .delivered delivery)
    (still : action ≠ .advance call) (kept : action ≠ .abandon call) :
    (after.calls call).phase = .delivered delivery := by
  have move := step_call_move stepped call
  generalize after.calls call = record at move ⊢
  cases move with
  | refused _ _ _ early =>
      rw [phase] at early
      rcases early with early | early <;> cases early
  | opened _ _ _ _ _ _ idle =>
      rw [phase] at idle
      cases idle
  | requested _ early =>
      rw [phase] at early
      cases early
  | delivered _ _ early =>
      rw [phase] at early
      cases early
  | advanced => exact absurd rfl still
  | abandoned => exact absurd rfl kept
  | finished _ early =>
      rw [phase] at early
      cases early
  | _ => exact phase

/-- An abandoned generator still holds its job. -/
theorem holding_of_abandon (stepped : Gateway.step config before (.abandon call) = some after) :
    (after.calls call).phase.holding = true := by
  have goesOn := phase_of_abandon stepped
  generalize (after.calls call).phase = phase at goesOn ⊢
  cases early : (before.calls call).phase <;> rw [early] at goesOn <;>
    first | (cases goesOn; done) | (cases goesOn; rfl)

/-- A cancellation that got room waits no longer. -/
theorem returned_of_cancelResume {request : Nat}
    (stepped : Gateway.step config before (.cancelResume request) = some after) (stream : Nat) :
    after.cancels request ≠ .waiting stream := by
  simp only [Gateway.step, State.cancelResume] at stepped
  split at stepped
  · rcases Option.map_eq_some_iff.mp stepped with ⟨queue, _, result⟩
    cases result
    rw [State.setCancel]
    change Function.update _ _ _ _ ≠ _
    rw [Function.update_self]
    simp
  · cases stepped

theorem sessions_of_abandon (stepped : Gateway.step config before (.abandon call) = some after) :
    after.sessions = before.sessions := by
  have move := step_dict_move stepped
  generalize after.sessions = sessions at move ⊢
  generalize after.jobs = jobs at move
  cases move with
  | _ => rfl

end Generator

/-- No cancellation of the job waits on the session of its agent. -/
theorem alone_iff {job : WatchedJob} {watch : Watch} :
    watch.cancelWaits job = false <->
      forall stream, watch.gateway.sessions.lookup job.agentId = some stream ->
        forall request, (.canceller request, some (.cancel job.jobId)) ∉
          (watch.gateway.outgoing stream).putters := by
  unfold Watch.cancelWaits
  cases watch.gateway.sessions.lookup job.agentId with
  | none => exact ⟨by simp, fun _ => rfl⟩
  | some stream =>
      dsimp only
      constructor
      · rintro quiet _ ⟨⟩ request listed
        have silent := List.any_eq_false.mp quiet _ listed
        simp only [decide_true, not_true_eq_false] at silent
      · intro quiet
        refine List.any_eq_false.mpr fun entry listed cancels => ?_
        rcases entry with ⟨task, frame⟩
        cases task with
        | canceller request =>
            have same : frame = some (.cancel job.jobId) := of_decide_eq_true cancels
            rw [same] at listed
            exact quiet stream rfl request listed
        | _ => cases cancels

section Abandon

variable {before after : State}

theorem alone_of_abandon
    (alone : before.watch.cancelWaits setting.operation.toWatchedJob = false)
    (stepped : before.gatewayStep setting (.abandon setting.operation.call) = some after) :
    after.watch.cancelWaits setting.operation.toWatchedJob = false := by
  rcases Option.map_eq_some_iff.mp stepped with ⟨watch, moved, rfl⟩
  rcases Option.map_eq_some_iff.mp moved with ⟨gateway, step, rfl⟩
  refine alone_iff.mpr fun stream found request listed => ?_
  change gateway.sessions.lookup _ = _ at found
  rw [sessions_of_abandon step] at found
  rcases canceller_of_step step listed with earlier | ⟨_, impossible, _⟩
  · exact alone_iff.mp alone stream found request earlier
  · cases impossible

/-- What the handler of the timeout has achieved when it stops. -/
def Handled (setting : Setting) (state : State) : Prop :=
  (state.consumer = .cancelling ∧ state.Awaits setting) ∨
    (state.consumer = .failing (errorOf .timeoutError) ∧ state.CancelReached setting)

/-- The handler finds the job registered, or its cancel frame already put. -/
theorem handled_of_handleTimeout (sound : before.Sound setting)
    (ready : ((before.call setting).phase.holding = true ∧
        before.watch.cancelWaits setting.operation.toWatchedJob = false) ∨
      before.CancelReached setting)
    (stepped : before.handleTimeout setting = some after) : Handled setting after := by
  rcases Option.map_eq_some_iff.mp stepped with ⟨next, moved, result⟩
  have side := (gatewayStep_side moved).1
  have known : next.Sound setting := sound.step rfl side
  have awaits : next.Awaits setting := by
    rcases ready with ⟨holding, alone⟩ | requested
    · exact sound.awaits_of_cancel holding alone side
    · have same : next.watch.stream = before.watch.stream := by
        refine sound.stream_of_silent rfl ?_ side
        simp [Action.opens?]
      have kept := requested.step sound side same
      exact fun stream opened connected => .inl (kept stream opened connected)
  split at result
  · cases result
    exact .inl ⟨rfl, awaits⟩
  · rename_i done
    cases result
    exact .inr ⟨rfl, awaits.reached known done⟩

end Abandon

/-! ## The invariant -/

/-- The statement records the timeout. -/
def PendingWrite.timesOut : PendingWrite -> Bool
  | .error .timeout _ => true
  | _ => false

theorem timesOut_of_writeOf {frame : AgentFrame} {write : PendingWrite}
    (made : writeOf frame = some write) : write.timesOut = false := by
  cases frame <;> cases made <;> rfl

/-- Neither `start` nor `cancel` is about to record a timeout. -/
structure Untimed (service : OperationsService.State) : Prop where
  start : forall status errorCode, service.start = .saving status errorCode -> status ≠ .timeout
  cancels : forall request status errorCode,
    service.cancels request = .updating status errorCode -> status ≠ .timeout

/-- Where the run stands when the timeout has been recorded or is going to be. -/
structure Timed (setting : Setting) (state : State) : Prop where
  saving : forall write, state.consumer = .saving write -> write.timesOut = false ∧
    Exists fun delivery : Delivery => (state.call setting).phase = .delivered delivery
  orphan : forall write, state.orphan = some write -> write.timesOut = false
  unwinding : state.consumer = .unwinding -> state.CancelReached setting
  cancelling : state.consumer = .cancelling -> state.Awaits setting
  failing : forall write, state.consumer = .failing write -> write.timesOut = true ->
    state.CancelReached setting
  verdicts : Untimed state.service
  row : forall row, state.service.row = some row -> row.status = .timeout ->
    state.consumer = .finished ∧ state.CancelReached setting

theorem Timed.initial (setting : Setting) : Timed setting .initial where
  saving := fun _ impossible => nomatch impossible
  orphan := fun _ impossible => nomatch impossible
  unwinding := fun impossible => nomatch impossible
  cancelling := fun impossible => nomatch impossible
  failing := fun _ impossible => nomatch impossible
  verdicts := ⟨nofun, nofun⟩
  row := fun _ impossible => nomatch impossible

section Statements

variable {letters : OperationsService.Letters} {before after : OperationsService.State}
  {action : OperationsService.Action}

theorem untimed_setCancel {state : OperationsService.State} (untimed : Untimed state)
    (request : Nat) (phase : OperationsService.CancelPhase)
    (timely : forall status errorCode, phase = .updating status errorCode -> status ≠ .timeout) :
    Untimed (state.setCancel request phase) := by
  refine ⟨untimed.start, fun other status errorCode updating => ?_⟩
  by_cases same : other = request
  · subst same
    exact timely status errorCode ((Function.update_self _ _ _).symm.trans updating)
  · exact untimed.cancels other status errorCode
      ((Function.update_of_ne same _ _).symm.trans updating)

theorem verdict_timely {outcome : OperationsService.CancelOutcome}
    {verdict : OperationStatus × String} (given : outcome.verdict = some verdict) :
    verdict.1 ≠ .timeout := by
  cases outcome <;> cases given <;> simp

theorem startVerdict_timely (lower : OperationsService.Lowercase) (message : String) :
    (OperationsService.startVerdict lower message).1 ≠ .timeout := by
  unfold OperationsService.startVerdict
  split <;> simp

/-- No statement makes a web thread record a timeout. -/
theorem Untimed.step (untimed : Untimed before)
    (stepped : OperationsService.step letters before action = some after) : Untimed after := by
  cases action <;> simp only [OperationsService.step] at stepped
  case create =>
    unfold OperationsService.State.create at stepped
    split at stepped <;> cases stepped
    exact ⟨by simp, untimed.cancels⟩
  case askConnected connected =>
    unfold OperationsService.State.askConnected at stepped
    split at stepped <;> cases stepped
    refine ⟨fun status errorCode saving => ?_, untimed.cancels⟩
    cases connected <;> cases saving
    simp
  case backendStart outcome =>
    unfold OperationsService.State.backendStart at stepped
    split at stepped
    · cases outcome <;> cases stepped
      · exact ⟨by simp, untimed.cancels⟩
      · refine ⟨fun status errorCode saving => ?_, untimed.cancels⟩
        cases saving
        exact startVerdict_timely letters.lower _
      · exact ⟨by simp, untimed.cancels⟩
    · cases stepped
  case save =>
    unfold OperationsService.State.save at stepped
    split at stepped <;> cases stepped
    exact ⟨by simp, untimed.cancels⟩
  case refresh request =>
    unfold OperationsService.State.refresh at stepped
    split at stepped
    · cases stepped
    · split at stepped <;> cases stepped
      refine untimed_setCancel untimed request _ fun status errorCode updating => ?_
      split at updating <;> cases updating
  case backendCancel request outcome =>
    unfold OperationsService.State.backendCancel at stepped
    split at stepped
    · split at stepped <;> cases stepped
      · rename_i verdict given
        refine untimed_setCancel untimed request _ ?_
        rintro _ _ ⟨⟩
        exact verdict_timely given
      · exact untimed_setCancel untimed request _ (by simp)
    · cases stepped
  case updateCancelled request =>
    unfold OperationsService.State.updateCancelled at stepped
    split at stepped <;> cases stepped
    rename_i status errorCode _
    have written : Untimed { before with
        row := before.row.map fun row : DiagnosticOperation => row.saveError status errorCode } :=
      ⟨untimed.start, untimed.cancels⟩
    exact untimed_setCancel written request .returned (by simp)
  all_goals
    unfold OperationsService.State.consumerWrite at stepped
    split at stepped <;> cases stepped
    exact ⟨untimed.start, untimed.cancels⟩

/-- A statement records a timeout when it is the one of the handler, and keeps
one that was recorded. -/
theorem timeout_of_statement (untimed : Untimed before)
    (stepped : OperationsService.step letters before action = some after)
    {row : DiagnosticOperation} (present : after.row = some row) (timedOut : row.status = .timeout) :
    (Exists fun earlier : DiagnosticOperation =>
        before.row = some earlier ∧ earlier.status = .timeout) ∨
      Exists fun code : String => action = .saveError .timeout code := by
  have kept : before.row = some row -> Exists fun earlier : DiagnosticOperation =>
      before.row = some earlier ∧ earlier.status = .timeout := fun same => ⟨row, same, timedOut⟩
  have written : forall {write : DiagnosticOperation -> DiagnosticOperation},
      before.row.map write = some row ->
      (forall earlier, (write earlier).status = .timeout -> earlier.status = .timeout) ->
      Exists fun earlier : DiagnosticOperation =>
        before.row = some earlier ∧ earlier.status = .timeout := by
    intro write mapped untouched
    rcases Option.map_eq_some_iff.mp mapped with ⟨earlier, same, result⟩
    exact ⟨earlier, same, untouched earlier (result ▸ timedOut)⟩
  have updated : forall {change : DiagnosticOperation -> DiagnosticOperation},
      (forall earlier, (change earlier).status = .timeout -> earlier.status = .timeout) ->
      forall earlier : DiagnosticOperation, (earlier.updateActive change).status = .timeout ->
        earlier.status = .timeout := by
    intro change untouched earlier result
    unfold DiagnosticOperation.updateActive at result
    split at result
    · exact untouched earlier result
    · exact result
  cases action <;> simp only [OperationsService.step] at stepped
  case create =>
    unfold OperationsService.State.create at stepped
    split at stepped <;> cases stepped
    cases present
    cases timedOut
  case askConnected =>
    unfold OperationsService.State.askConnected at stepped
    split at stepped <;> cases stepped
    exact .inl (kept present)
  case backendStart outcome =>
    unfold OperationsService.State.backendStart at stepped
    split at stepped
    · cases outcome <;> cases stepped <;> exact .inl (kept present)
    · cases stepped
  case save =>
    unfold OperationsService.State.save at stepped
    split at stepped <;> cases stepped
    rename_i status errorCode saving
    exact .inl (written present fun _ same => absurd same (untimed.start status errorCode saving))
  case refresh =>
    unfold OperationsService.State.refresh at stepped
    split at stepped
    · cases stepped
    · split at stepped <;> cases stepped
      exact .inl (kept present)
  case backendCancel =>
    unfold OperationsService.State.backendCancel at stepped
    split at stepped
    · split at stepped <;> cases stepped <;> exact .inl (kept present)
    · cases stepped
  case updateCancelled request =>
    unfold OperationsService.State.updateCancelled at stepped
    split at stepped <;> cases stepped
    rename_i status errorCode updating
    exact .inl (written present (updated fun _ same =>
      absurd same (untimed.cancels request status errorCode updating)))
  case saveError status code =>
    unfold OperationsService.State.consumerWrite at stepped
    split at stepped <;> cases stepped
    by_cases timely : status = .timeout
    · exact .inr ⟨code, by rw [timely]⟩
    · exact .inl (written present (updated fun _ same => absurd same timely))
  case setRunning =>
    unfold OperationsService.State.consumerWrite at stepped
    split at stepped <;> cases stepped
    refine .inl (written present fun earlier result => ?_)
    unfold DiagnosticOperation.setRunning at result
    split at result
    · cases result
    · exact result
  case saveProgress =>
    unfold OperationsService.State.consumerWrite at stepped
    split at stepped <;> cases stepped
    exact .inl (written present (updated fun _ same => same))
  case saveResult status checks =>
    unfold OperationsService.State.consumerWrite at stepped
    split at stepped <;> cases stepped
    refine .inl (written present (updated fun _ same => ?_))
    unfold DiagnosticOperation.mapStatus at same
    dsimp only at same
    split at same
    · cases same
    · split at same
      · cases same
      · split at same <;> cases same

end Statements

section Steps

variable {before after : State}

/-- The timeout is recorded in the last statement of `_consume`. -/
theorem Timed.untimed (timed : Timed setting before) (running : before.consumer ≠ .finished)
    {row : DiagnosticOperation} (present : before.service.row = some row) :
    row.status ≠ .timeout := fun timedOut => running (timed.row row present timedOut).1

/-- A step of the gateway beside `_consume`. -/
theorem Timed.follow (timed : Timed setting before) (sound : before.Sound setting)
    {opening : Prop} (closed : ¬ opening)
    (run : WatchRun setting opening before.watch after.watch)
    (same : after = { before with watch := after.watch })
    (still : forall write delivery, before.consumer = .saving write ->
      (before.call setting).phase = .delivered delivery ->
      (after.call setting).phase = .delivered delivery) : Timed setting after := by
  have consumer : after.consumer = before.consumer := by rw [same]
  have service : after.service = before.service := by rw [same]
  have orphan : after.orphan = before.orphan := by rw [same]
  have reached : before.CancelReached setting -> after.CancelReached setting :=
    fun requested => reached_of_run closed sound requested run
  constructor
  · intro write saving
    rw [consumer] at saving
    rcases timed.saving write saving with ⟨timely, delivery, phase⟩
    exact ⟨timely, delivery, still write delivery saving phase⟩
  · rw [orphan]
    exact timed.orphan
  · rw [consumer]
    exact fun unwinding => reached (timed.unwinding unwinding)
  · rw [consumer]
    exact fun cancelling => awaits_of_run closed sound (timed.cancelling cancelling) run
  · rw [consumer]
    exact fun write failing timesOut => reached (timed.failing write failing timesOut)
  · rw [service]
    exact timed.verdicts
  · rw [service, consumer]
    intro row present timedOut
    rcases timed.row row present timedOut with ⟨finished, requested⟩
    exact ⟨finished, reached requested⟩

/-- A statement that does not record a timeout. -/
theorem Timed.stated (timed : Timed setting before) {statement : OperationsService.Action}
    (stepped : before.serviceStep setting statement = some after)
    (timely : forall code, statement ≠ .saveError .timeout code) : Timed setting after := by
  rcases Option.map_eq_some_iff.mp stepped with ⟨service, made, rfl⟩
  refine ⟨timed.saving, timed.orphan, timed.unwinding, timed.cancelling, timed.failing,
    timed.verdicts.step made, fun row present timedOut => ?_⟩
  rcases timeout_of_statement timed.verdicts made present timedOut with
    ⟨earlier, known, late⟩ | ⟨code, records⟩
  · exact timed.row earlier known late
  · exact absurd records (timely code)

theorem Timed.iterate (timed : Timed setting before) (running : before.consumer ≠ .finished) :
    Timed setting { before with consumer := .iterating } :=
  ⟨by simp, timed.orphan, by simp, by simp, by simp, timed.verdicts,
    fun _ present timedOut => absurd timedOut (timed.untimed running present)⟩

theorem statement_timely {write : PendingWrite} (timely : write.timesOut = false) (code : String) :
    write.statement ≠ .saveError .timeout code := by
  rintro same
  cases write with
  | error status given =>
      cases same
      cases timely
  | _ => cases same

/-- The state after the handler of the timeout. -/
theorem Timed.handled (handled : Handled setting after) (verdicts : Untimed after.service)
    (orphan : forall write, after.orphan = some write -> write.timesOut = false)
    (fresh : forall row, after.service.row = some row -> row.status ≠ .timeout) :
    Timed setting after := by
  have late : forall row, after.service.row = some row -> row.status = .timeout ->
      after.consumer = .finished ∧ after.CancelReached setting :=
    fun row present timedOut => absurd timedOut (fresh row present)
  rcases handled with ⟨consumer, awaits⟩ | ⟨consumer, requested⟩
  · refine ⟨?_, orphan, ?_, fun _ => awaits, ?_, verdicts, late⟩ <;> rw [consumer] <;> simp
  · refine ⟨?_, orphan, ?_, ?_, fun _ _ _ => requested, verdicts, late⟩ <;> rw [consumer] <;>
      simp

theorem handleTimeout_frame (stepped : before.handleTimeout setting = some after) :
    after.service = before.service ∧ after.orphan = before.orphan := by
  rcases Option.map_eq_some_iff.mp stepped with ⟨next, moved, result⟩
  have side := (gatewayStep_side moved).2
  have frame : next.service = before.service ∧ next.orphan = before.orphan := by
    rw [side]
    exact ⟨rfl, rfl⟩
  split at result <;> cases result <;> exact frame

/-- The handler runs in a state whose row and statements know no timeout. -/
theorem Timed.handle (timed : Timed setting before) (running : before.consumer ≠ .finished)
    (sound : before.Sound setting)
    (ready : ((before.call setting).phase.holding = true ∧
        before.watch.cancelWaits setting.operation.toWatchedJob = false) ∨
      before.CancelReached setting)
    (stepped : before.handleTimeout setting = some after) : Timed setting after := by
  rcases handleTimeout_frame stepped with ⟨service, orphan⟩
  refine .handled (handled_of_handleTimeout sound ready stepped) ?_ ?_ ?_
  · rw [service]
    exact timed.verdicts
  · rw [orphan]
    exact timed.orphan
  · rw [service]
    exact fun row present => timed.untimed running present

/-- A step of the gateway while the loop runs. -/
theorem Timed.own (timed : Timed setting before) (sound : before.Sound setting)
    (iterating : before.consumer = .iterating) {action : Gateway.Action}
    (allowed : setting.operation.allows before.gateway action = true)
    (silent : action.opens? = none) (stepped : before.gatewayStep setting action = some after) :
    Timed setting after ∧ after.Sound setting ∧ after.consumer = .iterating := by
  have run : WatchRun setting False before.watch after.watch := WatchRun.own allowed silent stepped
  have same := (gatewayStep_side stepped).2
  refine ⟨timed.follow sound not_false run same ?_, sound_of_run sound run, ?_⟩
  · intro write delivery saving
    rw [iterating] at saving
    cases saving
  · rw [same]
    exact iterating

/-- A timeout that finds the job registered. -/
theorem Timed.abandoned (timed : Timed setting before) (sound : before.Sound setting)
    (iterating : before.consumer = .iterating)
    (alone : before.watch.cancelWaits setting.operation.toWatchedJob = false)
    (stepped : (before.gatewayStep setting (.abandon setting.operation.call)).bind
      (State.handleTimeout setting) = some after) : Timed setting after := by
  rcases Option.bind_eq_some_iff.mp stepped with ⟨left, moved, handled⟩
  rcases timed.own sound iterating rfl rfl moved with ⟨leftTimed, leftSound, still⟩
  have holding : (left.call setting).phase.holding = true := by
    rcases Option.map_eq_some_iff.mp (gatewayStep_side moved).1 with ⟨gateway, step, same⟩
    change (left.watch.gateway.calls setting.operation.call).phase.holding = true
    rw [← same]
    exact holding_of_abandon step
  refine leftTimed.handle (by rw [still]; simp) leftSound (.inl ⟨holding, ?_⟩) handled
  exact alone_of_abandon alone moved

/-- The timeout that meets the guard leaves its cancel frame put, or about to
be put. -/
theorem Timed.timeout (timed : Timed setting before) (sound : before.Sound setting)
    (kept : CancelsInTime setting before .timeout)
    (stepped : before.timeout setting = some after) : Timed setting after := by
  rcases kept rfl with ⟨received, alone⟩
  unfold State.timeout at stepped
  split at stepped
  · rename_i write saving
    rcases timed.saving write saving with ⟨timely, delivery, phase⟩
    have left : Timed setting { before with orphan := some write } := by
      refine ⟨timed.saving, ?_, timed.unwinding, timed.cancelling, timed.failing, timed.verdicts,
        timed.row⟩
      rintro _ ⟨⟩
      exact timely
    have running : ({ before with orphan := some write } : State).consumer ≠ .finished := by
      change before.consumer ≠ .finished
      rw [saving]
      simp
    refine left.handle running sound (.inl ⟨?_, alone⟩) stepped
    change (before.call setting).phase.holding = true
    rw [phase]
    rfl
  · rename_i iterating idle
    have running : before.consumer ≠ .finished := by
      rw [iterating]
      simp
    exact timed.handle running sound (.inr (reached_of_idle sound idle)) stepped
  · rename_i iterating _
    exact timed.abandoned sound iterating alone stepped
  · rename_i iterating _
    exact timed.abandoned sound iterating alone stepped
  · rename_i iterating receiving
    have requested := sound.reached_of_sent (received receiving) alone
    rcases Option.bind_eq_some_iff.mp stepped with ⟨closing, moved, rest⟩
    rcases timed.own sound iterating rfl rfl moved with ⟨closingTimed, closingSound, still⟩
    have closingRun : WatchRun setting False before.watch closing.watch :=
      WatchRun.own rfl rfl moved
    have closingReached : closing.CancelReached setting :=
      reached_of_run not_false sound requested closingRun
    have running : closing.consumer ≠ .finished := by
      rw [still]
      simp
    split at rest
    · rcases Option.bind_eq_some_iff.mp rest with ⟨freed, finalised, handled⟩
      rcases closingTimed.own closingSound still rfl rfl finalised with
        ⟨freedTimed, freedSound, freedStill⟩
      have freedRun : WatchRun setting False closing.watch freed.watch :=
        WatchRun.own rfl rfl finalised
      refine freedTimed.handle (by rw [freedStill]; simp) freedSound (.inr ?_) handled
      exact reached_of_run not_false closingSound closingReached freedRun
    · cases rest
      exact ⟨by simp, closingTimed.orphan, fun _ => closingReached, by simp, by simp,
        closingTimed.verdicts,
        fun _ present timedOut => absurd timedOut (closingTimed.untimed running present)⟩
  · cases stepped

/-- The generator starts, and is refused or goes on. -/
theorem Timed.openJob (timed : Timed setting before) (sound : before.Sound setting)
    (stepped : before.openJob setting = some after) : Timed setting after := by
  unfold State.openJob at stepped
  split at stepped
  · rename_i iterating
    rcases Option.map_eq_some_iff.mp stepped with ⟨next, moved, result⟩
    have frame : next.service = before.service ∧ next.orphan = before.orphan ∧
        next.consumer = .iterating := by
      rw [(gatewayStep_side moved).2]
      exact ⟨rfl, rfl, iterating⟩
    have verdicts : Untimed next.service := by
      rw [frame.1]
      exact timed.verdicts
    have orphan : forall write, next.orphan = some write -> write.timesOut = false := by
      rw [frame.2.1]
      exact timed.orphan
    have fresh : forall row, next.service.row = some row -> row.status ≠ .timeout := by
      rw [frame.1]
      exact fun row present => timed.untimed (by rw [iterating]; simp) present
    split at result
    · rename_i error refused
      cases result
      refine ⟨by simp, orphan, by simp, by simp, fun _ _ _ => ?_, verdicts,
        fun row present timedOut => absurd timedOut (fresh row present)⟩
      intro stream opened
      rcases Option.map_eq_some_iff.mp (gatewayStep_side moved).1 with ⟨gateway, step, same⟩
      have idle : (before.call setting).phase = .idle := by
        simp only [Gateway.step, State.openDiagnostics] at step
        split at step
        · rename_i ready
          exact ready.1
        · cases step
      change next.watch.stream = some stream at opened
      change (next.watch.gateway.calls setting.operation.call).phase = _ at refused
      rw [← same] at opened refused
      have kept : before.watch.openedOn setting.operation.toWatchedJob gateway =
          before.watch.stream := by
        refine if_neg fun opening => ?_
        have holding := opening.2
        rw [refused] at holding
        cases holding
      exact absurd idle (sound.opened stream (kept ▸ opened)).1
    · cases result
      have away : forall phase, phase ≠ .iterating -> next.consumer ≠ phase := by
        rintro phase other same
        exact other (same.symm.trans frame.2.2)
      exact ⟨fun _ saving => absurd saving (away _ (by simp)), orphan,
        fun unwinding => absurd unwinding (away _ (by simp)),
        fun cancelling => absurd cancelling (away _ (by simp)),
        fun _ failing => absurd failing (away _ (by simp)), verdicts,
        fun row present timedOut => absurd timedOut (fresh row present)⟩
  · cases stepped

/-- A frame is received, and its statement handed to a thread. -/
theorem Timed.deliver (timed : Timed setting before) (sound : before.Sound setting)
    (stepped : before.deliver setting = some after) : Timed setting after := by
  unfold State.deliver at stepped
  split at stepped
  · rename_i iterating
    rcases Option.map_eq_some_iff.mp stepped with ⟨next, moved, result⟩
    rcases timed.own sound iterating rfl rfl moved with ⟨nextTimed, _, still⟩
    have running : next.consumer ≠ .finished := by
      rw [still]
      simp
    split at result
    · rename_i delivery phase
      split at result
      · rename_i write made
        cases result
        refine ⟨?_, nextTimed.orphan, by simp, by simp, by simp, nextTimed.verdicts,
          fun _ present timedOut => absurd timedOut (nextTimed.untimed running present)⟩
        rintro _ ⟨⟩
        exact ⟨timesOut_of_writeOf made, delivery, phase⟩
      · cases result
        exact nextTimed
    · cases result
      exact nextTimed
  · cases stepped

/-- The statement that `_consume` waits for has been executed. -/
theorem Timed.saved (timed : Timed setting before) (stepped : before.saved setting = some after) :
    Timed setting after := by
  unfold State.saved at stepped
  split at stepped
  · rename_i write saving
    rcases Option.map_eq_some_iff.mp stepped with ⟨next, made, result⟩
    cases result
    have running : next.consumer ≠ .finished := by
      rw [(serviceStep_side made).2]
      change before.consumer ≠ .finished
      rw [saving]
      simp
    exact (timed.stated made (statement_timely (timed.saving write saving).1)).iterate running
  · rename_i write failing
    rcases Option.map_eq_some_iff.mp stepped with ⟨next, made, result⟩
    cases result
    rcases Option.map_eq_some_iff.mp made with ⟨service, step, rfl⟩
    refine ⟨by simp, timed.orphan, by simp, by simp, by simp, timed.verdicts.step step, ?_⟩
    intro row present timedOut
    refine ⟨rfl, ?_⟩
    rcases timeout_of_statement timed.verdicts step present timedOut with
      ⟨earlier, known, late⟩ | ⟨code, records⟩
    · exact (timed.row earlier known late).2
    · refine timed.failing write failing ?_
      cases write with
      | error status given =>
          cases records
          rfl
      | _ => cases records
  · cases stepped

theorem Timed.finalise (timed : Timed setting before) (sound : before.Sound setting)
    (stepped : before.finalise setting = some after) : Timed setting after := by
  unfold State.finalise at stepped
  rcases Option.bind_eq_some_iff.mp stepped with ⟨next, moved, rest⟩
  have run : WatchRun setting False before.watch next.watch := WatchRun.own rfl rfl moved
  have side := (gatewayStep_side moved).2
  have nextTimed : Timed setting next := by
    refine timed.follow sound not_false run side fun write delivery saving phase => ?_
    rcases Option.map_eq_some_iff.mp (gatewayStep_side moved).1 with ⟨gateway, step, _⟩
    have early : (before.watch.gateway.calls setting.operation.call).phase =
      .delivered delivery := phase
    simp only [Gateway.step, Gateway.State.finalise, early] at step
    cases step
  split at rest
  · rename_i iterating
    cases rest
    have running : next.consumer ≠ .finished := by
      rw [iterating]
      simp
    exact ⟨by simp, nextTimed.orphan, by simp, by simp, by simp, nextTimed.verdicts,
      fun _ present timedOut => absurd timedOut (nextTimed.untimed running present)⟩
  · rename_i unwinding
    have running : next.consumer ≠ .finished := by
      rw [unwinding]
      simp
    exact nextTimed.handle running (sound_of_run sound run) (.inr (nextTimed.unwinding unwinding))
      rest
  · cases rest
    exact nextTimed

/-- The abandoned generator is closed. -/
theorem Timed.collect (timed : Timed setting before) (sound : before.Sound setting)
    (stepped : before.collect setting = some after) : Timed setting after := by
  have closed : (forall write, before.consumer ≠ .saving write) ->
      before.gatewayStep setting (.abandon setting.operation.call) = some after ->
      Timed setting after := by
    intro idle moved
    have run : WatchRun setting False before.watch after.watch := WatchRun.own rfl rfl moved
    exact timed.follow sound not_false run (gatewayStep_side moved).2
      fun write _ saving => absurd saving (idle write)
  unfold State.collect at stepped
  split at stepped
  · rename_i consumer _
    exact closed (by rw [consumer]; simp) stepped
  · rename_i consumer _
    exact closed (by rw [consumer]; simp) stepped
  · rename_i consumer _
    exact closed (by rw [consumer]; simp) stepped
  · cases stepped

theorem Timed.handlerResume (timed : Timed setting before) (sound : before.Sound setting)
    (stepped : before.handlerResume setting = some after) : Timed setting after := by
  unfold State.handlerResume at stepped
  split at stepped
  · rename_i cancelling
    rcases Option.map_eq_some_iff.mp stepped with ⟨next, moved, result⟩
    cases result
    have run : WatchRun setting False before.watch next.watch := WatchRun.own rfl rfl moved
    have side := (gatewayStep_side moved).2
    have nextTimed : Timed setting next := by
      refine timed.follow sound not_false run side fun write _ saving => ?_
      rw [cancelling] at saving
      cases saving
    have same : next.consumer = .cancelling := by
      rw [side]
      exact cancelling
    have done : forall stream,
        next.watch.gateway.cancels setting.operation.handler ≠ .waiting stream := by
      intro stream
      rcases Option.map_eq_some_iff.mp (gatewayStep_side moved).1 with ⟨gateway, step, result⟩
      rw [← result]
      exact returned_of_cancelResume step stream
    have requested : next.CancelReached setting :=
      (nextTimed.cancelling same).reached (sound_of_run sound run) done
    exact ⟨by simp, nextTimed.orphan, by simp, by simp, fun _ _ _ => requested, nextTimed.verdicts,
      fun _ present timedOut =>
        absurd timedOut (nextTimed.untimed (by rw [same]; simp) present)⟩
  · cases stepped

theorem Timed.web (timed : Timed setting before) {statement : OperationsService.Action}
    (stepped : before.web setting statement = some after) : Timed setting after := by
  unfold State.web at stepped
  split at stepped
  · cases stepped
  · cases stepped
  · cases stepped
  · cases stepped
  · split at stepped
    · exact timed.stated stepped (by simp)
    · cases stepped
  · split at stepped
    · exact timed.stated stepped (by simp)
    · cases stepped
  · split at stepped
    · exact timed.stated stepped (by simp)
    · cases stepped
  · rename_i other _ _ _
    exact timed.stated stepped fun code same => other _ _ same

theorem Timed.step (timed : Timed setting before) (sound : before.Sound setting)
    {action : Action} (kept : CancelsInTime setting before action)
    (stepped : DiagnosticTask.step setting before action = some after) : Timed setting after := by
  have beside : forall {gatewayAction : Gateway.Action},
      before.gatewayStep setting gatewayAction = some after ->
      setting.operation.allows before.gateway gatewayAction = true ->
      (forall call agentId, gatewayAction.opens? ≠ some (call, agentId, setting.operation.jobId)) ->
      gatewayAction ≠ .advance setting.operation.call ->
      gatewayAction ≠ .abandon setting.operation.call -> Timed setting after := by
    intro gatewayAction moved allowed silent still left
    have side := gatewayStep_side moved
    have run : WatchRun setting False before.watch after.watch :=
      .single ⟨gatewayAction, allowed, silent, side.1⟩
    refine timed.follow sound not_false run side.2 fun write delivery saving phase => ?_
    rcases Option.map_eq_some_iff.mp side.1 with ⟨gateway, step, result⟩
    change (after.watch.gateway.calls setting.operation.call).phase = .delivered delivery
    rw [← result]
    exact delivered_of_step step phase still left
  cases action <;> simp only [DiagnosticTask.step] at stepped
  case surroundings gatewayAction =>
    unfold State.surroundings at stepped
    split at stepped
    · rename_i other
      rcases foreign_allows other with ⟨allowed, silent⟩
      refine beside stepped allowed silent ?_ ?_ <;>
        · rintro rfl
          exact absurd rfl (of_decide_eq_true other)
    · cases stepped
  case web => exact timed.web stepped
  case issueCancel =>
    unfold State.issueCancel at stepped
    split at stepped <;> cases stepped
    exact ⟨timed.saving, timed.orphan, timed.unwinding, timed.cancelling, timed.failing,
      timed.verdicts, timed.row⟩
  case runCancel request =>
    unfold State.runCancel at stepped
    split at stepped
    · exact beside stepped rfl (by simp [Action.opens?]) (by simp) (by simp)
    · cases stepped
  case begin =>
    unfold State.begin at stepped
    split at stepped
    · rename_i absent
      rcases Option.map_eq_some_iff.mp stepped with ⟨next, made, result⟩
      cases result
      refine (timed.stated made (by simp)).iterate ?_
      rw [(serviceStep_side made).2]
      change before.consumer ≠ .finished
      rw [absent]
      simp
    · cases stepped
  case openJob => exact timed.openJob sound stepped
  case requestResume =>
    unfold State.requestResume at stepped
    split at stepped
    · rename_i iterating
      exact (timed.own sound iterating rfl rfl stepped).1
    · cases stepped
  case deliver => exact timed.deliver sound stepped
  case advance =>
    unfold State.advance at stepped
    split at stepped
    · rename_i iterating
      exact (timed.own sound iterating rfl rfl stepped).1
    · cases stepped
  case saved => exact timed.saved stepped
  case orphanSaved =>
    unfold State.orphanSaved at stepped
    split at stepped
    · rename_i write orphan
      rcases Option.map_eq_some_iff.mp stepped with ⟨next, made, result⟩
      cases result
      have written := timed.stated made (statement_timely (timed.orphan write orphan))
      exact ⟨written.saving, by simp, written.unwinding, written.cancelling, written.failing,
        written.verdicts, written.row⟩
    · cases stepped
  case timeout => exact timed.timeout sound kept stepped
  case finalise => exact timed.finalise sound stepped
  case collect => exact timed.collect sound stepped
  case handlerResume => exact timed.handlerResume sound stepped

theorem timed_of_reachable {state : State}
    (reached : (machine setting).ReachableUnder (CancelsInTime setting) state) :
    Timed setting state := by
  refine reached.invariant ?_ ?_
  · rintro start ⟨⟩
    exact .initial setting
  · intro source action target earlier timed kept stepped
    exact timed.step (sound_of_reachable earlier) kept stepped

end Steps

/-- In every run in which the timeout neither strikes while the generator waits
for a frame of a job that nobody has cancelled, nor while a cancellation of the
job waits for room: when the row has timed out and the session that the job was
opened on is still connected, a cancel frame of the job has been put on its
outgoing queue. -/
theorem timeout_cancels (setting : Setting) (state : State)
    (reached : (machine setting).ReachableUnder (CancelsInTime setting) state)
    (row : DiagnosticOperation) (present : state.service.row = some row)
    (timedOut : row.status = .timeout) (stream : Nat) (opened : state.watch.stream = some stream)
    (connected : state.gateway.sessions.lookup setting.operation.agentId = some stream) :
    state.watch.cancelPut = true :=
  ((timed_of_reachable reached).row row present timedOut).2 stream opened connected

/-- The timeout strikes while the statement of a progress frame is executed.
The job is still registered, and the agent is asked to cancel it. -/
theorem timeout_cancels_saving :
    Exists fun state : State =>
      state.service.row = some ⟨.timeout, .empty, "DIAGNOSTIC_TIMEOUT"⟩ ∧
        state.watch.cancelPut = true := by
  rcases (machine .sample).exists_reachableUnder_of_replay (CancelsInTime .sample)
    (created ++ dispatched ++ [.surroundings (.yieldControl 0),
      .surroundings (.readFrame 0 (.progress ⟨"job-1", 1, "start", "begun"⟩)), .deliver, .timeout,
      .saved])
    .initial rfl
    (fun state => state.service.row = some ⟨.timeout, .empty, "DIAGNOSTIC_TIMEOUT"⟩ ∧
      state.watch.stream = some 0 ∧ state.gateway.sessions.lookup "alpha" = some 0)
    (by decide +kernel) with ⟨state, reached, tested⟩
  rcases of_decide_eq_true tested with ⟨present, opened, connected⟩
  exact ⟨state, present,
    timeout_cancels .sample state reached _ present rfl 0 opened connected⟩

/-- The agent works on the job and sends nothing.  The timeout strikes while
the generator waits for a frame; the row has timed out, the session is still
served, and no cancel frame was ever put on its queue. -/
theorem timeout_uncancelled :
    Exists fun state : State => (machine .sample).Reachable state ∧
      state.service.row = some ⟨.timeout, .empty, "DIAGNOSTIC_TIMEOUT"⟩ ∧
      state.watch.stream = some 0 ∧ state.gateway.sessions.lookup "alpha" = some 0 ∧
      (state.gateway.streams 0).phase = .serving ∧ state.watch.cancelPut = false := by
  rcases (machine .sample).exists_reachableUnder_of_replay (fun _ _ => True)
    (created ++ dispatched ++ [.surroundings (.yieldControl 0), .timeout, .saved])
    .initial rfl
    (fun state => state.service.row = some ⟨.timeout, .empty, "DIAGNOSTIC_TIMEOUT"⟩ ∧
      state.watch.stream = some 0 ∧ state.gateway.sessions.lookup "alpha" = some 0 ∧
      (state.gateway.streams 0).phase = .serving ∧ state.watch.cancelPut = false)
    (by decide +kernel) with ⟨state, reached, tested⟩
  exact ⟨state, reached, of_decide_eq_true tested⟩

end DiagnosticTask
end ControlPlane
end DjangoOps
