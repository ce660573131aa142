import DjangoOps.ControlPlane.DiagnosticTask

namespace DjangoOps
namespace ControlPlane

open Protocol Gateway

/-!
# Dispatch of settled operations

The row can be settled before the gateway knows the job, and while the request
of the job waits in an outgoing queue.  `_consume` opens the job without a look
at the row, and a queued request is sent whatever happens to the row.
-/

namespace DiagnosticTask

variable {setting : Setting}

/-- The frame asks for the job of the operation. -/
def asksFor (setting : Setting) (frame : Option ControlFrame) : Bool :=
  match frame with
  | some (.diagnostics request) => decide (request.jobId = setting.operation.jobId)
  | _ => false

/-- The request of the operation waits in the outgoing queue of its session, or
for room in it. -/
def State.requestWaits (setting : Setting) (state : State) : Bool :=
  match state.watch.stream with
  | none => false
  | some stream => (state.gateway.outgoing stream).pending.any (asksFor setting)

/-- The step gives the row its terminal status. -/
def State.settles (setting : Setting) (state : State) (action : Action) : Bool :=
  !state.service.settled &&
    match state.statement? action with
    | none => false
    | some statement =>
        match OperationsService.step setting.letters state.service statement with
        | none => false
        | some service => service.settled

/-- The job is opened for an active row, and the row is settled while no
request of the job waits. -/
def DispatchesActive (setting : Setting) (state : State) (action : Action) : Prop :=
  (action = .openJob -> state.service.settled = false) ∧
    (state.settles setting action = true -> state.requestWaits setting = false)

instance (state : State) (action : Action) : Decidable (DispatchesActive setting state action) :=
  inferInstanceAs (Decidable (_ ∧ _))

/-- Where the requests of the operation wait, and that a settled operation has
none. -/
structure Undispatched (setting : Setting) (state : State) : Prop where
  located : forall stream frame, asksFor setting frame = true ->
    frame ∈ (state.gateway.outgoing stream).pending -> state.watch.stream = some stream
  silent : state.service.settled = true -> state.requestWaits setting = false

theorem request_of_asksFor {frame : Option ControlFrame} (asks : asksFor setting frame = true) :
    Exists fun request : DiagnosticsRequest => frame = some (.diagnostics request) ∧
      request.jobId = setting.operation.jobId := by
  unfold asksFor at asks
  split at asks
  · exact ⟨_, rfl, of_decide_eq_true asks⟩
  · cases asks

/-- A waiting request waited before, or its job is opened on its session. -/
theorem WatchStep.request {opening : Prop} {before after : Watch}
    (step : WatchStep setting opening before after) {stream : Nat} {frame : Option ControlFrame}
    (asks : asksFor setting frame = true)
    (queued : frame ∈ (after.gateway.outgoing stream).pending) :
    frame ∈ (before.gateway.outgoing stream).pending ∨
      (opening ∧ after.stream = some stream) := by
  rcases step with ⟨action, allowed, permitted, moved⟩
  rcases Option.map_eq_some_iff.mp moved with ⟨gateway, stepped, rfl⟩
  rcases request_of_asksFor asks with ⟨request, rfl, named⟩
  by_cases earlier : some (ControlFrame.diagnostics request) ∈
      (before.gateway.outgoing stream).pending
  · exact .inl earlier
  · rcases (request_of_step stepped rfl queued).resolve_left earlier with
      ⟨⟨call, agentId⟩, opens, connected⟩
    change action.opens? = some (call, agentId, request.jobId) at opens
    rw [named] at opens
    refine .inr ⟨permitted call agentId opens, ?_⟩
    rcases WatchedJob.opens_of_allows allowed opens with ⟨own, agent, _⟩ | ⟨_, other⟩
    · rcases WatchedJob.diagnostics_of_opens allowed own opens with ⟨releaseRoot, rfl⟩
      rw [own] at stepped
      have opened := holding_of_request stepped earlier queued
      exact (if_pos opened).trans (agent ▸ connected)
    · exact absurd rfl other

theorem located_of_run {opening : Prop} {first last : Watch}
    (sound : first.Sound setting.operation.toWatchedJob setting.config)
    (located : forall stream frame, asksFor setting frame = true ->
      frame ∈ (first.gateway.outgoing stream).pending -> first.stream = some stream)
    (run : WatchRun setting opening first last) (stream : Nat) (frame : Option ControlFrame)
    (asks : asksFor setting frame = true)
    (queued : frame ∈ (last.gateway.outgoing stream).pending) : last.stream = some stream := by
  induction run with
  | refl => exact located stream frame asks queued
  | tail earlier step inductionHypothesis =>
      rcases step.request asks queued with known | ⟨_, opened⟩
      · have same := inductionHypothesis known
        rcases step with ⟨_, _, _, moved⟩
        rcases Option.map_eq_some_iff.mp moved with ⟨gateway, _, rfl⟩
        exact (Watch.openedOn_of_busy ((sound_of_run sound earlier).opened stream same).1).trans same
      · exact opened

/-- Steps that do not open the job put no request of it. -/
theorem queued_of_run {opening : Prop} {first last : Watch} (closed : ¬ opening)
    (run : WatchRun setting opening first last) {stream : Nat} {frame : Option ControlFrame}
    (asks : asksFor setting frame = true)
    (queued : frame ∈ (last.gateway.outgoing stream).pending) :
    frame ∈ (first.gateway.outgoing stream).pending := by
  induction run with
  | refl => exact queued
  | tail _ step inductionHypothesis =>
      rcases step.request asks queued with known | ⟨impossible, _⟩
      · exact inductionHypothesis known
      · exact absurd impossible closed

section Steps

variable {before after : State} {action : Action}

theorem Undispatched.not_waits {state : State} (undispatched : Undispatched setting state)
    (quiet : state.requestWaits setting = false) (stream : Nat) {frame : Option ControlFrame}
    (asks : asksFor setting frame = true) :
    frame ∉ (state.gateway.outgoing stream).pending := by
  intro queued
  have same := undispatched.located stream frame asks queued
  unfold State.requestWaits at quiet
  simp only [same] at quiet
  exact absurd asks (List.any_eq_false.mp quiet frame queued)

theorem requestWaits_eq_false {state : State}
    (silent : forall stream frame, asksFor setting frame = true ->
      frame ∉ (state.gateway.outgoing stream).pending) :
    state.requestWaits setting = false := by
  unfold State.requestWaits
  split
  · rfl
  · exact List.any_eq_false.mpr fun frame queued asks => silent _ frame asks queued

theorem Undispatched.step (undispatched : Undispatched setting before)
    (sound : before.Sound setting) (kept : DispatchesActive setting before action)
    (stepped : DiagnosticTask.step setting before action = some after) :
    Undispatched setting after := by
  have run := watch_of_step stepped
  refine ⟨located_of_run sound undispatched.located run, fun settled => ?_⟩
  have quiet : action ≠ .openJob ∧ before.requestWaits setting = false := by
    cases statement : before.statement? action with
    | none =>
        rw [(service_of_step stepped).2 statement] at settled
        refine ⟨fun opens => ?_, undispatched.silent settled⟩
        rw [kept.1 opens] at settled
        cases settled
    | some given =>
        have made := (service_of_step stepped).1 given statement
        refine ⟨?_, ?_⟩
        · rintro rfl
          cases statement
        · cases earlier : before.service.settled with
          | true => exact undispatched.silent earlier
          | false =>
              refine kept.2 ?_
              unfold State.settles
              rw [earlier, statement]
              simp only [made, settled, Bool.not_false, Bool.and_self]
  exact requestWaits_eq_false fun stream frame asks queued =>
    undispatched.not_waits quiet.2 stream asks (queued_of_run quiet.1 run asks queued)

theorem undispatched_of_reachable {state : State}
    (reached : (machine setting).ReachableUnder (DispatchesActive setting) state) :
    Undispatched setting state := by
  refine reached.invariant ?_ ?_
  · rintro start ⟨⟩
    exact ⟨fun _ _ _ impossible => (nomatch impossible), fun impossible => (nomatch impossible)⟩
  · intro source action target earlier undispatched kept stepped
    exact undispatched.step (sound_of_reachable earlier) kept stepped

end Steps

/-- In every run in which the job is opened for an active row only, and the row
is settled only while no request of the job waits in the outgoing queue of its
session: once the row has a terminal status, no diagnostics request of the
operation is sent. -/
theorem settled_never_dispatched (setting : Setting) (state : State)
    (reached : (machine setting).ReachableUnder (DispatchesActive setting) state)
    (settled : state.service.settled = true) (action : Gateway.Action)
    (request : DiagnosticsRequest)
    (sends : state.gateway.sends? action = some (.diagnostics request)) :
    request.jobId ≠ setting.operation.jobId := by
  intro named
  have undispatched := undispatched_of_reachable reached
  have asks : asksFor setting (some (.diagnostics request)) = true := decide_eq_true named
  rcases pending_of_sends sends with ⟨stream, queued⟩
  exact undispatched.not_waits (undispatched.silent settled) stream asks queued

/-- The operation runs and ends with a result; then its row is settled, and
nothing asks for it any more. -/
theorem settled_never_dispatched_result :
    Exists fun state : State => state.service.settled = true ∧
      forall action request, state.gateway.sends? action = some (.diagnostics request) ->
        request.jobId ≠ "job-1" := by
  rcases (machine .sample).exists_reachableUnder_of_replay (DispatchesActive .sample)
    (created ++ dispatched ++ [.surroundings (.yieldControl 0),
      .surroundings (.readFrame 0 (.result ⟨"job-1", 1, "unhealthy", []⟩)), .deliver, .saved,
      .advance, .finalise])
    .initial rfl (fun state => state.service.settled) (by decide +kernel) with
    ⟨state, reached, settled⟩
  exact ⟨state, settled, fun action request sends =>
    settled_never_dispatched .sample state reached settled action request sends⟩

/-- The operation is cancelled between its creation and its dispatch.  Its row
is settled as disconnected, and its request is sent all the same. -/
theorem settled_dispatched :
    Exists fun state : State => (machine .sample).Reachable state ∧
      state.service.row = some ⟨.disconnected, .empty, "CANCEL_UNAVAILABLE"⟩ ∧
      state.gateway.sends? (.yieldControl 0) =
        some (.diagnostics ⟨"job-1", "releases/web"⟩) := by
  rcases (machine .sample).exists_reachableUnder_of_replay (fun _ _ => True)
    (created ++ [.web (.refresh 1), .issueCancel 1, .runCancel 1, .web (.backendCancel 1 .refused),
      .web (.updateCancelled 1)] ++ dispatched)
    .initial rfl
    (fun state => state.service.row = some ⟨.disconnected, .empty, "CANCEL_UNAVAILABLE"⟩ ∧
      state.gateway.sends? (.yieldControl 0) =
        some (.diagnostics ⟨"job-1", "releases/web"⟩))
    (by decide +kernel) with ⟨state, reached, tested⟩
  exact ⟨state, reached, of_decide_eq_true tested⟩

end DiagnosticTask
end ControlPlane
end DjangoOps
