import DjangoOps.Gateway.Outgoing

namespace DjangoOps
namespace Gateway

open Protocol

/-!
# One job and its cancellation

A job is followed from the session it is opened on to the cancel frame that
ends it.  The memory beside the gateway holds the stream of that session, and
whether a cancel frame of the job has been put on its outgoing queue.
-/

/-- A diagnostics job: its agent and id, and its generator call. -/
structure WatchedJob where
  agentId : String
  jobId : String
  call : Nat

/-- The gateway, the stream that a job was opened on, and whether a cancel frame of the job
has been put on the outgoing queue of its session. -/
structure Watch where
  gateway : State
  stream : Option Nat
  cancelPut : Bool

namespace Watch

def initial : Watch := { gateway := .initial, stream := none, cancelPut := false }

/-- A cancel frame of the job waits in the outgoing queue. -/
def cancelQueued (job : WatchedJob) (state : State) (stream : Option Nat) : Bool :=
  match stream with
  | none => false
  | some stream => decide (some (.cancel job.jobId) ∈ (state.outgoing stream).items)

/-- The stream of the session that the job is opened on. -/
def openedOn (job : WatchedJob) (watch : Watch) (after : State) : Option Nat :=
  if (watch.gateway.calls job.call).phase = .idle ∧
      (after.calls job.call).phase.holding = true then
    watch.gateway.sessions.lookup job.agentId
  else watch.stream

def step (config : GatewayConfig) (job : WatchedJob) (watch : Watch) (action : Action) :
    Option Watch :=
  (Gateway.step config watch.gateway action).map fun after =>
    { gateway := after
      stream := watch.openedOn job after
      cancelPut := watch.cancelPut || cancelQueued job after (watch.openedOn job after) }

end Watch

/-- The job id and the call are not used for anything else, and nobody gives up
a cancellation of the job. -/
def WatchedJob.allows (job : WatchedJob) (state : State) : Action -> Bool
  | .openDiagnostics call agentId jobId _ =>
      decide (call = job.call ∧ agentId = job.agentId ∧ jobId = job.jobId) ||
        decide (call ≠ job.call ∧ jobId ≠ job.jobId)
  | .openKubernetes call _ request =>
      decide (call ≠ job.call ∧ request.jobId ≠ job.jobId)
  | .cancelAbandon request =>
      match state.cancels request with
      | .waiting stream =>
          decide ((.canceller request, some (.cancel job.jobId)) ∉ (state.outgoing stream).putters)
      | _ => true
  | _ => true

namespace Watch

variable (job : WatchedJob) (watch : Watch)

/-- A cancel frame of the job was put on the outgoing queue of its session, if
that session is still stored. -/
def CancelReached : Prop :=
  forall stream, watch.stream = some stream ->
    watch.gateway.sessions.lookup job.agentId = some stream -> watch.cancelPut = true

/-- The cancel frame was put, or this cancellation waits for room with it. -/
def Awaits (request : Nat) : Prop :=
  forall stream, watch.stream = some stream ->
    watch.gateway.sessions.lookup job.agentId = some stream ->
    watch.cancelPut = true ∨
      (.canceller request, some (.cancel job.jobId)) ∈ (watch.gateway.outgoing stream).putters

/-- No cancellation of the job waits for room. -/
def cancelWaits : Bool :=
  match watch.gateway.sessions.lookup job.agentId with
  | none => false
  | some stream =>
      (watch.gateway.outgoing stream).putters.any fun entry =>
        match entry.1 with
        | .canceller _ => decide (entry.2 = some (.cancel job.jobId))
        | _ => false

/-- What the memory says about the gateway. -/
structure Sound (config : GatewayConfig) : Prop where
  reached : (machine config).Reachable watch.gateway
  opened : forall stream, watch.stream = some stream ->
    (watch.gateway.calls job.call).phase ≠ .idle ∧
      (watch.gateway.streams stream).phase.served = true
  known : (watch.gateway.calls job.call).phase.holding = true ->
    Exists fun stream : Nat => watch.stream = some stream
  named : (watch.gateway.calls job.call).phase.holding = true ->
    (watch.gateway.calls job.call).jobId = job.jobId ∧
      (watch.gateway.calls job.call).job.agentId = job.agentId
  cancelled : forall stream, watch.stream = some stream ->
    watch.gateway.sessions.lookup job.agentId = some stream ->
    (watch.gateway.calls job.call).job.cancelSent = true ->
    watch.cancelPut = true ∨ Exists fun request : Nat =>
      (.canceller request, some (.cancel job.jobId)) ∈ (watch.gateway.outgoing stream).putters

theorem Sound.initial (config : GatewayConfig) : Watch.initial.Sound job config where
  reached := .start rfl
  opened := fun _ impossible => nomatch impossible
  known := fun impossible => nomatch impossible
  named := fun impossible => nomatch impossible
  cancelled := fun _ impossible => nomatch impossible

end Watch

section Steps

variable {config : GatewayConfig} {job : WatchedJob} {before after : State} {action : Action}

/-- A stored session that was registered before the step was stored before it. -/
theorem lookup_of_step (stepped : step config before action = some after) {agentId : String}
    {stream : Nat} (served : (before.streams stream).phase.served = true)
    (found : after.sessions.lookup agentId = some stream) :
    before.sessions.lookup agentId = some stream := by
  rcases lookup_session_step stepped found with stored | ⟨_, registering, _, _⟩
  · exact stored
  · rw [registering] at served
    cases served

/-- Only a cancellation of the job sets its flag. -/
theorem cancelSent_of_step (stepped : step config before action = some after) {call : Nat}
    (busy : (before.calls call).phase ≠ .idle)
    (sent : (after.calls call).job.cancelSent = true) :
    (before.calls call).job.cancelSent = true ∨
      Exists fun cancel : Nat × String => action = .cancel cancel.1 cancel.2 ∧
        before.jobs.lookup cancel.2 = some call := by
  have move := step_call_move stepped call
  generalize after.calls call = record at sent move
  cases move with
  | opened _ _ _ _ _ _ idle => exact absurd idle busy
  | cancelled request jobId registered => exact .inr ⟨(request, jobId), rfl, registered⟩
  | _ => exact .inl sent

/-- A job starts without a cancellation. -/
theorem cancelSent_of_opening (stepped : step config before action = some after) {call : Nat}
    (idle : (before.calls call).phase = .idle) (slotted : before.Slotted)
    (holding : (after.calls call).phase.holding = true) :
    (after.calls call).job.cancelSent = false := by
  have move := step_call_move stepped call
  generalize after.calls call = record at holding move
  have unmoved : (before.calls call).phase.holding = true -> False := by
    rw [idle]
    exact nofun
  cases move with
  | opened => rfl
  | refused => cases holding
  | requested _ phase =>
      rw [idle] at phase
      cases phase
  | delivered _ _ phase =>
      rw [idle] at phase
      cases phase
  | advanced _ phase =>
      rw [idle] at phase
      cases phase
  | abandoned _ busy => exact absurd idle busy
  | finished _ phase =>
      rw [idle] at phase
      cases phase
  | cancelled _ jobId registered =>
      exact absurd ((slotted jobId call).mp registered).1 unmoved
  | _ => exact absurd holding unmoved

/-- A first cancellation puts its frame on the queue of the agent's session, or
waits for room there. -/
theorem put_of_cancel {request call stream : Nat} {jobId : String}
    (stepped : step config before (.cancel request jobId) = some after)
    (registered : before.jobs.lookup jobId = some call)
    (unsent : (before.calls call).job.cancelSent = false)
    (connected : before.sessions.lookup (before.calls call).job.agentId = some stream) :
    (.canceller request, some (.cancel jobId)) ∈ (after.outgoing stream).putters ∨
      some (.cancel jobId) ∈ (after.outgoing stream).items := by
  simp only [step, State.cancel, registered, unsent, connected, Bool.false_eq_true, if_false]
    at stepped
  split at stepped
  · cases stepped
    change _ ∈ ((State.putOutgoing (before.modifyJob call _) stream _ _).outgoing
      stream).putters ∨ _ ∈ ((State.putOutgoing (before.modifyJob call _) stream _ _).outgoing
        stream).items
    rw [State.putOutgoing, State.outgoing_modifyOutgoing]
    rcases BoundedQueue.put_cases maxOutgoingFrames (Task.canceller request)
      (some (ControlFrame.cancel jobId))
      ((before.modifyJob call fun job => { job with cancelSent := true }).outgoing stream) with
      suspended | queued
    · rw [suspended]
      exact .inl (List.mem_append.mpr (.inr (.head _)))
    · rw [queued]
      exact .inr (List.mem_append.mpr (.inr (.head _)))
  · cases stepped

/-- A generator keeps the id under which a step opens its job. -/
theorem jobId_of_opens {call : Nat} {agentId jobId : String}
    (stepped : step config before action = some after)
    (opens : action.opens? = some (call, agentId, jobId))
    (idle : (before.calls call).phase = .idle)
    (holding : (after.calls call).phase.holding = true) : (after.calls call).jobId = jobId := by
  have early : (before.calls call).phase.holding ≠ true := by
    rw [idle]
    exact nofun
  cases step_slot_move stepped with
  | kept _ calls => exact absurd ((calls call).1.symm.trans holding) early
  | opened opener _ _ ownOpens _ _ _ own =>
      rw [opens] at ownOpens
      cases ownOpens
      exact own.2
  | removed remover _ _ ended _ others =>
      by_cases same : call = remover
      · subst same
        rw [holding] at ended
        cases ended
      · rw [others call same] at holding
        exact absurd holding early

theorem WatchedJob.opens_of_allows {state : State} {call : Nat} {agentId jobId : String}
    (allowed : job.allows state action = true)
    (opens : action.opens? = some (call, agentId, jobId)) :
    (call = job.call ∧ agentId = job.agentId ∧ jobId = job.jobId) ∨
      (call ≠ job.call ∧ jobId ≠ job.jobId) := by
  cases action <;> cases opens
  case openDiagnostics =>
    unfold WatchedJob.allows at allowed
    rcases Bool.or_eq_true_iff.mp allowed with own | other
    · exact .inl (of_decide_eq_true own)
    · exact .inr (of_decide_eq_true other)
  case openKubernetes => exact .inr (of_decide_eq_true allowed)

/-- The call of the job opens it for diagnostics. -/
theorem WatchedJob.diagnostics_of_opens {state : State} {call : Nat} {agentId jobId : String}
    (allowed : job.allows state action = true) (own : call = job.call)
    (opens : action.opens? = some (call, agentId, jobId)) :
    Exists fun releaseRoot : String =>
      action = .openDiagnostics call agentId jobId releaseRoot := by
  cases action <;> cases opens
  case openDiagnostics releaseRoot => exact ⟨releaseRoot, rfl⟩
  case openKubernetes => exact absurd own (of_decide_eq_true allowed).1

/-- Nobody gives up a waiting cancellation of the job. -/
theorem WatchedJob.keeps_of_allows {state : State} {request stream : Nat}
    (allowed : job.allows state action = true) (cancelling : state.Cancelling)
    (waits : (.canceller request, some (.cancel job.jobId)) ∈ (state.outgoing stream).putters) :
    action ≠ .cancelAbandon request := by
  rintro rfl
  unfold WatchedJob.allows at allowed
  simp only [(cancelling stream request _ waits).1] at allowed
  exact of_decide_eq_true allowed waits

end Steps

namespace Watch

variable {config : GatewayConfig} {job : WatchedJob} {watch after : Watch} {action : Action}

theorem openedOn_of_busy {gateway : State} (busy : (watch.gateway.calls job.call).phase ≠ .idle) :
    watch.openedOn job gateway = watch.stream :=
  if_neg fun opening => busy opening.1

/-- A job that was opened keeps its session. -/
theorem stream_of_busy (busy : (watch.gateway.calls job.call).phase ≠ .idle)
    (stepped : Watch.step config job watch action = some after) : after.stream = watch.stream := by
  rcases Option.map_eq_some_iff.mp stepped with ⟨gateway, _, rfl⟩
  exact openedOn_of_busy busy

/-- The job is opened by a step on the session of its agent. -/
theorem Sound.opening (sound : watch.Sound job config) {gateway : State}
    (allowed : job.allows watch.gateway action = true)
    (stepped : Gateway.step config watch.gateway action = some gateway)
    (idle : (watch.gateway.calls job.call).phase = .idle)
    (holding : (gateway.calls job.call).phase.holding = true) :
    action.opens? = some (job.call, job.agentId, job.jobId) ∧
      Exists fun stream : Nat => watch.gateway.sessions.lookup job.agentId = some stream := by
  have slotted := slotted_of_reachable sound.reached
  rcases lookup_of_opening slotted (slotted.step stepped) stepped idle holding with
    ⟨⟨agentId, jobId, stream⟩, opens, found⟩
  rcases WatchedJob.opens_of_allows allowed opens with ⟨_, agent, named⟩ | ⟨foreign, _⟩
  · dsimp only at agent named found opens
    rw [agent, named] at opens
    rw [agent] at found
    exact ⟨opens, stream, found⟩
  · exact absurd rfl foreign

/-- A step that does not open the job leaves its session alone. -/
theorem Sound.stream_of_silent (sound : watch.Sound job config)
    (allowed : job.allows watch.gateway action = true)
    (silent : action.opens? ≠ some (job.call, job.agentId, job.jobId))
    (stepped : Watch.step config job watch action = some after) : after.stream = watch.stream := by
  rcases Option.map_eq_some_iff.mp stepped with ⟨gateway, moved, rfl⟩
  exact if_neg fun opening =>
    silent (sound.opening allowed moved opening.1 opening.2).1

/-- A cancel frame that waits in the queue is noted. -/
theorem cancelQueued_of_item {gateway : State} {stream : Nat}
    (listed : some (.cancel job.jobId) ∈ (gateway.outgoing stream).items) :
    cancelQueued job gateway (some stream) = true := decide_eq_true listed

/-- A cancellation of the job that waits for room goes on waiting, or its frame
is queued. -/
theorem Sound.waits_step (sound : watch.Sound job config) {gateway : State}
    (allowed : job.allows watch.gateway action = true)
    (stepped : Gateway.step config watch.gateway action = some gateway) {stream request : Nat}
    (opened : watch.stream = some stream)
    (waits : (.canceller request, some (.cancel job.jobId)) ∈
      (watch.gateway.outgoing stream).putters) :
    (.canceller request, some (.cancel job.jobId)) ∈ (gateway.outgoing stream).putters ∨
      some (.cancel job.jobId) ∈ (gateway.outgoing stream).items := by
  have cancelling := cancelling_of_reachable sound.reached
  have greeted : (watch.gateway.streams stream).phase ≠ .awaitingHello := by
    intro awaiting
    have served := (sound.opened stream opened).2
    rw [awaiting] at served
    cases served
  exact canceller_kept_of_step cancelling stepped greeted
    (WatchedJob.keeps_of_allows allowed cancelling waits) waits

theorem Sound.cancelled_step (sound : watch.Sound job config) {gateway : State}
    (allowed : job.allows watch.gateway action = true)
    (stepped : Gateway.step config watch.gateway action = some gateway) (stream : Nat)
    (opened : watch.openedOn job gateway = some stream)
    (connected : gateway.sessions.lookup job.agentId = some stream)
    (sent : (gateway.calls job.call).job.cancelSent = true) :
    (watch.cancelPut || cancelQueued job gateway (watch.openedOn job gateway)) = true ∨
      Exists fun request : Nat =>
        (.canceller request, some (.cancel job.jobId)) ∈ (gateway.outgoing stream).putters := by
  have slotted := slotted_of_reachable sound.reached
  rw [opened]
  unfold openedOn at opened
  split at opened
  · rename_i opening
    rw [cancelSent_of_opening stepped opening.1 slotted opening.2] at sent
    cases sent
  · rcases sound.opened stream opened with ⟨busy, served⟩
    have earlier := lookup_of_step stepped served connected
    cases flag : (watch.gateway.calls job.call).job.cancelSent with
    | true =>
        rcases sound.cancelled stream opened earlier flag with put | ⟨request, waits⟩
        · exact .inl (by rw [put, Bool.true_or])
        · rcases sound.waits_step allowed stepped opened waits with still | queued
          · exact .inr ⟨request, still⟩
          · exact .inl (by rw [cancelQueued_of_item queued, Bool.or_true])
    | false =>
        rcases cancelSent_of_step stepped busy sent with known | ⟨⟨request, jobId⟩, isCancel, found⟩
        · rw [flag] at known
          cases known
        · subst isCancel
          rcases (slotted jobId job.call).mp found with ⟨holding, named⟩
          rcases sound.named holding with ⟨same, agent⟩
          dsimp only at named found stepped
          rw [← named, same] at found stepped
          rw [← agent] at earlier
          rcases put_of_cancel stepped found flag earlier with waits | queued
          · exact .inr ⟨request, waits⟩
          · exact .inl (by rw [cancelQueued_of_item queued, Bool.or_true])

theorem Sound.step (sound : watch.Sound job config)
    (allowed : job.allows watch.gateway action = true)
    (stepped : Watch.step config job watch action = some after) : after.Sound job config := by
  rcases Option.map_eq_some_iff.mp stepped with ⟨gateway, moved, rfl⟩
  have invariant := Invariant.reachable sound.reached
  refine ⟨sound.reached.next action trivial moved, ?_, ?_, ?_, ?_⟩
  · intro stream opened
    change watch.openedOn job gateway = some stream at opened
    unfold openedOn at opened
    split at opened
    · rename_i opening
      refine ⟨fun idle => ?_, ?_⟩
      · rw [idle] at opening
        cases opening.2
      · have served := (invariant.registered _ stream opened).1
        exact ((step_stream_move moved stream).served_kept served).1
    · rcases sound.opened stream opened with ⟨busy, served⟩
      exact ⟨((step_call_move moved job.call).opened_kept busy).1,
        ((step_stream_move moved stream).served_kept served).1⟩
  · intro holding
    change Exists fun stream : Nat => watch.openedOn job gateway = some stream
    by_cases idle : (watch.gateway.calls job.call).phase = .idle
    · rcases sound.opening allowed moved idle holding with ⟨_, stream, found⟩
      exact ⟨stream, (if_pos ⟨idle, holding⟩).trans found⟩
    · rw [openedOn_of_busy idle]
      exact sound.known (holding_of_step moved idle holding)
  · intro holding
    by_cases idle : (watch.gateway.calls job.call).phase = .idle
    · rcases sound.opening allowed moved idle holding with ⟨opens, _⟩
      exact ⟨jobId_of_opens moved opens idle holding, agent_of_opens moved opens idle holding⟩
    · rcases sound.named (holding_of_step moved idle holding) with ⟨named, agent⟩
      rcases (step_call_move moved job.call).opened_kept idle with ⟨_, sameId, sameAgent, _⟩
      exact ⟨sameId.trans named, sameAgent.trans agent⟩
  · exact sound.cancelled_step allowed moved

/-- What was put stays put, and a session that is gone stays gone. -/
theorem CancelReached.step (requested : watch.CancelReached job) (sound : watch.Sound job config)
    (stepped : Watch.step config job watch action = some after)
    (same : after.stream = watch.stream) : after.CancelReached job := by
  rcases Option.map_eq_some_iff.mp stepped with ⟨gateway, moved, rfl⟩
  intro stream opened connected
  rw [same] at opened
  have earlier := lookup_of_step moved (sound.opened stream opened).2 connected
  change (watch.cancelPut || _) = true
  rw [requested stream opened earlier, Bool.true_or]

theorem Awaits.step {request : Nat} (awaits : watch.Awaits job request)
    (sound : watch.Sound job config) (allowed : job.allows watch.gateway action = true)
    (stepped : Watch.step config job watch action = some after)
    (same : after.stream = watch.stream) : after.Awaits job request := by
  rcases Option.map_eq_some_iff.mp stepped with ⟨gateway, moved, rfl⟩
  change watch.openedOn job gateway = watch.stream at same
  intro stream opened connected
  change watch.openedOn job gateway = some stream at opened
  rw [same] at opened
  have earlier := lookup_of_step moved (sound.opened stream opened).2 connected
  change (watch.cancelPut || cancelQueued job gateway (watch.openedOn job gateway)) = true ∨ _
  rw [same, opened]
  rcases awaits stream opened earlier with put | waits
  · exact .inl (by rw [put, Bool.true_or])
  · rcases sound.waits_step allowed moved opened waits with still | queued
    · exact .inr still
    · exact .inl (by rw [cancelQueued_of_item queued, Bool.or_true])

/-- A cancellation that no longer waits has put its frame. -/
theorem Awaits.reached {request : Nat} (awaits : watch.Awaits job request)
    (sound : watch.Sound job config)
    (done : forall stream, watch.gateway.cancels request ≠ .waiting stream) :
    watch.CancelReached job := by
  intro stream opened connected
  rcases awaits stream opened connected with put | waits
  · exact put
  · exact absurd (cancelling_of_reachable sound.reached stream request _ waits).1 (done stream)

/-- When no cancellation of the job waits for room, a job that was cancelled
has had its frame put. -/
theorem Sound.reached_of_sent (sound : watch.Sound job config)
    (sent : (watch.gateway.calls job.call).job.cancelSent = true)
    (alone : watch.cancelWaits job = false) : watch.CancelReached job := by
  intro stream opened connected
  rcases sound.cancelled stream opened connected sent with put | ⟨request, waits⟩
  · exact put
  · unfold cancelWaits at alone
    simp only [connected] at alone
    have listed := List.any_eq_false.mp alone _ waits
    simp only [decide_true, not_true_eq_false] at listed

/-- A cancellation of an unfinished job puts its frame or waits with it, when
no other one waits. -/
theorem Sound.awaits_of_cancel (sound : watch.Sound job config) {request : Nat}
    (holding : (watch.gateway.calls job.call).phase.holding = true)
    (alone : watch.cancelWaits job = false)
    (stepped : Watch.step config job watch (.cancel request job.jobId) = some after) :
    after.Awaits job request := by
  have busy : (watch.gateway.calls job.call).phase ≠ .idle := by
    intro idle
    rw [idle] at holding
    cases holding
  cases flag : (watch.gateway.calls job.call).job.cancelSent with
  | true =>
      have requested := (sound.reached_of_sent flag alone).step sound stepped
        (stream_of_busy busy stepped)
      exact fun stream opened connected => .inl (requested stream opened connected)
  | false =>
      rcases Option.map_eq_some_iff.mp stepped with ⟨gateway, moved, rfl⟩
      intro stream opened connected
      have same : watch.openedOn job gateway = watch.stream := openedOn_of_busy busy
      change watch.openedOn job gateway = some stream at opened
      rw [same] at opened
      have earlier := lookup_of_step moved (sound.opened stream opened).2 connected
      rcases sound.named holding with ⟨named, agent⟩
      have registered := (slotted_of_reachable sound.reached _ job.call).mpr ⟨holding, named⟩
      change (watch.cancelPut || cancelQueued job gateway (watch.openedOn job gateway)) = true ∨ _
      rw [same, opened]
      rw [← agent] at earlier
      rcases put_of_cancel moved registered flag earlier with waits | queued
      · exact .inr waits
      · exact .inl (by rw [cancelQueued_of_item queued, Bool.or_true])

end Watch

end Gateway
end DjangoOps
