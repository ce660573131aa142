import DjangoOps.Gateway.Frame

namespace DjangoOps
namespace Gateway

open Protocol

/-!
# A consumer that keeps up

What the generator of a job yields while its consumer takes every frame as it
comes.  This is the behaviour that the later end-to-end results are about; it
is derived here from the steps of the gateway.
-/

/-- The frames that a generator yields, given those that the agent sends for
its job before its stream ends, when `next` is the number expected next. -/
def yielded (kind : JobKind) (jobId : String) : Nat -> List AgentFrame -> List AgentFrame
  | next, [] => [failureFrame kind jobId next .agentDisconnected]
  | next, frame :: rest =>
      if frame.sequence ≠ next then [failureFrame kind jobId next .streamOrder]
      else if frame.isTerminal then [frame]
      else frame :: yielded kind jobId (next + 1) rest

/-- The consumer of a job waits for a frame, and so does the reader of the
session of its agent. -/
structure State.Attending (state : State) (stream call : Nat) (kind : JobKind) (jobId : String)
    (next : Nat) : Prop where
  registered : state.jobs.lookup jobId = some call
  agent : (state.calls call).job.agentId = (state.streams stream).session.agentId
  sort : (state.calls call).job.kind = kind
  expected : (state.calls call).job.nextSequence = next
  queue : (state.calls call).job.queue = .empty
  receiving : (state.calls call).phase = .receiving
  reading : (state.streams stream).reader = .reading

section Steps

variable {state : State} {stream call next : Nat} {kind : JobKind} {jobId : String}

theorem State.Attending.not_full (attending : state.Attending stream call kind jobId next) :
    state.jobFull call = false := by
  unfold State.jobFull State.queue
  rw [attending.queue]
  rfl

/-- A frame with the expected number is queued. -/
theorem State.Attending.accepted (attending : state.Attending stream call kind jobId next)
    {frame : AgentFrame} (event : frame.event? = some (jobId, next)) :
    Exists fun after : State => state.readFrame stream frame = some after ∧
      after.jobs = state.jobs ∧ after.streams = state.streams ∧
      after.calls call =
        { state.calls call with
          job :=
            { (state.calls call).job with
              nextSequence := next + 1
              queue := ⟨[.forwarded stream frame], []⟩ } } := by
  refine ⟨(state.modifyJob call fun job =>
      { job with nextSequence := job.nextSequence + 1 }).putJob call (.reader stream)
        (.forwarded stream frame), ?_, rfl, rfl, ?_⟩
  · simp only [State.readFrame, attending.reading, event, State.acceptEvent,
      attending.registered, attending.agent, attending.expected, attending.not_full, if_true,
      ne_eq, not_true_eq_false, if_false, Bool.false_eq_true]
  · have room : BoundedQueue.put maxJobEvents (Task.reader stream)
        (Delivery.forwarded stream frame) .empty = ⟨[.forwarded stream frame], []⟩ := rfl
    simp only [State.putJob, State.modifyQueue, State.modifyJob, State.calls_modifyCall, if_true,
      attending.expected, attending.queue, room]

/-- A frame with another number makes the gateway fail the job. -/
theorem State.Attending.disordered (attending : state.Attending stream call kind jobId next)
    {frame : AgentFrame} {sequence : Nat} (event : frame.event? = some (jobId, sequence))
    (mismatch : sequence ≠ next) :
    Exists fun after : State => state.readFrame stream frame = some after ∧
      after.calls call =
        { state.calls call with
          job :=
            { (state.calls call).job with
              queue := ⟨[.failure kind jobId next .streamOrder], []⟩ } } := by
  refine ⟨(state.putJob call (.reader stream)
      (.failure kind jobId next .streamOrder)).readerPutCancel stream jobId, ?_, ?_⟩
  · simp only [State.readFrame, attending.reading, event, State.acceptEvent,
      attending.registered, attending.agent, attending.expected, attending.sort,
      attending.not_full, if_true, ne_eq, not_true_eq_false, not_false_eq_true, mismatch, if_false,
      Bool.false_eq_true]
  · have room : BoundedQueue.put maxJobEvents (Task.reader stream)
        (Delivery.failure kind jobId next .streamOrder) .empty =
          ⟨[.failure kind jobId next .streamOrder], []⟩ := rfl
    simp only [State.readerPutCancel, State.setReader, State.putOutgoing, State.modifyOutgoing,
      State.calls_modifyStream, State.putJob, State.modifyQueue, State.modifyJob,
      State.calls_modifyCall, if_true, attending.queue, room]

/-- `_disconnect` fails a job whose queue is empty with the expected number. -/
theorem State.failNext_job {remaining : List (String × Nat)}
    (agent : (state.calls call).job.agentId = (state.streams stream).session.agentId)
    (queue : (state.calls call).job.queue = .empty)
    (phase : (state.streams stream).phase = .failing ((jobId, call) :: remaining)) :
    Exists fun after : State => state.failNext stream = some after ∧
      after.calls call =
        { state.calls call with
          job :=
            { (state.calls call).job with
              queue := ⟨[.failure (state.calls call).job.kind jobId
                (state.calls call).job.nextSequence .agentDisconnected], []⟩ } } := by
  refine ⟨(state.putJob call (.connect stream) (.failure (state.calls call).job.kind jobId
      (state.calls call).job.nextSequence .agentDisconnected)).setConnect stream
        (if state.jobFull call then .failWaiting call remaining else .failing remaining), ?_, ?_⟩
  · simp only [State.failNext, phase, agent, if_true]
  · have room : forall delivery : Delivery, BoundedQueue.put maxJobEvents (Task.connect stream)
        delivery .empty = ⟨[delivery], []⟩ := fun _ => rfl
    simp only [State.setConnect, State.calls_modifyStream, State.putJob, State.modifyQueue,
      State.modifyJob, State.calls_modifyCall, if_true, queue, room]

/-- The consumer takes the only frame of its queue. -/
theorem State.deliver_single {delivery : Delivery}
    (receiving : (state.calls call).phase = .receiving)
    (queue : (state.calls call).job.queue = ⟨[delivery], []⟩) :
    Exists fun after : State => state.deliver call = some after ∧
      after.jobs = state.jobs ∧ after.streams = state.streams ∧
      after.calls call =
        { state.calls call with
          job := { (state.calls call).job with queue := .empty }
          phase := .delivered delivery
          received := (state.calls call).received ++ [delivery] } := by
  refine ⟨(state.modifyQueue call fun _ => .empty).modifyCall call fun record =>
      { record with phase := .delivered delivery, received := record.received ++ [delivery] },
    ?_, rfl, rfl, ?_⟩
  · simp only [State.deliver, receiving, if_true, State.queue, queue, BoundedQueue.get,
      Option.map_some]
    rfl
  · simp only [State.modifyQueue, State.modifyJob, State.calls_modifyCall, if_true]

/-- A frame that does not end the job is passed on, and both wait again. -/
theorem State.Attending.passed_on (config : GatewayConfig)
    (attending : state.Attending stream call kind jobId next) {frame : AgentFrame}
    (event : frame.event? = some (jobId, next)) :
    Exists fun after : State =>
      Relation.ReflTransGen ((machine config).StepUnder fun _ _ => True) state after ∧
        (after.calls call).received =
          (state.calls call).received ++ [.forwarded stream frame] ∧
        (frame.isTerminal = false -> after.Attending stream call kind jobId (next + 1)) := by
  rcases attending.accepted event with ⟨queued, read, queuedJobs, queuedStreams, queuedCall⟩
  have receiving : (queued.calls call).phase = .receiving := by
    rw [queuedCall]
    exact attending.receiving
  have single : (queued.calls call).job.queue = ⟨[.forwarded stream frame], []⟩ := by
    rw [queuedCall]
  rcases State.deliver_single receiving single with
    ⟨taken, delivered, takenJobs, takenStreams, takenCall⟩
  have path : Relation.ReflTransGen ((machine config).StepUnder fun _ _ => True) state taken :=
    .tail (.single ⟨.readFrame stream frame, trivial, read⟩) ⟨.deliver call, trivial, delivered⟩
  cases terminal : frame.isTerminal with
  | true =>
      refine ⟨taken, path, ?_, nofun⟩
      rw [takenCall, queuedCall]
  | false =>
      have phase : (taken.calls call).phase = .delivered (.forwarded stream frame) := by
        rw [takenCall]
      have unfinished : (Delivery.forwarded stream frame).isTerminal = false := terminal
      have advanced : taken.advance call = some (taken.setCall call .receiving) := by
        simp only [State.advance, phase, unfinished, Bool.false_eq_true, if_false]
      have calls : (taken.setCall call .receiving).calls call =
          { taken.calls call with phase := .receiving } := taken.calls_setCall_self call _
      refine ⟨taken.setCall call .receiving, path.tail ⟨.advance call, trivial, advanced⟩, ?_,
        fun _ => ?_⟩
      · rw [calls, takenCall, queuedCall]
      · refine ⟨?_, ?_, ?_, ?_, ?_, ?_, ?_⟩
        · change taken.jobs.lookup jobId = some call
          rw [takenJobs, queuedJobs]
          exact attending.registered
        · change _ = (taken.streams stream).session.agentId
          rw [calls, takenCall, queuedCall, takenStreams, queuedStreams]
          exact attending.agent
        · rw [calls, takenCall, queuedCall]
          exact attending.sort
        · rw [calls, takenCall, queuedCall]
        · rw [calls, takenCall, queuedCall]
        · rw [calls]
        · change (taken.streams stream).reader = .reading
          rw [takenStreams, queuedStreams]
          exact attending.reading

/-- The clean-up of the stream fails a waiting job, and its consumer gets the
failure frame. -/
theorem disconnected_of_steps (config : GatewayConfig) {remaining : List (String × Nat)}
    (agent : (state.calls call).job.agentId = (state.streams stream).session.agentId)
    (sort : (state.calls call).job.kind = kind)
    (expected : (state.calls call).job.nextSequence = next)
    (queue : (state.calls call).job.queue = .empty)
    (receiving : (state.calls call).phase = .receiving)
    (phase : (state.streams stream).phase = .failing ((jobId, call) :: remaining)) :
    Exists fun after : State =>
      Relation.ReflTransGen ((machine config).StepUnder fun _ _ => True) state after ∧
        (after.calls call).received.map Delivery.frame =
          (state.calls call).received.map Delivery.frame ++
            [failureFrame kind jobId next .agentDisconnected] := by
  rcases State.failNext_job agent queue phase with ⟨failed, stepped, failedCall⟩
  rw [sort, expected] at failedCall
  have still : (failed.calls call).phase = .receiving := by
    rw [failedCall]
    exact receiving
  have single : (failed.calls call).job.queue =
      ⟨[.failure kind jobId next .agentDisconnected], []⟩ := by
    rw [failedCall]
  rcases State.deliver_single still single with ⟨taken, delivered, _, _, takenCall⟩
  refine ⟨taken, .tail (.single ⟨.failNext stream, trivial, stepped⟩)
    ⟨.deliver call, trivial, delivered⟩, ?_⟩
  rw [takenCall, failedCall, List.map_append]
  rfl

end Steps

/-- Steps of the gateway lead to a state in which the consumer has received
what the generator yields, or all of it but the failure frame that follows
when the stream ends. -/
theorem yielded_of_steps (config : GatewayConfig) {stream call : Nat} {kind : JobKind}
    {jobId : String} (frames : List AgentFrame)
    (own : forall frame, frame ∈ frames ->
      Exists fun sequence : Nat => frame.event? = some (jobId, sequence))
    {state : State} {next : Nat} (attending : state.Attending stream call kind jobId next) :
    Exists fun after : State =>
      Relation.ReflTransGen ((machine config).StepUnder fun _ _ => True) state after ∧
        ((after.calls call).received.map Delivery.frame =
            (state.calls call).received.map Delivery.frame ++ yielded kind jobId next frames ∨
          Exists fun last : Nat => after.Attending stream call kind jobId last ∧
            (after.calls call).received.map Delivery.frame ++
                [failureFrame kind jobId last .agentDisconnected] =
              (state.calls call).received.map Delivery.frame ++
                yielded kind jobId next frames) := by
  induction frames generalizing state next with
  | nil => exact ⟨state, .refl, .inr ⟨next, attending, rfl⟩⟩
  | cons frame rest inductionHypothesis =>
      rcases own frame (.head _) with ⟨sequence, event⟩
      have number : frame.sequence = sequence := by
        unfold AgentFrame.sequence
        rw [event]
        rfl
      by_cases same : sequence = next
      · subst same
        rcases attending.passed_on config event with ⟨middle, path, received, again⟩
        cases terminal : frame.isTerminal with
        | true =>
            refine ⟨middle, path, .inl ?_⟩
            simp only [received, List.map_append, List.map_cons, List.map_nil, yielded, number,
              ne_eq, not_true_eq_false, if_false, terminal, if_true]
            rfl
        | false =>
            rcases inductionHypothesis (fun other listed => own other (.tail _ listed))
                (again terminal) with ⟨after, further, outcome⟩
            have unfolded : yielded kind jobId sequence (frame :: rest) =
                frame :: yielded kind jobId (sequence + 1) rest := by
              simp only [yielded, number, ne_eq, not_true_eq_false, if_false, terminal,
                Bool.false_eq_true]
            have split : (middle.calls call).received.map Delivery.frame ++
                  yielded kind jobId (sequence + 1) rest =
                (state.calls call).received.map Delivery.frame ++
                  yielded kind jobId sequence (frame :: rest) := by
              rw [received, unfolded, List.map_append, List.append_assoc]
              rfl
            rw [split] at outcome
            exact ⟨after, path.trans further, outcome⟩
      · rcases attending.disordered event same with ⟨queued, read, queuedCall⟩
        have receiving : (queued.calls call).phase = .receiving := by
          rw [queuedCall]
          exact attending.receiving
        have single : (queued.calls call).job.queue =
            ⟨[.failure kind jobId next .streamOrder], []⟩ := by
          rw [queuedCall]
        rcases State.deliver_single receiving single with ⟨taken, delivered, _, _, takenCall⟩
        refine ⟨taken, .tail (.single ⟨.readFrame stream frame, trivial, read⟩)
          ⟨.deliver call, trivial, delivered⟩, .inl ?_⟩
        rw [takenCall, queuedCall]
        simp only [List.map_append, List.map_cons, List.map_nil, yielded, number, ne_eq, same,
          not_false_eq_true, if_true]
        rfl

end Gateway
end DjangoOps
