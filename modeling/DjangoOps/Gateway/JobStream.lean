import DjangoOps.Foundation.NumberedStream
import DjangoOps.Gateway.Isolation

namespace DjangoOps
namespace Gateway

open Protocol NumberedStream

/-!
# The frames a consumer receives

A generator call owns one job queue.  Its consumer reads the queue up to the
first terminal frame.  The reader of the agent's session advances
`next_sequence` before it puts a frame, and the queue is bounded, so the
number of an accepted frame is used up even when the frame is lost.  This
module separates what holds in every run (who made the frames, and which of
them ends the stream) from the numbering, which needs that no accepted frame
is lost or overtaken while it waits for room.
-/

/-! ## The origin of frames -/

/-- Everything that a consumer has received or may still receive. -/
def Call.frames (record : Call) : List Delivery := record.received ++ record.job.queue.pending

/-- An agent's frame came through a session of the agent of the job. -/
def State.OwnOrigin (state : State) (agentId : String) (delivery : Delivery) : Prop :=
  forall stream, delivery.origin = .agent stream ->
    (state.streams stream).phase.served = true ∧
      (state.streams stream).session.agentId = agentId

section Origin

variable {config : GatewayConfig} {before after : State} {action : Action}

theorem State.ownOrigin_of_gateway {state : State} {agentId : String} {delivery : Delivery}
    (made : delivery.origin = .gateway) : state.OwnOrigin agentId delivery := by
  intro stream agent
  rw [made] at agent
  cases agent

/-- A registered session is not taken over by another agent. -/
theorem State.ownOrigin_step {agentId : String} {delivery : Delivery}
    (own : before.OwnOrigin agentId delivery)
    (stepped : step config before action = some after) : after.OwnOrigin agentId delivery := by
  intro stream agent
  rcases own stream agent with ⟨served, named⟩
  rcases (step_stream_move stepped stream).served_kept served with ⟨still, same⟩
  exact ⟨still, same.trans named⟩

/-- A reader that receives frames belongs to a registered session. -/
theorem Invariant.served_of_reading {state : State} (invariant : Invariant config state)
    {stream : Nat} (reading : (state.streams stream).reader = .reading) :
    (state.streams stream).phase.served = true := by
  cases served : (state.streams stream).phase.served with
  | true => rfl
  | false =>
      rw [invariant.unread stream served] at reading
      cases reading

/-- A step adds to the frames of a call at most one new frame, of the agent of
the job or of the gateway, and only to a job that is open. -/
theorem Invariant.mem_frames (invariant : Invariant config before) {call : Nat} {record : Call}
    (move : CallMove before call action record) {delivery : Delivery}
    (member : delivery ∈ record.frames) :
    delivery ∈ (before.calls call).frames ∨
      ((before.calls call).phase ≠ .idle ∧
        before.OwnOrigin (before.calls call).job.agentId delivery) := by
  have put : forall (task : Task) (item : Delivery),
      delivery ∈ (before.calls call).received ++
        ((before.queue call).put maxJobEvents task item).pending ->
      delivery ∈ (before.calls call).frames ∨ delivery = item := by
    intro task item listed
    rcases List.mem_append.mp listed with received | pending
    · exact .inl (List.mem_append.mpr (.inl received))
    · rcases (BoundedQueue.mem_pending_put _ _ _ _ _).mp pending with earlier | same
      · exact .inl (List.mem_append.mpr (.inr earlier))
      · exact .inr same
  cases move with
  | opened =>
      rcases List.mem_append.mp member with received | pending
      · exact .inl (List.mem_append.mpr (.inl received))
      · cases pending
  | accepted stream jobId frame reading event registered agent =>
      rcases put _ _ member with earlier | same
      · exact .inl earlier
      · subst same
        refine .inr ⟨(invariant.opened jobId call registered).1, ?_⟩
        rintro source ⟨⟩
        exact ⟨invariant.served_of_reading reading, agent.symm⟩
  | disordered stream jobId frame sequence reading event mismatch registered =>
      rcases put _ _ member with earlier | same
      · exact .inl earlier
      · subst same
        exact .inr ⟨(invariant.opened jobId call registered).1,
          State.ownOrigin_of_gateway rfl⟩
  | failed stream jobId remaining phase =>
      rcases put _ _ member with earlier | same
      · exact .inl earlier
      · subst same
        refine .inr ⟨?_, State.ownOrigin_of_gateway rfl⟩
        exact invariant.remaining stream (jobId, call) (by rw [phase]; exact .head _)
  | admitted _ _ _ resume =>
      rcases List.mem_append.mp member with received | pending
      · exact .inl (List.mem_append.mpr (.inl received))
      · exact .inl (List.mem_append.mpr (.inr (BoundedQueue.mem_pending_resume resume pending)))
  | withdrawn =>
      rcases List.mem_append.mp member with received | pending
      · exact .inl (List.mem_append.mpr (.inl received))
      · exact .inl (List.mem_append.mpr (.inr (BoundedQueue.mem_pending_withdraw pending)))
  | delivered taken rest _ get =>
      refine .inl ?_
      change delivery ∈ _ ++ (before.queue call).pending
      rw [BoundedQueue.pending_get get]
      change delivery ∈ ((before.calls call).received ++ [taken]) ++ rest.pending at member
      rwa [List.append_assoc] at member
  | _ => exact .inl member

end Origin

/-- Every frame on its way to a consumer, or received by it, was sent by the
agent of the job or made by the gateway. -/
def State.OwnFrames (state : State) : Prop :=
  forall call delivery, delivery ∈ (state.calls call).frames ->
    (state.calls call).phase ≠ .idle ∧ state.OwnOrigin (state.calls call).job.agentId delivery

theorem ownFrames_of_reachable {config : GatewayConfig} {state : State}
    (reached : (machine config).Reachable state) : state.OwnFrames := by
  refine reached.invariant ?_ ?_
  · rintro start ⟨⟩ call delivery impossible
    cases impossible
  · intro before action after earlier inductionHypothesis _ stepped call delivery member
    have invariant := Invariant.reachable earlier.reachable
    have move := step_call_move stepped call
    have owned : (before.calls call).phase ≠ .idle ∧
        before.OwnOrigin (before.calls call).job.agentId delivery := by
      rcases invariant.mem_frames move member with known | new
      · exact inductionHypothesis call delivery known
      · exact new
    rcases move.opened_kept owned.1 with ⟨busy, _, agent, _⟩
    rw [agent]
    exact ⟨busy, State.ownOrigin_step owned.2 stepped⟩

/-! ## Which received frame is terminal -/

/-- What the position of a generator says about the frames it has yielded. -/
def Call.Paced (record : Call) : Prop :=
  match record.phase with
  | .idle => record.received = []
  | .delivered delivery =>
      Exists fun earlier : List Delivery => record.received = earlier ++ [delivery] ∧
        Open Delivery.isTerminal earlier
  | .closing true | .finished true =>
      Exists fun earlier : List Delivery => Exists fun last : Delivery =>
        record.received = earlier ++ [last] ∧ Open Delivery.isTerminal earlier ∧
          last.isTerminal = true
  | .closing false | .finished false | .leaked =>
      Open Delivery.isTerminal record.received.dropLast
  | .refused _ | .dropping | .requesting _ | .receiving =>
      Open Delivery.isTerminal record.received

/-- In every position all received frames but the last are not terminal. -/
theorem Call.Paced.open_dropLast {record : Call} (paced : record.Paced) :
    Open Delivery.isTerminal record.received.dropLast := by
  unfold Paced at paced
  split at paced
  · rw [paced]
    exact open_nil
  · rcases paced with ⟨earlier, received, opened⟩
    rw [received, List.dropLast_concat]
    exact opened
  · rcases paced with ⟨earlier, last, received, opened, _⟩
    rw [received, List.dropLast_concat]
    exact opened
  · rcases paced with ⟨earlier, last, received, opened, _⟩
    rw [received, List.dropLast_concat]
    exact opened
  · exact paced
  · exact paced
  · exact paced
  · exact NumberedStream.open_dropLast paced
  · exact NumberedStream.open_dropLast paced
  · exact NumberedStream.open_dropLast paced
  · exact NumberedStream.open_dropLast paced

theorem CallMove.paced {before : State} {call : Nat} {action : Action} {record : Call}
    (move : CallMove before call action record) (paced : (before.calls call).Paced) :
    record.Paced := by
  cases move with
  | same => exact paced
  | refused _ _ _ phase =>
      change Open _ _
      rcases phase with idle | dropping
      · rw [Call.Paced, idle] at paced
        rw [paced]
        exact open_nil
      · rw [Call.Paced, dropping] at paced
        exact paced
  | opened _ _ _ _ _ _ idle active =>
      rw [Call.Paced, idle] at paced
      rcases active with phase | phase | ⟨stream, phase⟩ <;> subst phase <;>
        · change Open _ (before.calls call).received
          rw [paced]
          exact open_nil
  | accepted => exact paced
  | disordered => exact paced
  | failed => exact paced
  | admitted => exact paced
  | withdrawn => exact paced
  | requested _ phase =>
      rw [Call.Paced, phase] at paced
      exact paced
  | delivered _ _ phase =>
      rw [Call.Paced, phase] at paced
      exact ⟨(before.calls call).received, rfl, paced⟩
  | advanced delivery phase =>
      rw [Call.Paced, phase] at paced
      rcases paced with ⟨earlier, received, opened⟩
      cases terminal : delivery.isTerminal with
      | true => exact ⟨earlier, delivery, received, opened, terminal⟩
      | false =>
          change Open _ (before.calls call).received
          rw [received]
          exact open_append.mpr ⟨opened, open_singleton.mpr terminal⟩
  | abandoned _ _ left =>
      rcases left with phase | phase <;> subst phase <;> exact paced.open_dropLast
  | finished exhausted phase =>
      rw [Call.Paced, phase] at paced
      cases exhausted <;> exact paced
  | cancelled => exact paced

def State.Paced (state : State) : Prop := forall call, (state.calls call).Paced

theorem paced_of_reachable {config : GatewayConfig} {state : State}
    (reached : (machine config).Reachable state) : state.Paced := by
  refine reached.invariant ?_ ?_
  · rintro start ⟨⟩ call
    exact rfl
  · intro before action after _ inductionHypothesis _ stepped call
    exact (step_call_move stepped call).paced (inductionHypothesis call)

/-! ## Numbering -/

/-- What has entered the queue of a job, whether it was read or not. -/
def Call.queued (record : Call) : List Delivery := record.received ++ record.job.queue.items

namespace State

/-- A terminal frame has entered the queue: what follows is never read. -/
def settled (state : State) (call : Nat) : Bool :=
  (state.calls call).queued.any Delivery.isTerminal

/-- The action cancels a reader that is suspended on a full job queue with a
frame it has accepted. -/
def losesFrame (state : State) (action : Action) : Bool :=
  match state.cancelsReader action with
  | none => false
  | some stream =>
      match (state.streams stream).reader.job? with
      | none => false
      | some call =>
          !state.settled call && (state.queue call).putters.any fun entry =>
            decide (entry.1 = .reader stream ∧ entry.2.origin ≠ .gateway)

/-- The job on whose queue an action puts a frame, and whether it is a frame
that the agent sent. -/
def offer? (state : State) : Action -> Option (Nat × Bool)
  | .readFrame stream frame =>
      match frame.event? with
      | none => none
      | some (jobId, sequence) =>
          match state.jobs.lookup jobId with
          | none => none
          | some call =>
              if (state.calls call).job.agentId = (state.streams stream).session.agentId then
                some (call, decide (sequence = (state.calls call).job.nextSequence))
              else none
  | .failNext stream =>
      match (state.streams stream).phase with
      | .failing ((_, call) :: _) =>
          if (state.calls call).job.agentId = (state.streams stream).session.agentId then
            some (call, false)
          else none
      | _ => none
  | _ => none

/-- The action puts a frame on a job queue while another put on it is still
suspended, and one of the two frames is an agent's. -/
def overtakes (state : State) (action : Action) : Bool :=
  match state.offer? action with
  | none => false
  | some (call, forwarded) =>
      !state.settled call && (state.queue call).putters.any fun entry =>
        forwarded || decide (entry.2.origin ≠ .gateway)

theorem settled_eq_false {state : State} {call : Nat} :
    state.settled call = false <-> Open Delivery.isTerminal (state.calls call).queued := by
  unfold settled Open
  rw [List.any_eq_false]
  simp only [Bool.not_eq_true]

end State

/-- No accepted frame is lost or overtaken by this step.  A frame is lost when the
reader that puts it on a full queue is cancelled, and overtaken when another task
puts its frame while the reader still waits. -/
def KeepsOrder (state : State) (action : Action) : Prop :=
  state.losesFrame action = false ∧ state.overtakes action = false

instance (state : State) (action : Action) : Decidable (KeepsOrder state action) :=
  inferInstanceAs (Decidable (_ ∧ _))

/-- The queue continues what was received without a gap.  While no terminal
frame has entered it, either only failure frames wait for room, all with the
number that is expected next, or one accepted frame does. -/
structure Call.Aligned (record : Call) : Prop where
  numbered : Numbered Delivery.sequence Delivery.isTerminal 1 record.queued
  waiting : Open Delivery.isTerminal record.queued ->
    (record.job.nextSequence = 1 + record.queued.length ∧
      forall entry, entry ∈ record.job.queue.putters ->
        entry.2.origin = .gateway ∧ entry.2.sequence = record.job.nextSequence) ∨
    (record.job.nextSequence = 2 + record.queued.length ∧
      Exists fun stream : Nat => Exists fun delivery : Delivery =>
        record.job.queue.putters = [(.reader stream, delivery)] ∧
          delivery.origin ≠ .gateway ∧ delivery.sequence = 1 + record.queued.length)

section Numbering

variable {config : GatewayConfig} {before after : State} {action : Action} {call : Nat}

/-- While an agent's frame is put, nobody waits. -/
theorem putters_of_accepted {stream : Nat} {jobId : String} {frame : AgentFrame}
    (alone : before.overtakes (.readFrame stream frame) = false)
    (event : frame.event? = some (jobId, (before.calls call).job.nextSequence))
    (registered : before.jobs.lookup jobId = some call)
    (agent : (before.calls call).job.agentId = (before.streams stream).session.agentId)
    (opened : Open Delivery.isTerminal (before.calls call).queued) :
    (before.queue call).putters = [] := by
  simp only [State.overtakes, State.offer?, event, registered, if_pos agent, decide_true,
    State.settled_eq_false.mpr opened, Bool.not_false, Bool.true_and, Bool.true_or] at alone
  cases putters : (before.queue call).putters with
  | nil => rfl
  | cons entry rest =>
      rw [putters] at alone
      cases alone

/-- While a failure frame is put, no agent's frame waits. -/
theorem putters_of_failure (forwarded : Bool) (alone : before.overtakes action = false)
    (offer : before.offer? action = some (call, forwarded))
    (opened : Open Delivery.isTerminal (before.calls call).queued)
    (entry : Task × Delivery) (member : entry ∈ (before.queue call).putters) :
    entry.2.origin = .gateway := by
  simp only [State.overtakes, offer, State.settled_eq_false.mpr opened, Bool.not_false,
    Bool.true_and, List.any_eq_false, Bool.or_eq_true, decide_eq_true_eq, not_or, ne_eq,
    not_not] at alone
  exact (alone entry member).2

/-- Putting a failure frame with the expected number keeps the alignment. -/
theorem Call.Aligned.put_failure (aligned : (before.calls call).Aligned) {task : Task}
    {delivery : Delivery} (made : delivery.origin = .gateway)
    (next : delivery.sequence = (before.calls call).job.nextSequence)
    (noFrame : Open Delivery.isTerminal (before.calls call).queued ->
      forall entry, entry ∈ (before.queue call).putters -> entry.2.origin = .gateway) :
    Call.Aligned { before.calls call with
      job := { (before.calls call).job with
        queue := (before.queue call).put maxJobEvents task delivery } } := by
  have expected : Open Delivery.isTerminal (before.calls call).queued ->
      (before.calls call).job.nextSequence = 1 + (before.calls call).queued.length ∧
      forall entry, entry ∈ (before.calls call).job.queue.putters ->
        entry.2.origin = .gateway ∧
          entry.2.sequence = (before.calls call).job.nextSequence := by
    intro opened
    rcases aligned.waiting opened with failures | ⟨_, stream, other, putters, sent, _⟩
    · exact failures
    · exact absurd (noFrame opened _ (by
        change _ ∈ (before.calls call).job.queue.putters
        rw [putters]
        exact .head _)) sent
  rcases (before.queue call).put_cases maxJobEvents task delivery with suspended | queued
  · rw [suspended]
    refine ⟨aligned.numbered, fun opened => .inl ?_⟩
    rcases expected opened with ⟨count, failures⟩
    refine ⟨count, fun entry member => ?_⟩
    rcases List.mem_append.mp member with earlier | new
    · exact failures entry earlier
    · rw [List.mem_singleton.mp new]
      exact ⟨made, next⟩
  · rw [queued]
    have whole : Call.queued { before.calls call with
        job := { (before.calls call).job with
          queue := { before.queue call with items := (before.queue call).items ++ [delivery] } } } =
        (before.calls call).queued ++ [delivery] :=
      (List.append_assoc _ _ _).symm
    refine ⟨?_, ?_⟩
    · rw [whole]
      refine numbered_append.mpr ⟨aligned.numbered, fun opened => ?_⟩
      rw [next, (expected opened).1]
    · rw [whole]
      intro opened
      have terminal := Delivery.isTerminal_of_gateway made
      rw [open_singleton.mp (open_append.mp opened).2] at terminal
      cases terminal

/-- Putting an accepted frame uses the expected number up. -/
theorem Call.Aligned.put_frame (aligned : (before.calls call).Aligned) {stream : Nat}
    {delivery : Delivery} (sent : delivery.origin ≠ .gateway)
    (next : delivery.sequence = (before.calls call).job.nextSequence)
    (alone : Open Delivery.isTerminal (before.calls call).queued ->
      (before.queue call).putters = []) :
    Call.Aligned { before.calls call with
      job := { (before.calls call).job with
        nextSequence := (before.calls call).job.nextSequence + 1
        queue := (before.queue call).put maxJobEvents (.reader stream) delivery } } := by
  have expected : Open Delivery.isTerminal (before.calls call).queued ->
      (before.calls call).job.nextSequence = 1 + (before.calls call).queued.length := by
    intro opened
    rcases aligned.waiting opened with failures | ⟨_, other, _, putters, _⟩
    · exact failures.1
    · have empty := alone opened
      rw [State.queue, putters] at empty
      cases empty
  rcases (before.queue call).put_cases maxJobEvents (.reader stream) delivery with suspended | queued
  · rw [suspended]
    refine ⟨aligned.numbered, fun opened => .inr ⟨?_, stream, delivery, ?_, sent, ?_⟩⟩
    · change (before.calls call).job.nextSequence + 1 = 2 + (before.calls call).queued.length
      rw [expected opened]
      omega
    · change (before.queue call).putters ++ _ = _
      rw [alone opened, List.nil_append]
    · exact next.trans (expected opened)
  · rw [queued]
    have whole : Call.queued { before.calls call with
        job := { (before.calls call).job with
          nextSequence := (before.calls call).job.nextSequence + 1
          queue := { before.queue call with items := (before.queue call).items ++ [delivery] } } } =
        (before.calls call).queued ++ [delivery] :=
      (List.append_assoc _ _ _).symm
    refine ⟨?_, ?_⟩
    · rw [whole]
      refine numbered_append.mpr ⟨aligned.numbered, fun opened => ?_⟩
      rw [next, expected opened]
    · rw [whole]
      intro opened
      have earlier := (open_append.mp opened).1
      refine .inl ⟨?_, ?_⟩
      · rw [List.length_append]
        change (before.calls call).job.nextSequence + 1 = _
        rw [expected earlier, List.length_singleton]
        omega
      · intro entry member
        change entry ∈ (before.queue call).putters at member
        rw [alone earlier] at member
        cases member

/-- A suspended put gets room. -/
theorem Call.Aligned.admitted (aligned : (before.calls call).Aligned) {task : Task}
    {queue : BoundedQueue Task Delivery}
    (resume : (before.queue call).resume maxJobEvents task = some queue) :
    Call.Aligned { before.calls call with
      job := { (before.calls call).job with queue := queue } } := by
  rcases BoundedQueue.resume_eq_some resume with ⟨delivery, member, items, putters⟩
  have whole : Call.queued { before.calls call with
      job := { (before.calls call).job with queue := queue } } =
      (before.calls call).queued ++ [delivery] := by
    change (before.calls call).received ++ queue.items = _
    rw [items]
    exact (List.append_assoc _ _ _).symm
  refine ⟨?_, ?_⟩
  · rw [whole]
    refine numbered_append.mpr ⟨aligned.numbered, fun opened => ?_⟩
    rcases aligned.waiting opened with ⟨count, failures⟩ | ⟨_, stream, single, only, _, number⟩
    · rw [(failures (task, delivery) member).2, count]
    · rw [State.queue, only] at member
      cases List.mem_singleton.mp member
      exact number
  · rw [whole]
    intro opened
    rcases open_append.mp opened with ⟨earlier, last⟩
    rcases aligned.waiting earlier with ⟨_, failures⟩ | ⟨count, stream, single, only, _, _⟩
    · have terminal := Delivery.isTerminal_of_gateway (failures (task, delivery) member).1
      rw [open_singleton.mp last] at terminal
      cases terminal
    · refine .inl ⟨?_, ?_⟩
      · rw [List.length_append, List.length_singleton]
        change (before.calls call).job.nextSequence = _
        rw [count]
        omega
      · intro entry listed
        change entry ∈ queue.putters at listed
        rw [State.queue, only] at member putters
        cases List.mem_singleton.mp member
        rw [putters] at listed
        have nowhere := (List.mem_filter.mp listed).2
        rw [List.mem_singleton.mp (List.mem_of_mem_filter listed)] at nowhere
        exact absurd rfl (of_decide_eq_true nowhere)

/-- A suspended put is abandoned.  It is not that of the reader, because then an
accepted frame would be lost. -/
theorem Call.Aligned.withdrawn (aligned : (before.calls call).Aligned) {task : Task}
    (kept : before.losesFrame action = false) (waiting : before.Waits task call)
    (cause : forall stream, task = .reader stream -> before.cancelsReader action = some stream) :
    Call.Aligned { before.calls call with
      job := { (before.calls call).job with queue := (before.queue call).withdraw task } } := by
  refine ⟨aligned.numbered, fun opened => ?_⟩
  rcases aligned.waiting opened with ⟨count, failures⟩ | ⟨count, stream, delivery, only, sent, number⟩
  · exact .inl ⟨count, fun entry member => failures entry (List.mem_of_mem_filter member)⟩
  · by_cases own : task = .reader stream
    · subst own
      have reader : (before.streams stream).reader.job? = some call := by
        rcases waiting with reader | ⟨jobId, reader⟩ <;> rw [reader] <;> rfl
      simp only [State.losesFrame, cause stream rfl, reader, State.settled_eq_false.mpr opened,
        Bool.not_false, Bool.true_and, State.queue, only, List.any_cons, List.any_nil,
        Bool.or_false, decide_eq_false_iff_not, true_and, ne_eq, not_not] at kept
      exact absurd kept sent
    · refine .inr ⟨count, stream, delivery, ?_, sent, number⟩
      exact BoundedQueue.putters_withdraw_of_ne (Ne.symm own) only

/-- The consumer takes the oldest frame. -/
theorem Call.Aligned.delivered (aligned : (before.calls call).Aligned) {delivery : Delivery}
    {rest : BoundedQueue Task Delivery} {phase : CallPhase}
    (taken : (before.queue call).get = some (delivery, rest)) :
    Call.Aligned { before.calls call with
      job := { (before.calls call).job with queue := rest }
      phase := phase
      received := (before.calls call).received ++ [delivery] } := by
  have whole : Call.queued { before.calls call with
      job := { (before.calls call).job with queue := rest }
      phase := phase
      received := (before.calls call).received ++ [delivery] } = (before.calls call).queued := by
    change ((before.calls call).received ++ [delivery]) ++ rest.items =
      (before.calls call).received ++ (before.queue call).items
    rw [BoundedQueue.items_get taken, List.append_assoc]
    rfl
  have putters : rest.putters = (before.queue call).putters := BoundedQueue.putters_get taken
  refine ⟨?_, ?_⟩
  · rw [whole]
    exact aligned.numbered
  · rw [whole]
    change _ -> (_ ∧ forall entry, entry ∈ rest.putters -> _) ∨
      (_ ∧ Exists fun stream : Nat => Exists fun single : Delivery => rest.putters = _ ∧ _)
    rw [putters]
    exact aligned.waiting

/-- A step that keeps the order keeps the alignment of every call. -/
theorem Call.Aligned.step (aligned : (before.calls call).Aligned) (paced : (before.calls call).Paced)
    (kept : KeepsOrder before action) {record : Call}
    (move : CallMove before call action record) : record.Aligned := by
  cases move with
  | same => exact aligned
  | refused => exact ⟨aligned.numbered, aligned.waiting⟩
  | opened _ agentId jobId kind phase _ idle =>
      rw [Call.Paced, idle] at paced
      have whole : Call.queued { before.calls call with
          jobId := jobId, job := .new agentId kind, phase := phase } = [] := by
        change (before.calls call).received ++ [] = []
        rw [paced]
        rfl
      refine ⟨?_, fun _ => .inl ⟨?_, fun _ impossible => nomatch impossible⟩⟩
      · rw [whole]
        exact trivial
      · rw [whole]
        rfl
  | accepted stream jobId frame reading event registered agent =>
      refine aligned.put_frame (nofun) ?_ (putters_of_accepted kept.2 event registered agent)
      simp only [Delivery.sequence, Delivery.forwarded, AgentFrame.sequence, event,
        Option.map_some, Option.getD_some]
  | disordered stream jobId frame sequence reading event mismatch registered agent =>
      refine aligned.put_failure rfl (Delivery.failure_sequence _ _ _ _) ?_
      refine putters_of_failure false kept.2 ?_
      simp only [State.offer?, event, registered, if_pos agent, decide_eq_false mismatch]
  | failed stream jobId remaining phase agent =>
      refine aligned.put_failure rfl (Delivery.failure_sequence _ _ _ _) ?_
      refine putters_of_failure false kept.2 ?_
      simp only [State.offer?, phase, if_pos agent]
  | admitted _ _ _ resume => exact aligned.admitted resume
  | withdrawn _ _ waiting _ cause => exact aligned.withdrawn kept.1 waiting cause
  | requested => exact ⟨aligned.numbered, aligned.waiting⟩
  | delivered _ _ _ taken => exact aligned.delivered taken
  | advanced => exact ⟨aligned.numbered, aligned.waiting⟩
  | abandoned => exact ⟨aligned.numbered, aligned.waiting⟩
  | finished => exact ⟨aligned.numbered, aligned.waiting⟩
  | cancelled => exact ⟨aligned.numbered, aligned.waiting⟩

end Numbering

def State.Aligned (state : State) : Prop := forall call, (state.calls call).Aligned

theorem aligned_of_reachable {config : GatewayConfig} {state : State}
    (reached : (machine config).ReachableUnder KeepsOrder state) : state.Aligned := by
  refine reached.invariant ?_ ?_
  · rintro start ⟨⟩ call
    exact ⟨trivial, fun _ => .inl ⟨rfl, fun _ impossible => nomatch impossible⟩⟩
  · intro before action after earlier inductionHypothesis kept stepped call
    exact (inductionHypothesis call).step (paced_of_reachable earlier.reachable call) kept
      (step_call_move stepped call)

/-- In a run that loses and overtakes no accepted frame, the numbers that a
consumer sees are 1, 2, 3 and so on, no received frame but the last is
terminal, the last one is when the stream has ended by itself, and every frame
was sent by the agent of the job or made by the gateway.  The number of a frame is
used up before its place in the queue is secured, which is why a frame that is
lost afterwards leaves a gap. -/
theorem job_stream_gap_free (config : GatewayConfig) (state : State)
    (reached : (machine config).ReachableUnder KeepsOrder state) (call : Nat) :
    (state.calls call).received.map Delivery.sequence =
        List.range' 1 (state.calls call).received.length ∧
      (forall delivery, delivery ∈ (state.calls call).received.dropLast ->
        delivery.isTerminal = false) ∧
      ((state.calls call).phase = .finished true ->
        Exists fun last : Delivery =>
          (state.calls call).received.getLast? = some last ∧ last.isTerminal = true) ∧
      (forall delivery, delivery ∈ (state.calls call).received ->
        delivery.origin = .gateway ∨ Exists fun stream : Nat => delivery.origin = .agent stream ∧
          Authenticated config (state.streams stream) (state.calls call).job.agentId) := by
  have paced := paced_of_reachable reached.reachable call
  have numbered := numbered_of_append (aligned_of_reachable reached call).numbered
  refine ⟨map_number_of_numbered numbered paced.open_dropLast, paced.open_dropLast, ?_, ?_⟩
  · intro ended
    rw [Call.Paced, ended] at paced
    rcases paced with ⟨earlier, last, received, _, terminal⟩
    exact ⟨last, by rw [received, List.getLast?_concat], terminal⟩
  · intro delivery member
    cases origin : delivery.origin with
    | gateway => exact .inl rfl
    | agent stream =>
        refine .inr ⟨stream, rfl, ?_⟩
        have owned := (ownFrames_of_reachable reached.reachable call delivery
          (List.mem_append.mpr (.inl member))).2 stream origin
        rw [← owned.2]
        exact (Invariant.reachable reached.reachable).greeted stream
          (ConnectPhase.greeted_of_served owned.1)

/-- An agent that reports one step and the result. -/
theorem job_stream_gap_free_pair :
    Exists fun state : State => (state.calls 0).phase = .finished true ∧
      (state.calls 0).received.map Delivery.sequence = [1, 2] := by
  rcases (machine .pair).exists_reachableUnder_of_replay KeepsOrder
    [.connect 0, .firstFrame 0 (some (helloOf "alpha" "alpha-token")), .register 0,
      .openDiagnostics 0 "alpha" "job-1" "releases/web", .yieldControl 0,
      .readFrame 0 (.progress ⟨"job-1", 1, "start", "begun"⟩),
      .readFrame 0 (.result ⟨"job-1", 2, "healthy", []⟩),
      .deliver 0, .advance 0, .deliver 0, .advance 0, .finalise 0]
    .initial rfl
    (fun state => (state.calls 0).phase = .finished true ∧ (state.calls 0).received.length = 2)
    (by decide +kernel) with ⟨state, reached, tested⟩
  rcases of_decide_eq_true tested with ⟨phase, length⟩
  have numbers := (job_stream_gap_free .pair state reached 0).1
  rw [length] at numbers
  exact ⟨state, phase, numbers⟩

/-- The agent sends one frame more than the queue holds, and its stream is
cancelled while the reader waits for room.  The number of the lost frame is
used up: after 32 frames the consumer receives a failure frame with number 34. -/
theorem job_stream_gap :
    Exists fun state : State => (machine .pair).Reachable state ∧
      (state.calls 0).received.map Delivery.sequence = List.range' 1 32 ++ [34] ∧
      (state.calls 0).received.map Delivery.sequence ≠
        List.range' 1 (state.calls 0).received.length := by
  rcases (machine .pair).exists_reachableUnder_of_replay (fun _ _ => True)
    ([.connect 0, .firstFrame 0 (some (helloOf "alpha" "alpha-token")), .register 0,
        .openDiagnostics 0 "alpha" "job-1" "releases/web", .yieldControl 0] ++
      (List.range' 1 33).map
        (fun sequence => .readFrame 0 (.progress ⟨"job-1", sequence, "check", "running"⟩)) ++
      [.cancelStream 0, .closed 0, .disconnect 0, .failNext 0, .deliver 0, .failResume 0,
        .advance 0] ++
      (List.replicate 31 [.deliver 0, .advance 0]).flatten ++ [.deliver 0])
    .initial rfl
    (fun state => (state.calls 0).received.map Delivery.sequence = List.range' 1 32 ++ [34] ∧
      (state.calls 0).received.map Delivery.sequence ≠
        List.range' 1 (state.calls 0).received.length)
    (by decide +kernel) with ⟨state, reached, tested⟩
  exact ⟨state, reached, of_decide_eq_true tested⟩

end Gateway
end DjangoOps
