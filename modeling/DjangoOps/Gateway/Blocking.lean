import DjangoOps.Gateway.JobStream
import DjangoOps.Gateway.Slots

namespace DjangoOps
namespace Gateway

open Protocol

/-!
# Producers that wait for a consumer

The session reader and `_disconnect` wait for room in the bounded queue of one
job, and only the consumer of that job makes room.  A consumer may leave at
any suspension, and nothing wakes the producers that wait for it.
-/

/-- The generator will take frames off its queue. -/
def CallPhase.reads : CallPhase -> Bool
  | .requesting _ => true
  | .receiving => true
  | .delivered _ => true
  | _ => false

/-- Every suspended producer of a job frame waits for a consumer that is still
there. -/
def State.Attended (state : State) : Prop :=
  forall task call, state.Waits task call -> (state.calls call).phase.reads = true

/-- The job whose consumer leaves by this action. -/
def State.stopsReading (state : State) : Action -> Option Nat
  | .advance call =>
      match (state.calls call).phase with
      | .delivered delivery => if delivery.isTerminal then some call else none
      | _ => none
  | .abandon call => if (state.calls call).phase.reads then some call else none
  | _ => none

/-- The job on whose full queue this action suspends its task. -/
def State.suspendsOn (state : State) (action : Action) : Option Nat :=
  match state.offer? action with
  | some (call, _) => if state.jobFull call then some call else none
  | none => none

/-- No consumer leaves a suspended producer behind, and no producer puts a frame
on a full queue whose consumer has left. -/
def KeepsReaders (state : State) (action : Action) : Prop :=
  (forall call, state.stopsReading action = some call -> forall task, ¬ state.Waits task call) ∧
    forall call, state.suspendsOn action = some call -> (state.calls call).phase.reads = true

section Waiting

variable {config : GatewayConfig} {before after : State} {action : Action}

theorem waits_reader_iff {state : State} {stream call : Nat} :
    state.Waits (.reader stream) call <-> (state.streams stream).reader.job? = some call := by
  unfold State.Waits
  dsimp only
  cases (state.streams stream).reader <;>
    simp only [ReaderPhase.job?, Option.some.injEq, ReaderPhase.putEvent.injEq,
      ReaderPhase.putFailure.injEq, reduceCtorEq, exists_false, or_false, false_or,
      exists_and_left, exists_eq', and_true]

theorem suspendsOn_of_offer {call : Nat} {forwarded : Bool}
    (offer : before.offer? action = some (call, forwarded)) (full : before.jobFull call = true) :
    before.suspendsOn action = some call := by
  unfold State.suspendsOn
  simp only [offer, if_pos full]

/-- A put of the session reader suspends it on a full queue only. -/
theorem suspendsOn_of_readFrame {stream call : Nat} {frame : AgentFrame}
    (stepped : step config before (.readFrame stream frame) = some after)
    (waits : (after.streams stream).reader.job? = some call) :
    before.suspendsOn (.readFrame stream frame) = some call := by
  simp only [step, State.readFrame] at stepped
  split at stepped
  · rename_i reading
    split at stepped
    · cases stepped
      rw [reading] at waits
      cases waits
    · rename_i jobId sequence event
      cases stepped
      unfold State.acceptEvent at waits
      split at waits
      · rw [reading] at waits
        cases waits
      · rename_i target registered
        dsimp only at waits
        split at waits
        · rw [reading] at waits
          cases waits
        · rename_i agent
          have offer : before.offer? (.readFrame stream frame) =
              some (target, decide (sequence = (before.calls target).job.nextSequence)) := by
            simp only [State.offer?, event, registered, if_pos (not_not.mp agent)]
          split at waits
          · split at waits
            · rename_i full
              rw [State.streams_setReader_self] at waits
              cases waits
              exact suspendsOn_of_offer offer full
            · rw [(State.readerPutCancel_own _ stream jobId).2] at waits
              cases waits
          · split at waits
            · rename_i full
              rw [State.streams_setReader_self] at waits
              cases waits
              exact suspendsOn_of_offer offer full
            · change (before.streams stream).reader.job? = some call at waits
              rw [reading] at waits
              cases waits
  · cases stepped

/-- A put of `_disconnect` suspends it on a full queue only. -/
theorem suspendsOn_of_failNext {stream call : Nat} {remaining : List (String × Nat)}
    (stepped : step config before (.failNext stream) = some after)
    (waits : (after.streams stream).phase = .failWaiting call remaining) :
    before.suspendsOn (.failNext stream) = some call := by
  simp only [step, State.failNext] at stepped
  split at stepped
  · cases stepped
    rw [State.streams_setConnect_self] at waits
    cases waits
  · rename_i jobId target rest phase
    split at stepped
    · rename_i agent
      cases stepped
      rw [State.streams_setConnect_self] at waits
      dsimp only at waits
      split at waits
      · rename_i full
        have offer : before.offer? (.failNext stream) = some (target, false) := by
          simp only [State.offer?, phase, if_pos agent]
        cases waits
        exact suspendsOn_of_offer offer full
      · cases waits
    · cases stepped
      rw [State.streams_setConnect_self] at waits
      cases waits
  · cases stepped

/-- A task that waits after a step has waited before, or the step suspends it. -/
theorem waits_of_step (stepped : step config before action = some after) {task : Task}
    {call : Nat} (waits : after.Waits task call) :
    before.Waits task call ∨ before.suspendsOn action = some call := by
  cases task with
  | reader stream =>
      rw [waits_reader_iff] at waits ⊢
      have move := step_stream_move stepped stream
      generalize recordOf : after.streams stream = record at waits move
      cases move with
      | framed _ _ frame => exact .inl (frame.reader ▸ waits)
      | registered => cases waits
      | readerPut => exact .inr (suspendsOn_of_readFrame stepped (recordOf ▸ waits))
      | readerMoved _ _ _ _ _ free =>
          rw [free] at waits
          cases waits
      | stopped _ _ _ _ _ free =>
          rw [free] at waits
          cases waits
      | _ => exact .inl waits
  | connect stream =>
      rcases waits with ⟨remaining, phase⟩
      have move := step_stream_move stepped stream
      generalize recordOf : after.streams stream = record at phase move
      have kept : record.phase = (before.streams stream).phase ->
          before.Waits (.connect stream) call := fun same => ⟨remaining, same ▸ phase⟩
      cases move with
      | framed _ _ frame => exact .inl (kept frame.phase)
      | readerPut _ _ _ _ _ _ _ frame => exact .inl (kept frame.phase)
      | readerMoved _ _ _ _ frame => exact .inl (kept frame.phase)
      | stopped _ _ _ phases =>
          rw [phase] at phases
          rcases phases with ⟨_, impossible⟩ | ⟨_, impossible⟩ <;> cases impossible
      | failWaits => exact .inr (suspendsOn_of_failNext stepped (recordOf ▸ phase))
      | _ => cases phase
  | _ => cases waits

/-- A consumer that is there before a step is there after it, unless it leaves. -/
theorem reads_of_step (stepped : step config before action = some after) {call : Nat}
    (reads : (before.calls call).phase.reads = true)
    (stays : before.stopsReading action ≠ some call) :
    (after.calls call).phase.reads = true := by
  have move := step_call_move stepped call
  generalize recordOf : after.calls call = record at move ⊢
  cases move with
  | same => exact reads
  | refused _ _ _ phase =>
      rcases phase with phase | phase <;> rw [phase] at reads <;> cases reads
  | opened _ _ _ _ _ _ idle =>
      rw [idle] at reads
      cases reads
  | accepted => exact reads
  | disordered => exact reads
  | failed => exact reads
  | admitted => exact reads
  | withdrawn => exact reads
  | requested => rfl
  | delivered => rfl
  | advanced delivery phase =>
      unfold State.stopsReading at stays
      simp only [phase] at stays
      cases terminal : delivery.isTerminal with
      | true =>
          rw [terminal, if_pos rfl] at stays
          exact absurd rfl stays
      | false => rfl
  | abandoned =>
      unfold State.stopsReading at stays
      simp only [if_pos reads] at stays
      exact absurd rfl stays
  | finished _ phase =>
      rw [phase] at reads
      cases reads
  | cancelled => exact reads

theorem stopsReading_of_suspends {call : Nat} (suspends : before.suspendsOn action = some call) :
    before.stopsReading action = none := by
  cases action <;> first | rfl | cases suspends

end Waiting

theorem attended_of_reachable {config : GatewayConfig} {state : State}
    (reached : (machine config).ReachableUnder KeepsReaders state) : state.Attended := by
  refine reached.invariant ?_ ?_
  · rintro start ⟨⟩ task call impossible
    cases task with
    | reader stream => rw [waits_reader_iff] at impossible; cases impossible
    | connect stream => rcases impossible with ⟨_, impossible⟩; cases impossible
    | _ => cases impossible
  · intro before action after _ inductionHypothesis kept stepped task call waits
    rcases waits_of_step stepped waits with earlier | suspended
    · refine reads_of_step stepped (inductionHypothesis task call earlier) fun stops => ?_
      exact kept.1 call stops task earlier
    · refine reads_of_step stepped (kept.2 call suspended) fun stops => ?_
      rw [stopsReading_of_suspends suspended] at stops
      cases stops

/-- In every run in which no consumer leaves a suspended producer behind, and no
producer puts a frame on a full queue whose consumer has left: whenever the
session reader or `_disconnect` waits on the queue of a job, the generator of
the job still reads. -/
theorem producers_attended (config : GatewayConfig) (state : State)
    (reached : (machine config).ReachableUnder KeepsReaders state) (stream call : Nat) :
    ((state.streams stream).reader.job? = some call -> (state.calls call).phase.reads = true) ∧
      forall remaining, (state.streams stream).phase = .failWaiting call remaining ->
        (state.calls call).phase.reads = true := by
  have attended := attended_of_reachable reached
  refine ⟨fun waits => ?_, fun remaining waits => ?_⟩
  · exact attended (.reader stream) call (waits_reader_iff.mpr waits)
  · exact attended (.connect stream) call ⟨remaining, waits⟩

/-! ## Stuck producers -/

section Stuck

variable {config : GatewayConfig} {before after : State} {action : Action}

/-- The generator of the job will never take a frame off its queue again. -/
def CallPhase.gone : CallPhase -> Bool
  | .closing _ => true
  | .finished _ => true
  | .leaked => true
  | _ => false

theorem gone_of_step (stepped : step config before action = some after) {call : Nat}
    (gone : (before.calls call).phase.gone = true) : (after.calls call).phase.gone = true := by
  have move := step_call_move stepped call
  generalize recordOf : after.calls call = record at move ⊢
  cases move with
  | same => exact gone
  | refused _ _ _ phase =>
      rcases phase with phase | phase <;> rw [phase] at gone <;> cases gone
  | opened _ _ _ _ _ _ idle =>
      rw [idle] at gone
      cases gone
  | accepted => exact gone
  | disordered => exact gone
  | failed => exact gone
  | admitted => exact gone
  | withdrawn => exact gone
  | requested _ phase =>
      rw [phase] at gone
      cases gone
  | delivered _ _ phase =>
      rw [phase] at gone
      cases gone
  | advanced _ phase =>
      rw [phase] at gone
      cases gone
  | abandoned _ _ left => rcases left with rfl | rfl <;> rfl
  | finished => rfl
  | cancelled => exact gone

/-- The consumer that leaves is gone for good. -/
theorem gone_of_stops (stepped : step config before action = some after) {call : Nat}
    (stops : before.stopsReading action = some call) :
    (after.calls call).phase.gone = true := by
  cases action with
  | advance own =>
      simp only [step, State.advance] at stepped
      unfold State.stopsReading at stops
      split at stepped
      · rename_i delivery phase
        simp only [phase] at stops
        split at stops
        · rename_i terminal
          cases stops
          cases stepped
          rw [State.calls_setCall_self, if_pos terminal]
          rfl
        · cases stops
      · cases stepped
  | abandon own =>
      have goesOn := phase_of_abandon stepped
      unfold State.stopsReading at stops
      dsimp only at stops
      split at stops
      · rename_i reads
        cases stops
        cases phase : (before.calls call).phase <;> rw [phase] at goesOn reads <;>
          first | (rw [← Option.some.inj goesOn]; rfl) | cases reads
      · cases stops
  | _ => cases stops

theorem reads_eq_false_of_gone {phase : CallPhase} (gone : phase.gone = true) :
    phase.reads = false := by
  cases phase <;> first | rfl | cases gone

/-- The steps of a generator wake no producer. -/
theorem waits_kept_of_call_step (foreign : action.stream? = none)
    (stepped : step config before action = some after) {task : Task} {call : Nat}
    (waits : before.Waits task call) : after.Waits task call := by
  cases task with
  | reader stream =>
      rw [waits_reader_iff] at waits ⊢
      rw [(frame_of_call_step foreign stepped stream).reader]
      exact waits
  | connect stream =>
      rcases waits with ⟨remaining, phase⟩
      exact ⟨remaining, (frame_of_call_step foreign stepped stream).phase.trans phase⟩
  | _ => cases waits

/-- A put on a full queue suspends its task. -/
theorem waits_of_suspends (stepped : step config before action = some after) {call : Nat}
    (suspends : before.suspendsOn action = some call) :
    Exists fun task : Task => after.Waits task call := by
  unfold State.suspendsOn State.offer? at suspends
  cases action with
  | readFrame stream frame =>
      refine ⟨.reader stream, waits_reader_iff.mpr ?_⟩
      simp only [step, State.readFrame] at stepped
      split at stepped
      · cases event : frame.event? with
        | none =>
            simp only [event] at suspends
            cases suspends
        | some sent =>
            cases registered : before.jobs.lookup sent.1 with
            | none =>
                simp only [event, registered] at suspends
                cases suspends
            | some target =>
                simp only [event, Option.some.injEq] at stepped
                subst stepped
                simp only [event, registered] at suspends
                by_cases agent : (before.calls target).job.agentId =
                    (before.streams stream).session.agentId
                · simp only [if_pos agent] at suspends
                  by_cases full : before.jobFull target = true
                  · simp only [if_pos full, Option.some.injEq] at suspends
                    subst suspends
                    unfold State.acceptEvent
                    simp only [registered, agent, ne_eq, not_true_eq_false, if_false, if_pos full]
                    split <;>
                      · rw [State.streams_setReader_self]
                        rfl
                  · simp only [if_neg full] at suspends
                    cases suspends
                · simp only [if_neg agent] at suspends
                  cases suspends
      · cases stepped
  | failNext stream =>
      simp only [step, State.failNext] at stepped
      dsimp only at suspends
      split at stepped
      · rename_i phase
        simp only [phase] at suspends
        cases suspends
      · rename_i jobId target remaining phase
        simp only [phase] at suspends
        by_cases agent : (before.calls target).job.agentId =
            (before.streams stream).session.agentId
        · simp only [if_pos agent, Option.some.injEq] at suspends stepped
          by_cases full : before.jobFull target = true
          · simp only [if_pos full, Option.some.injEq] at suspends stepped
            subst suspends
            subst stepped
            refine ⟨.connect stream, remaining, ?_⟩
            rw [State.streams_setConnect_self]
          · simp only [if_neg full] at suspends
            cases suspends
        · simp only [if_neg agent] at suspends
          cases suspends
      · cases stepped
  | _ => cases suspends

theorem stream_of_suspends {call : Nat} (suspends : before.suspendsOn action = some call) :
    Exists fun stream : Nat => action.stream? = some stream := by
  cases action <;> first | exact ⟨_, rfl⟩ | cases suspends

/-- The condition on runs is exact: a step that does not meet it leaves a
producer waiting for a consumer that is not there. -/
theorem keepsReaders_of_attended (stepped : step config before action = some after)
    (attended : after.Attended) : KeepsReaders before action := by
  refine ⟨fun call stops task waits => ?_, fun call suspends => ?_⟩
  · have foreign : action.stream? = none := by
      cases action <;> first | rfl | cases stops
    have reads := attended task call (waits_kept_of_call_step foreign stepped waits)
    rw [reads_eq_false_of_gone (gone_of_stops stepped stops)] at reads
    cases reads
  · rcases waits_of_suspends stepped suspends with ⟨task, waits⟩
    rcases stream_of_suspends suspends with ⟨stream, own⟩
    rw [← ((step_call_move stepped call).phase_of_stream own).1]
    exact attended task call waits

end Stuck

/-! ## One frame more than the queue holds -/

/-- An agent that reports more progress than its consumer has read. -/
def overflowing : List Action :=
  [.connect 0, .firstFrame 0 (some (helloOf "alpha" "alpha-token")), .register 0,
      .openDiagnostics 0 "alpha" "job-1" "releases/web", .yieldControl 0] ++
    (List.range' 1 33).map fun sequence =>
      .readFrame 0 (.progress ⟨"job-1", sequence, "check", "running"⟩)

/-- The sample runs in which no consumer leaves. -/
def StaysReading (state : State) (action : Action) : Prop :=
  state.stopsReading action = none ∧
    ((state.suspendsOn action).all fun call => (state.calls call).phase.reads) = true

instance (state : State) (action : Action) : Decidable (StaysReading state action) :=
  inferInstanceAs (Decidable (_ ∧ _))

theorem keepsReaders_of_staysReading (state : State) (action : Action)
    (stays : StaysReading state action) : KeepsReaders state action := by
  refine ⟨fun call stops => ?_, fun call suspends => ?_⟩
  · rw [stays.1] at stops
    cases stops
  · have reads := stays.2
    rw [suspends] at reads
    exact reads

/-- The reader waits for a consumer that still reads. -/
theorem producers_attended_pair :
    Exists fun state : State => (state.streams 0).reader = .putEvent 0 ∧
      (state.calls 0).phase.reads = true := by
  rcases (machine .pair).exists_reachableUnder_of_replay StaysReading overflowing .initial rfl
    (fun state => (state.streams 0).reader = .putEvent 0) (by decide +kernel) with
    ⟨state, reached, tested⟩
  have waits := of_decide_eq_true tested
  refine ⟨state, waits, (producers_attended .pair state
    (reached.mono keepsReaders_of_staysReading) 0 0).1 ?_⟩
  rw [waits]
  rfl

/-- The consumer gives up while the reader waits on its full queue.  The job is
cleaned up, but the reader neither gets room nor takes another frame, while a
second job of the agent waits for its frames. -/
theorem reader_stuck :
    Exists fun state : State => (machine .pair).Reachable state ∧
      (state.streams 0).reader = .putEvent 0 ∧ (state.calls 0).phase = .finished false ∧
      "job-1" ∉ state.jobs ∧ (state.calls 1).phase = .receiving ∧
      state.jobs.lookup "job-2" = some 1 ∧
      step .pair state (.readerResume 0) = none ∧
      forall frame, step .pair state (.readFrame 0 frame) = none := by
  rcases (machine .pair).exists_reachableUnder_of_replay (fun _ _ => True)
    (overflowing ++ [.abandon 0, .finalise 0,
      .openDiagnostics 1 "alpha" "job-2" "releases/web", .yieldControl 0]) .initial rfl
    (fun state => (state.streams 0).reader = .putEvent 0 ∧
      (state.calls 0).phase = .finished false ∧ "job-1" ∉ state.jobs ∧
      (state.calls 1).phase = .receiving ∧ state.jobs.lookup "job-2" = some 1 ∧
      (step .pair state (.readerResume 0)).isNone = true)
    (by decide +kernel) with ⟨state, reached, tested⟩
  rcases of_decide_eq_true tested with ⟨reader, finished, gone, receiving, registered, stuck⟩
  refine ⟨state, reached, reader, finished, gone, receiving, registered,
    Option.isNone_iff_eq_none.mp stuck, fun frame => ?_⟩
  simp only [step, State.readFrame, reader, reduceCtorEq, if_false]

end Gateway
end DjangoOps
