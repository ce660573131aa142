import DjangoOps.Agent.Frame

namespace DjangoOps
namespace Agent

open Protocol

/-!
# Safety of the durable ledger

A worker owes its result from the moment its entry is written until the
result is recorded.  The invariant ties the two together: whoever owes a
result has an entry in flight, nobody else has one under the same job id, and
every entry of the ledger goes back to one worker.  Crashes, lost streams and
failed reads or writes leave the workers that owe a result in place.
-/

/-- The ledger entry of the job was written, and its result was not recorded. -/
structure Worker.Owes (record : Worker) (release : KubernetesReleaseRequest) : Prop where
  request : record.request = .kubernetes release
  begun : record.begun = true
  unrecorded : record.recorded = none

/-- The worker that a ledger entry goes back to. -/
structure Worker.Wrote (config : AgentConfig) (record : Worker)
    (release : KubernetesReleaseRequest) (jobId : String) (job : PersistedJob) : Prop where
  request : record.request = .kubernetes release
  begun : record.begun = true
  named : release.jobId = jobId
  fingerprint : job.fingerprint = kubernetesFingerprint config.sha256 release
  outcome : (job.state = .inFlight ∧ job.result = none ∧ record.recorded = none) ∨
    (job.state = .completed ∧ Exists fun result : PersistedResult =>
      job.result = some result ∧ record.recorded = some result)

/-- The ledger and the workers agree. -/
structure Accounted (config : AgentConfig) (state : State) : Prop where
  capacity : state.ledger.entries.length ≤ maxCompletedJobs
  owing : forall worker release, (state.workers worker).Owes release ->
    Exists fun time : Int => state.ledger.lookup release.jobId =
      some ⟨kubernetesFingerprint config.sha256 release, .inFlight, none, time⟩
  single : forall left right leftRelease rightRelease,
    (state.workers left).Owes leftRelease -> (state.workers right).Owes rightRelease ->
    leftRelease.jobId = rightRelease.jobId -> left = right
  written : forall jobId job, state.ledger.lookup jobId = some job ->
    Exists fun worker : Nat => Exists fun release : KubernetesReleaseRequest =>
      (state.workers worker).Wrote config release jobId job

/-- Where the receive loop and the goroutines stand. -/
structure Placed (state : State) : Prop where
  fresh : forall worker, (state.workers worker).phase = .fresh ->
    (state.workers worker).begun = false
  admitted : forall request worker, state.loop = .admitted request worker ->
    (state.workers worker).phase = .prepared ∧
      (state.workers worker).request = .kubernetes request ∧
      (state.workers worker).begun = false ∧ (state.workers worker).recorded = none
  begun : forall request worker, state.loop = .begun request worker ->
    (state.workers worker).phase = .prepared ∧ (state.workers worker).Owes request
  running : forall worker release, (state.workers worker).request = .kubernetes release ->
    ((Exists fun sequence : Nat => (state.workers worker).phase = .running sequence) ∨
      Exists fun ended : Nat × PersistedResult =>
        (state.workers worker).phase = .returned ended.1 ended.2) ->
    (state.workers worker).Owes release

section Preservation

variable {config : AgentConfig} {before after : State} {action : Action} {events : List Event}

/-! ## Steps that leave the ledger alone -/

/-- What the ledger depends on in a worker. -/
def Worker.core (record : Worker) : Request × Bool × Option PersistedResult :=
  (record.request, record.begun, record.recorded)

theorem Worker.Owes.of_core {left right : Worker} {release : KubernetesReleaseRequest}
    (owes : left.Owes release) (same : right.core = left.core) : right.Owes release := by
  simp only [core, Prod.mk.injEq] at same
  exact ⟨same.1.trans owes.request, same.2.1.trans owes.begun, same.2.2.trans owes.unrecorded⟩

theorem Worker.Wrote.of_core {left right : Worker} {release : KubernetesReleaseRequest}
    {jobId : String} {job : PersistedJob} (wrote : left.Wrote config release jobId job)
    (same : right.core = left.core) : right.Wrote config release jobId job := by
  simp only [core, Prod.mk.injEq] at same
  refine ⟨same.1.trans wrote.request, same.2.1.trans wrote.begun, wrote.named,
    wrote.fingerprint, ?_⟩
  rw [same.2.2]
  exact wrote.outcome

/-- A step either keeps what the ledger depends on, or the worker is new. -/
theorem core_of_step (stepped : step config before action = some (after, events))
    (other : action.touchesLedger = false) (worker : Nat) :
    (after.workers worker).core = (before.workers worker).core ∨
      ((before.workers worker).phase = .fresh ∧ (after.workers worker).begun = false) := by
  have move := step_worker_move stepped worker
  generalize after.workers worker = record at move ⊢
  cases move with
  | prepared _ _ _ _ fresh => exact .inr ⟨fresh, rfl⟩
  | diagnosing _ _ _ _ fresh => exact .inr ⟨fresh, rfl⟩
  | begun => cases other
  | recorded => cases other
  | _ => exact .inl rfl

/-- The ledger stays accounted for when neither it nor a begun worker changes. -/
theorem Accounted.of_core (accounted : Accounted config before)
    (fresh : forall worker, (before.workers worker).phase = .fresh ->
      (before.workers worker).begun = false)
    (ledger : after.ledger = before.ledger)
    (cores : forall worker, (after.workers worker).core = (before.workers worker).core ∨
      ((before.workers worker).phase = .fresh ∧ (after.workers worker).begun = false)) :
    Accounted config after := by
  have earlier : forall worker release, (after.workers worker).Owes release ->
      (before.workers worker).Owes release := by
    intro worker release owes
    rcases cores worker with same | ⟨_, unbegun⟩
    · exact owes.of_core same.symm
    · have begun := owes.begun
      rw [unbegun] at begun
      cases begun
  refine ⟨?_, ?_, ?_, ?_⟩
  · rw [ledger]
    exact accounted.capacity
  · intro worker release owes
    rw [ledger]
    exact accounted.owing worker release (earlier worker release owes)
  · intro left right leftRelease rightRelease leftOwes rightOwes
    exact accounted.single left right leftRelease rightRelease
      (earlier left leftRelease leftOwes) (earlier right rightRelease rightOwes)
  · intro jobId job found
    rw [ledger] at found
    rcases accounted.written jobId job found with ⟨worker, release, wrote⟩
    refine ⟨worker, release, ?_⟩
    rcases cores worker with same | ⟨isFresh, _⟩
    · exact wrote.of_core same
    · have begun := wrote.begun
      rw [fresh worker isFresh] at begun
      cases begun

theorem core_refuse (state : State) {worker : Nat} {jobId : String} {result : PersistedResult}
    (other : Nat) :
    ((state.refuse worker jobId result).workers other).core = (state.workers other).core := by
  change ((state.setPhase worker .refused).workers other).core = _
  rw [State.setPhase, State.workers_modifyWorker]
  by_cases same : other = worker
  · subst same
    rw [if_pos rfl]
    rfl
  · rw [if_neg same]

/-! ## The two steps that write it -/

/-- Writing an entry in flight for a job id without one. -/
theorem Accounted.begin_step (accounted : Accounted config before) {worker : Nat}
    {request : KubernetesReleaseRequest} {io : LedgerIO} {written : Ledger}
    (kind : (before.workers worker).request = .kubernetes request)
    (unbegun : (before.workers worker).begun = false)
    (unrecorded : (before.workers worker).recorded = none)
    (outcome : beginKubernetesOperation config.projectRoot io before.ledger request.jobId
      (kubernetesFingerprint config.sha256 request) = .begun written)
    (ledger : after.ledger = written)
    (own : after.workers worker = { before.workers worker with begun := true })
    (others : forall other, other ≠ worker -> after.workers other = before.workers other) :
    Accounted config after := by
  rcases begin_spec outcome with ⟨absent, entry, stored⟩
  have ownOwes : (after.workers worker).Owes request := by
    rw [own]
    exact ⟨kind, rfl, unrecorded⟩
  have foreign : forall other release, other ≠ worker -> (after.workers other).Owes release ->
      (before.workers other).Owes release ∧ release.jobId ≠ request.jobId := by
    intro other release different owes
    rw [others other different] at owes
    refine ⟨owes, ?_⟩
    intro same
    rcases accounted.owing other release owes with ⟨time, found⟩
    rw [same, absent] at found
    cases found
  refine ⟨?_, ?_, ?_, ?_⟩
  · rw [ledger]
    exact stored.capacity
  · intro other release owes
    rw [ledger]
    by_cases same : other = worker
    · subst same
      cases ownOwes.request.symm.trans owes.request
      exact ⟨io.now, entry⟩
    · rcases foreign other release same owes with ⟨earlier, different⟩
      rcases accounted.owing other release earlier with ⟨time, found⟩
      exact ⟨time, stored.inFlight release.jobId _ different found rfl⟩
  · intro left right leftRelease rightRelease leftOwes rightOwes same
    by_cases leftOwn : left = worker
    · by_cases rightOwn : right = worker
      · rw [leftOwn, rightOwn]
      · subst leftOwn
        cases ownOwes.request.symm.trans leftOwes.request
        exact absurd same.symm (foreign right rightRelease rightOwn rightOwes).2
    · by_cases rightOwn : right = worker
      · subst rightOwn
        cases ownOwes.request.symm.trans rightOwes.request
        exact absurd same (foreign left leftRelease leftOwn leftOwes).2
      · exact accounted.single left right leftRelease rightRelease
          (foreign left leftRelease leftOwn leftOwes).1
          (foreign right rightRelease rightOwn rightOwes).1 same
  · intro jobId job found
    rw [ledger] at found
    by_cases named : jobId = request.jobId
    · subst named
      rw [entry] at found
      cases found
      exact ⟨worker, request, ownOwes.request, ownOwes.begun, rfl, rfl,
        .inl ⟨rfl, rfl, ownOwes.unrecorded⟩⟩
    · rcases accounted.written jobId job (stored.others jobId job named found)
        with ⟨writer, release, wrote⟩
      refine ⟨writer, release, ?_⟩
      have different : writer ≠ worker := by
        intro same
        have begun := wrote.begun
        rw [same, unbegun] at begun
        cases begun
      rw [others writer different]
      exact wrote

/-- Recording the result of a worker that owes it. -/
theorem Accounted.record_step (accounted : Accounted config before) {worker : Nat}
    {request : KubernetesReleaseRequest} {io : LedgerIO} {result : PersistedResult}
    (owes : (before.workers worker).Owes request)
    (outcome : completeKubernetesOperation config.projectRoot io before.ledger request.jobId
      (kubernetesFingerprint config.sha256 request) result = some after.ledger)
    (kind : (after.workers worker).request = .kubernetes request)
    (begun : (after.workers worker).begun = true)
    (recorded : (after.workers worker).recorded = some result)
    (others : forall other, other ≠ worker -> after.workers other = before.workers other) :
    Accounted config after := by
  rcases complete_spec outcome with ⟨own, stored⟩
  have foreign : forall other release, (after.workers other).Owes release ->
      other ≠ worker ∧ (before.workers other).Owes release ∧
        release.jobId ≠ request.jobId := by
    intro other release otherOwes
    have different : other ≠ worker := by
      intro same
      have unrecorded := otherOwes.unrecorded
      rw [same, recorded] at unrecorded
      cases unrecorded
    rw [others other different] at otherOwes
    refine ⟨different, otherOwes, ?_⟩
    intro same
    exact different (accounted.single other worker release request otherOwes owes same)
  refine ⟨stored.capacity, ?_, ?_, ?_⟩
  · intro other release otherOwes
    rcases foreign other release otherOwes with ⟨_, earlier, different⟩
    rcases accounted.owing other release earlier with ⟨time, found⟩
    exact ⟨time, stored.inFlight release.jobId _ different found rfl⟩
  · intro left right leftRelease rightRelease leftOwes rightOwes same
    exact accounted.single left right leftRelease rightRelease
      (foreign left leftRelease leftOwes).2.1 (foreign right rightRelease rightOwes).2.1 same
  · intro jobId job found
    by_cases named : jobId = request.jobId
    · subst named
      have same := own job found
      subst same
      exact ⟨worker, request, kind, begun, rfl, rfl, .inr ⟨rfl, result, rfl, recorded⟩⟩
    · rcases accounted.written jobId job (stored.others jobId job named found)
        with ⟨writer, release, wrote⟩
      refine ⟨writer, release, ?_⟩
      have different : writer ≠ worker := by
        intro same
        have sameRequest := wrote.request
        rw [same, owes.request] at sameRequest
        cases sameRequest
        exact named wrote.named.symm
      rw [others writer different]
      exact wrote

theorem Accounted.step (accounted : Accounted config before) (placed : Placed before)
    (stepped : Agent.step config before action = some (after, events)) :
    Accounted config after := by
  cases touches : action.touchesLedger with
  | false =>
      exact accounted.of_core placed.fresh (ledger_of_step stepped touches)
        (core_of_step stepped touches)
  | true =>
      cases action <;> cases touches
      case begin.refl io =>
        rcases begin_cases stepped with ⟨request, worker, loop, refused | refused | begun⟩
        · rcases refused with ⟨_, result⟩
          subst result
          exact accounted.of_core placed.fresh rfl fun other => .inl (core_refuse before other)
        · rcases refused with ⟨job, _, result⟩
          subst result
          exact accounted.of_core placed.fresh rfl fun other => .inl (core_refuse before other)
        · rcases begun with ⟨written, outcome, result⟩
          subst result
          rcases placed.admitted request worker loop with ⟨_, kind, unbegun, unrecorded⟩
          exact accounted.begin_step kind unbegun unrecorded outcome rfl
            (Function.update_self _ _ _) fun other different => Function.update_of_ne different _ _
      case record.refl worker io =>
        rcases record_cases stepped with ⟨request, sequence, result, returned, kind, outcome⟩
        have others : forall other, other ≠ worker ->
            after.workers other = before.workers other := by
          intro other different
          have move := step_worker_move stepped other
          generalize after.workers other = record at move ⊢
          cases move with
          | same => rfl
          | cancelled _ cause => cases cause
          | recorded => exact absurd rfl different
          | unrecorded => exact absurd rfl different
        have own := step_worker_move stepped worker
        rcases outcome with ⟨_, ledger, unrecorded⟩ | ⟨outcome, recorded⟩
        · refine accounted.of_core placed.fresh ledger fun other => .inl ?_
          by_cases same : other = worker
          · subst same
            generalize after.workers other = record at own unrecorded ⊢
            cases own with
            | recorded =>
                simp only [Worker.core, Prod.mk.injEq, true_and]
                exact unrecorded
            | _ => rfl
          · rw [others other same]
        · have owes := placed.running worker request kind (.inr ⟨(sequence, result), returned⟩)
          refine accounted.record_step owes outcome ?_ ?_ recorded others
          · generalize after.workers worker = record at own
            cases own <;> exact kind
          · generalize after.workers worker = record at own
            cases own <;> exact owes.begun

/-! ## Where the goroutines stand -/

/-- A prepared worker waits for the receive loop. -/
theorem WorkerMove.prepared_kept {worker : Nat} {record : Worker}
    (move : WorkerMove config before worker action record)
    (prepared : (before.workers worker).phase = .prepared) (outside : action.movesLoop = false) :
    record.phase = .prepared ∧ record.core = (before.workers worker).core := by
  cases move with
  | same => exact ⟨prepared, rfl⟩
  | cancelled => exact ⟨prepared, rfl⟩
  | progressed _ _ _ _ running => rw [prepared] at running; cases running
  | diagnosed _ _ _ _ _ running => rw [prepared] at running; cases running
  | returned _ _ _ _ running => rw [prepared] at running; cases running
  | recorded _ _ _ _ _ returned => rw [prepared] at returned; cases returned
  | unrecorded _ _ _ _ _ returned => rw [prepared] at returned; cases returned
  | sent _ _ concluded => rw [prepared] at concluded; cases concluded
  | marked sent => rw [prepared] at sent; cases sent
  | done marked => rw [prepared] at marked; cases marked
  | _ => cases outside

theorem Placed.fresh_step (placed : Placed before)
    (stepped : Agent.step config before action = some (after, events)) (worker : Nat)
    (isFresh : (after.workers worker).phase = .fresh) : (after.workers worker).begun = false := by
  have move := step_worker_move stepped worker
  generalize after.workers worker = record at move isFresh ⊢
  cases move with
  | same => exact placed.fresh worker isFresh
  | cancelled => exact placed.fresh worker isFresh
  | begun request io loop =>
      rw [(placed.admitted request worker loop).1] at isFresh
      cases isFresh
  | _ => cases isFresh

theorem Placed.admitted_step (placed : Placed before)
    (stepped : Agent.step config before action = some (after, events))
    (request : KubernetesReleaseRequest) (worker : Nat)
    (loop : after.loop = .admitted request worker) :
    (after.workers worker).phase = .prepared ∧
      (after.workers worker).request = .kubernetes request ∧
      (after.workers worker).begun = false ∧ (after.workers worker).recorded = none := by
  have loopMove := step_loop_move stepped
  have move := step_worker_move stepped worker
  generalize after.loop = place at loop loopMove
  cases loopMove with
  | same _ _ outside =>
      rcases placed.admitted request worker loop with ⟨prepared, kind, unbegun, unrecorded⟩
      rcases move.prepared_kept prepared outside with ⟨phase, core⟩
      simp only [Worker.core, Prod.mk.injEq] at core
      exact ⟨phase, core.1.trans kind, core.2.1.trans unbegun, core.2.2.trans unrecorded⟩
  | admitted _ _ _ own =>
      cases loop
      rw [own]
      exact ⟨rfl, rfl, rfl, rfl⟩
  | _ => cases loop

theorem Placed.begun_step (placed : Placed before)
    (stepped : Agent.step config before action = some (after, events))
    (request : KubernetesReleaseRequest) (worker : Nat)
    (loop : after.loop = .begun request worker) :
    (after.workers worker).phase = .prepared ∧ (after.workers worker).Owes request := by
  have loopMove := step_loop_move stepped
  have move := step_worker_move stepped worker
  generalize after.loop = place at loop loopMove
  cases loopMove with
  | same _ _ outside =>
      rcases placed.begun request worker loop with ⟨prepared, owes⟩
      rcases move.prepared_kept prepared outside with ⟨phase, core⟩
      exact ⟨phase, owes.of_core core⟩
  | begun _ _ _ earlier own =>
      cases loop
      rcases placed.admitted request worker earlier with ⟨prepared, kind, _, unrecorded⟩
      rw [own]
      exact ⟨prepared, kind, rfl, unrecorded⟩
  | _ => cases loop

theorem Placed.running_step (placed : Placed before)
    (stepped : Agent.step config before action = some (after, events)) (worker : Nat)
    (release : KubernetesReleaseRequest)
    (kind : (after.workers worker).request = .kubernetes release)
    (active : (Exists fun sequence : Nat => (after.workers worker).phase = .running sequence) ∨
      Exists fun ended : Nat × PersistedResult =>
        (after.workers worker).phase = .returned ended.1 ended.2) :
    (after.workers worker).Owes release := by
  have earlier := placed.running worker release
  have move := step_worker_move stepped worker
  generalize after.workers worker = record at move kind active ⊢
  cases move with
  | same => exact earlier kind active
  | cancelled => exact (earlier kind active).of_core rfl
  | diagnosing _ _ isDiagnostics =>
      rw [isDiagnostics] at kind
      cases kind
  | begun request io loop =>
      rw [(placed.admitted request worker loop).1] at active
      rcases active with ⟨_, phase⟩ | ⟨_, phase⟩ <;> cases phase
  | launched request loop =>
      have owes := (placed.begun request worker loop).2
      cases owes.request.symm.trans kind
      exact owes.of_core rfl
  | progressed sequence _ _ _ running => exact (earlier kind (.inl ⟨sequence, running⟩)).of_core rfl
  | returned _ sequence _ _ running => exact (earlier kind (.inl ⟨sequence, running⟩)).of_core rfl
  | _ => rcases active with ⟨_, phase⟩ | ⟨_, phase⟩ <;> cases phase

theorem Placed.step (placed : Placed before)
    (stepped : Agent.step config before action = some (after, events)) : Placed after where
  fresh := placed.fresh_step stepped
  admitted := placed.admitted_step stepped
  begun := placed.begun_step stepped
  running := placed.running_step stepped

end Preservation

theorem Accounted.initial (config : AgentConfig) : Accounted config .initial where
  capacity := Nat.zero_le _
  owing := fun _ _ owes => nomatch owes.begun
  single := fun _ _ _ _ owes => nomatch owes.begun
  written := fun _ _ impossible => nomatch impossible

theorem Placed.initial : Placed .initial where
  fresh := fun _ _ => rfl
  admitted := fun _ _ impossible => nomatch impossible
  begun := fun _ _ impossible => nomatch impossible
  running := by
    rintro worker release ⟨⟩

/-- The invariant of every run. -/
structure Invariant (config : AgentConfig) (state : State) : Prop where
  accounted : Accounted config state
  placed : Placed state

theorem Invariant.reachable {config : AgentConfig} {state : State}
    (reached : (machine config).Reachable state) : Invariant config state := by
  refine reached.invariant ?_ ?_
  · rintro start ⟨⟩
    exact ⟨.initial config, .initial⟩
  · rintro before action after _ ⟨accounted, placed⟩ _ stepped
    rcases Option.map_eq_some_iff.mp stepped with ⟨⟨state, events⟩, taken, same⟩
    cases same
    exact ⟨accounted.step placed taken, placed.step taken⟩

/-! ## Safety -/

/-- What the ledger guarantees in one state and in every step from it.  The steps are
those of the whole agent: its receive loop, its goroutines, a stream that is lost,
a process that ends and starts again, and reads and writes that fail. -/
structure LedgerSafe (config : AgentConfig) (state : State) : Prop where
  capacity : state.ledger.entries.length ≤ maxCompletedJobs
  /-- An operation is begun only without an entry, and then has one in flight. -/
  begun : forall action after events request worker,
    step config state action = some (after, events) -> after.loop = .begun request worker ->
    state.loop ≠ .begun request worker ->
    state.ledger.lookup request.jobId = none ∧ Exists fun time : Int =>
      after.ledger.lookup request.jobId =
        some ⟨kubernetesFingerprint config.sha256 request, .inFlight, none, time⟩
  /-- Only a begun operation is executed, with its entry still in flight, and
  the result of every earlier operation of this id has been recorded. -/
  started : forall action after events request,
    step config state action = some (after, events) -> .started (.kubernetes request) ∈ events ->
    Exists fun worker : Nat => state.loop = .begun request worker ∧
      (Exists fun time : Int => state.ledger.lookup request.jobId =
        some ⟨kubernetesFingerprint config.sha256 request, .inFlight, none, time⟩) ∧
      forall other release, other ≠ worker ->
        (state.workers other).request = .kubernetes release ->
        (state.workers other).begun = true -> release.jobId = request.jobId ->
        (state.workers other).recorded ≠ none
  /-- An entry in flight is changed by the completion of its own job only. -/
  kept : forall action after events jobId job,
    step config state action = some (after, events) -> state.ledger.lookup jobId = some job ->
    job.state = .inFlight ->
    after.ledger.lookup jobId = some job ∨
      Exists fun worker : Nat => Exists fun io : LedgerIO =>
      Exists fun request : KubernetesReleaseRequest => Exists fun result : PersistedResult =>
        action = .record worker io ∧ (state.workers worker).request = .kubernetes request ∧
          request.jobId = jobId ∧
          completeKubernetesOperation config.projectRoot io state.ledger jobId
            (kubernetesFingerprint config.sha256 request) result = some after.ledger
  /-- A known id is answered from its entry, and with the stored result only
  when all eleven fields agree with those of the request that made the entry. -/
  answered : forall io after events request worker job,
    state.loop = .admitted request worker ->
    step config state (.begin io) = some (after, events) -> config.projectRoot ≠ "" ->
    io.reads = true -> state.ledger.lookup request.jobId = some job ->
    events = [] ∧ after.ledger = state.ledger ∧
      Exists fun writer : Nat => Exists fun original : KubernetesReleaseRequest =>
        (state.workers writer).Wrote config original request.jobId job ∧
        ((SameOperation original request ∧ Exists fun result : PersistedResult =>
            (state.workers writer).recorded = some result ∧
              after.loop = .answering request.jobId result) ∨
          (SameOperation original request ∧ (state.workers writer).recorded = none ∧
            after.loop = .answering request.jobId (.failed "RECOVERY_REQUIRED")) ∨
          (¬ SameOperation original request ∧
            after.loop = .answering request.jobId (.failed "OPERATION_ID_CONFLICT")))
  /-- Without a readable ledger nothing is executed and nothing is replayed. -/
  unreadable : forall io after events request worker,
    state.loop = .admitted request worker ->
    step config state (.begin io) = some (after, events) ->
    config.projectRoot = "" ∨ io.reads = false ->
    events = [] ∧ after.ledger = state.ledger ∧
      after.loop = .answering request.jobId (.failed "DURABLE_STATE_UNAVAILABLE")
  /-- A request that is not admitted is not answered, executed or replayed. -/
  dropped : forall worker after events request, state.loop = .examined request ->
    step config state (.admitJob worker) = some (after, events) ->
    request.jobId ∈ state.active ∨ maxActiveJobs ≤ state.active.entries.length ->
    events = [.dropped request] ∧ after.ledger = state.ledger ∧ after.loop = .waiting
  /-- A failed begin or completion leaves the ledger as it was. -/
  beginFailed : forall io after events, step config state (.begin io) = some (after, events) ->
    (forall request worker, after.loop ≠ .begun request worker) -> after.ledger = state.ledger
  recordFailed : forall worker io after events,
    step config state (.record worker io) = some (after, events) ->
    (after.workers worker).recorded = none -> after.ledger = state.ledger

section Safety

variable {config : AgentConfig} {state after : State} {action : Action} {events : List Event}

theorem Invariant.started (invariant : Invariant config state)
    {request : KubernetesReleaseRequest}
    (stepped : step config state action = some (after, events))
    (start : .started (.kubernetes request) ∈ events) :
    Exists fun worker : Nat => state.loop = .begun request worker ∧
      (Exists fun time : Int => state.ledger.lookup request.jobId =
        some ⟨kubernetesFingerprint config.sha256 request, .inFlight, none, time⟩) ∧
      forall other release, other ≠ worker ->
        (state.workers other).request = .kubernetes release ->
        (state.workers other).begun = true -> release.jobId = request.jobId ->
        (state.workers other).recorded ≠ none := by
  have move := step_loop_move stepped
  generalize after.loop = place at move
  cases move with
  | same _ _ _ frames =>
      rcases frames _ start with ⟨frame, impossible⟩
      cases impossible
  | launched launched worker loop =>
      cases List.mem_singleton.mp start
      have owes := (invariant.placed.begun request worker loop).2
      refine ⟨worker, loop, invariant.accounted.owing worker request owes, ?_⟩
      intro other release different kind begun named unrecorded
      exact different (invariant.accounted.single other worker release request
        ⟨kind, begun, unrecorded⟩ owes named)
  | rejected => cases List.mem_singleton.mp start
  | dropped => cases List.mem_singleton.mp start
  | diagnosing => cases List.mem_singleton.mp start
  | answered jobId result delivered =>
      split at start
      · cases List.mem_singleton.mp start
      · cases start
  | _ => cases start

/-- No other step touches an entry in flight. -/
theorem inFlight_kept {jobId : String} {job : PersistedJob}
    (stepped : step config state action = some (after, events))
    (found : state.ledger.lookup jobId = some job) (running : job.state = .inFlight) :
    after.ledger.lookup jobId = some job ∨
      Exists fun worker : Nat => Exists fun io : LedgerIO =>
      Exists fun request : KubernetesReleaseRequest => Exists fun result : PersistedResult =>
        action = .record worker io ∧ (state.workers worker).request = .kubernetes request ∧
          request.jobId = jobId ∧
          completeKubernetesOperation config.projectRoot io state.ledger jobId
            (kubernetesFingerprint config.sha256 request) result = some after.ledger := by
  cases touches : action.touchesLedger with
  | false =>
      rw [ledger_of_step stepped touches]
      exact .inl found
  | true =>
      cases action <;> cases touches
      case begin.refl io =>
        rcases begin_cases stepped with ⟨request, worker, loop, refused | refused | begun⟩
        · rw [refused.2]
          exact .inl found
        · rcases refused with ⟨_, _, result⟩
          rw [result]
          exact .inl found
        · rcases begun with ⟨written, outcome, result⟩
          rcases begin_spec outcome with ⟨absent, _, stored⟩
          rw [result]
          refine .inl (stored.inFlight jobId job ?_ found running)
          intro same
          rw [same, absent] at found
          cases found
      case record.refl worker io =>
        rcases record_cases stepped with ⟨request, sequence, result, _, kind, outcome⟩
        rcases outcome with ⟨_, ledger, _⟩ | ⟨outcome, _⟩
        · rw [ledger]
          exact .inl found
        · by_cases named : jobId = request.jobId
          · subst named
            exact .inr ⟨worker, io, request, result, rfl, kind, rfl, outcome⟩
          · exact .inl ((complete_spec outcome).2.inFlight jobId job named found running)

theorem Invariant.answered (invariant : Invariant config state)
    (noCollision : Function.Injective config.sha256) {io : LedgerIO}
    {request : KubernetesReleaseRequest} {worker : Nat} {job : PersistedJob}
    (loop : state.loop = .admitted request worker)
    (stepped : step config state (.begin io) = some (after, events))
    (rooted : config.projectRoot ≠ "") (readable : io.reads = true)
    (found : state.ledger.lookup request.jobId = some job) :
    events = [] ∧ after.ledger = state.ledger ∧
      Exists fun writer : Nat => Exists fun original : KubernetesReleaseRequest =>
        (state.workers writer).Wrote config original request.jobId job ∧
        ((SameOperation original request ∧ Exists fun result : PersistedResult =>
            (state.workers writer).recorded = some result ∧
              after.loop = .answering request.jobId result) ∨
          (SameOperation original request ∧ (state.workers writer).recorded = none ∧
            after.loop = .answering request.jobId (.failed "RECOVERY_REQUIRED")) ∨
          (¬ SameOperation original request ∧
            after.loop = .answering request.jobId (.failed "OPERATION_ID_CONFLICT"))) := by
  have existing := begin_of_entry (kubernetesFingerprint config.sha256 request) rooted readable
    found
  rcases invariant.accounted.written request.jobId job found with ⟨writer, original, wrote⟩
  simp only [step, silent, State.begin, loop, existing, Option.map_some, Option.some.injEq,
    Prod.mk.injEq] at stepped
  rcases stepped with ⟨result, noEvents⟩
  subst result
  refine ⟨noEvents.symm, rfl, writer, original, wrote, ?_⟩
  change (_ ∧ Exists fun result : PersistedResult => _ ∧
      LoopPhase.answering request.jobId _ = _) ∨
    (_ ∧ _ ∧ LoopPhase.answering request.jobId _ = _) ∨
    (_ ∧ LoopPhase.answering request.jobId _ = _)
  by_cases same : SameOperation original request
  · have agrees : job.fingerprint = kubernetesFingerprint config.sha256 request :=
      wrote.fingerprint.trans (fingerprint_of_sameOperation config.sha256 same)
    rcases wrote.outcome with ⟨running, noResult, unrecorded⟩ | ⟨completed, result, stored, recorded⟩
    · refine .inr (.inl ⟨same, unrecorded, ?_⟩)
      rw [answerExisting, if_neg (not_not.mpr agrees), running]
    · refine .inl ⟨same, result, recorded, ?_⟩
      rw [answerExisting, if_neg (not_not.mpr agrees), completed, stored]
  · refine .inr (.inr ⟨same, ?_⟩)
    have differs : job.fingerprint ≠ kubernetesFingerprint config.sha256 request := by
      intro agrees
      exact same (sameOperation_of_fingerprint noCollision (wrote.fingerprint.symm.trans agrees))
    rw [answerExisting, if_pos differs]

end Safety

/-- In every run of one agent, through crashes, restarts, lost streams and failing
reads and writes, the ledger does what `LedgerSafe` says: an operation is executed
only behind an entry of its own that has been written, the entry goes only with
the outcome of its own job, a reused id is answered from the ledger and not
executed, and a failing write changes nothing.  Whatever has been evicted is
unknown again, so that its id is executed like a new one. -/
theorem ledger_safety (config : AgentConfig) (noCollision : Function.Injective config.sha256)
    (state : State) (reached : (machine config).Reachable state) : LedgerSafe config state := by
  have invariant := Invariant.reachable reached
  refine ⟨invariant.accounted.capacity, ?_, ?_, ?_, ?_, ?_, ?_, ?_, ?_⟩
  · intro action after events request worker stepped begun different
    have move := step_loop_move stepped
    generalize place : after.loop = phase at begun move
    cases move with
    | same => exact absurd begun different
    | begun _ _ io loop =>
        cases begun
        rcases begin_cases stepped with ⟨admitted, own, earlier, refused | refused | begun⟩
        · rw [refused.2] at place
          cases place
        · rcases refused with ⟨_, _, result⟩
          rw [result] at place
          cases place
        · rcases begun with ⟨written, outcome, result⟩
          rcases begin_spec outcome with ⟨absent, entry, _⟩
          rw [result] at place
          cases place
          rw [result]
          exact ⟨absent, io.now, entry⟩
    | _ => cases begun
  · intro action after events request stepped start
    exact invariant.started stepped start
  · intro action after events jobId job stepped found running
    exact inFlight_kept stepped found running
  · intro io after events request worker job loop stepped rooted readable found
    exact invariant.answered noCollision loop stepped rooted readable found
  · intro io after events request worker loop stepped unusable
    have unavailable : forall fingerprint, beginKubernetesOperation config.projectRoot io
        state.ledger request.jobId fingerprint = .unavailable := by
      intro fingerprint
      unfold beginKubernetesOperation
      rcases unusable with rootless | unreadable
      · rw [if_pos rootless]
      · split
        · rfl
        · rfl
    simp only [step, silent, State.begin, loop, unavailable, Option.map_some, Option.some.injEq,
      Prod.mk.injEq] at stepped
    rcases stepped with ⟨result, noEvents⟩
    subst result
    exact ⟨noEvents.symm, rfl, rfl⟩
  · intro worker after events request loop stepped cause
    simp only [step, State.admitJob, loop, if_pos cause, Option.some.injEq, Prod.mk.injEq] at stepped
    rcases stepped with ⟨result, noEvents⟩
    subst result
    exact ⟨noEvents.symm, rfl, rfl⟩
  · intro io after events stepped notBegun
    rcases begin_cases stepped with ⟨request, worker, loop, refused | refused | begun⟩
    · rw [refused.2]
      rfl
    · rcases refused with ⟨_, _, result⟩
      rw [result]
      rfl
    · rcases begun with ⟨written, _, result⟩
      rw [result] at notBegun
      exact absurd rfl (notBegun request worker)
  · intro worker io after events stepped unrecorded
    rcases record_cases stepped with ⟨_, _, result, _, _, failed | done⟩
    · exact failed.2.1
    · rw [done.2] at unrecorded
      cases unrecorded

/-- One operation, from its request to the end of its goroutine. -/
def sampleOperation : List Action :=
  [.connect, .receive (.kubernetesRelease sampleRequest), .admitJob 0, .begin (.sample 1), .launch,
    .progress 0 "validate-helm" "running bounded validate-helm step" true,
    .finish 0 (.kubernetes ⟨"succeeded", 4, 3, "", ""⟩), .record 0 (.sample 2), .send 0 true,
    .mark 0, .done 0]

/-- The request arrives once more, after its result was recorded. -/
theorem sample_resubmitted :
    Exists fun state : State => (machine .sample).Reachable state ∧
      state.loop = .admitted sampleRequest 1 ∧
      state.ledger.lookup "release-1" = some ⟨kubernetesFingerprint sampleDigest sampleRequest,
        .completed, some ⟨"succeeded", 4, 3, "", ""⟩, 2⟩ := by
  rcases (machine .sample).exists_reachableUnder_of_replay (fun _ _ => True)
    (sampleOperation ++ [.receive (.kubernetesRelease sampleRequest), .admitJob 1])
    .initial rfl
    (fun state => state.loop = .admitted sampleRequest 1 ∧
      state.ledger.lookup "release-1" = some ⟨kubernetesFingerprint sampleDigest sampleRequest,
        .completed, some ⟨"succeeded", 4, 3, "", ""⟩, 2⟩)
    (by decide +kernel) with ⟨state, reached, tested⟩
  exact ⟨state, reached, of_decide_eq_true tested⟩

/-- The same request again is answered with the recorded result. -/
theorem ledger_safety_sample :
    Exists fun state : State => Exists fun after : State =>
      step .sample state (.begin (.sample 3)) = some (after, []) ∧
        after.loop = .answering "release-1" ⟨"succeeded", 4, 3, "", ""⟩ := by
  rcases sample_resubmitted with ⟨state, reached, loop, found⟩
  have safe := ledger_safety .sample (Equiv.injective _) state reached
  have stepped : Exists fun after : State => step .sample state (.begin (.sample 3)) =
      some (after, []) := by
    simp only [step, silent, State.begin, loop]
    split <;> exact ⟨_, rfl⟩
  rcases stepped with ⟨after, stepped⟩
  refine ⟨state, after, stepped, ?_⟩
  rcases safe.answered (.sample 3) after [] sampleRequest 1 _ loop stepped (by decide) rfl found
    with ⟨_, _, writer, original, wrote, answer⟩
  have recorded : (state.workers writer).recorded = some ⟨"succeeded", 4, 3, "", ""⟩ := by
    rcases wrote.outcome with ⟨running, _⟩ | ⟨_, result, stored, recorded⟩
    · cases running
    · cases stored
      exact recorded
  rcases answer with ⟨_, result, same, answered⟩ | ⟨_, unrecorded, _⟩ | ⟨different, _⟩
  · cases recorded.symm.trans same
    exact answered
  · rw [recorded] at unrecorded
    cases unrecorded
  · exact absurd (sameOperation_of_fingerprint (Equiv.injective _) wrote.fingerprint.symm) different

/-- A reuse of a known id is answered neither from the ledger nor with one of
the two refusals when the ledger cannot be read. -/
theorem reuse_unreadable :
    Exists fun state : State => Exists fun after : State => Exists fun job : PersistedJob =>
      (machine .sample).Reachable state ∧ state.loop = .admitted sampleRequest 1 ∧
        state.ledger.lookup "release-1" = some job ∧
        step .sample state (.begin { LedgerIO.sample 3 with reads := false }) = some (after, []) ∧
        after.loop = .answering "release-1" (.failed "DURABLE_STATE_UNAVAILABLE") ∧
        ¬ Exists fun answer : PersistedResult => after.loop = .answering "release-1" answer ∧
          (job.result = some answer ∨ answer = .failed "OPERATION_ID_CONFLICT" ∨
            answer = .failed "RECOVERY_REQUIRED") := by
  rcases sample_resubmitted with ⟨state, reached, loop, found⟩
  refine ⟨state, state.refuse 1 "release-1" (.failed "DURABLE_STATE_UNAVAILABLE"), _, reached, loop,
    found, ?_, rfl, ?_⟩
  · simp only [step, silent, State.begin, loop]
    rfl
  · rintro ⟨answer, answered, isAnswer⟩
    cases answered
    exact absurd isAnswer (by decide)

end Agent
end DjangoOps
