import DjangoOps.Agent.ReleaseGates

namespace DjangoOps
namespace Agent
namespace Executor

open Protocol

/-!
# The verdict on a rollout

`runStep` answers with one boolean, whether the progress of the step was not
delivered, its command did not start, or its command failed.  Behind the
verification of the rollout all of them count as a failed rollout, as long as
the context is not cancelled.
-/

/-- The run has treated the rollout as failed. -/
def Trace.recovers (trace : Trace) : Prop :=
  (Exists fun outcome : Outcome => (Step.rollback, outcome) ∈ trace.events) ∨
    trace.result.rollbackStatus ≠ ""

/-- `helm rollback` is executed, or refused because of the policy. -/
def Trace.condemns (trace : Trace) : Prop :=
  (Exists fun outcome : Outcome =>
    (Step.rollback, outcome) ∈ trace.events ∧ outcome.started = true) ∨
    trace.result.status = "rollback_blocked"

/-- The command failed or timed out. -/
def Outcome.lost (outcome : Outcome) : Prop :=
  outcome = .command .failed ∨ outcome = .command .timedOut

namespace Surroundings

/-- A rollout is condemned by its own command only, and never because the
progress of the verification was not delivered under a live context. -/
structure Judged (world : Surroundings) (trace : Trace) : Prop where
  verdict : trace.condemns ->
    Exists fun before : List Event => Exists fun after : List Event =>
      Exists fun outcome : Outcome =>
        trace.events = before ++ (.verify, outcome) :: after ∧
          (.upgrade, .succeeded) ∈ before ∧ outcome.lost
  channel : (Step.verify, .undelivered) ∈ trace.events ->
    world.cancelledBy (3 * Step.verify.position) = false -> ¬ trace.recovers

/-- When the run comes to the verification and its context stays alive, the
progress of the verification is delivered, and its command starts unless
nothing comes of the rollback. -/
def Undisturbed (world : Surroundings) (request : KubernetesReleaseRequest) : Prop :=
  world.Applies request -> world.cancelledBehind .verify = false ->
    world.delivers .verify = true ∧
      ((world.attempt .verify).started = true ∨
        (request.rollbackPolicy = "allow" ∧ request.previousRevision ≠ 0 ∧
          (world.attempt .rollback).started = false))

variable {world : Surroundings} {request : KubernetesReleaseRequest} {trace : Trace}

/-- An early ending comes neither to the verification nor to a rollback. -/
theorem Early.judged (early : Early world request trace) : Judged world trace := by
  have inside (step : Step) (outcome : Outcome) (member : (step, outcome) ∈ trace.events) :
      step ∈ installSteps :=
    early.prefix.subset (List.mem_map.mpr ⟨(step, outcome), member, rfl⟩)
  have unblocked : trace.result.status ≠ "rollback_blocked" := by
    rcases early.status with same | same | ⟨mode, same⟩ <;> rw [same] <;> decide
  constructor
  · intro condemned
    rcases condemned with ⟨outcome, member, started⟩ | blocked
    · exact absurd (inside _ _ member) (by decide)
    · exact absurd blocked unblocked
  · intro undelivered
    exact absurd (inside _ _ undelivered) (by decide)

theorem attempt_undelivered (step : Step) :
    world.attempt step = .undelivered <-> world.delivers step = false := by
  unfold attempt
  split_ifs with undelivered cancelled
  · exact iff_of_true rfl undelivered
  · exact iff_of_false (by intro same; cases same) undelivered
  · exact iff_of_false (by intro same; cases same) undelivered

/-- The verification stands behind the upgrade, with its own outcome. -/
theorem Ended.verify {tail : List Event} {result : PersistedResult}
    (ended : Ended world request tail result) :
    Exists fun rest : List Event => tail = (.verify, world.attempt .verify) :: rest := by
  cases ended with
  | unrecorded verified => exact ⟨_, by rw [verified]⟩
  | recorded verified => exact ⟨_, by rw [verified]⟩
  | _ => exact ⟨_, rfl⟩

/-- What the run makes of the verification: nothing, or a failed rollout. -/
theorem Installed.reaction (installed : Installed world request trace) :
    ((world.attempt .verify = .succeeded ∨ world.cancelledBehind .verify = true) ∧
        ¬ trace.condemns ∧ ¬ trace.recovers) ∨
      (world.attempt .verify ≠ .succeeded ∧ world.cancelledBehind .verify = false ∧
        trace.recovers ∧
        (trace.condemns <-> ¬ (request.rollbackPolicy = "allow" ∧ request.previousRevision ≠ 0 ∧
          (world.attempt .rollback).started = false))) := by
  rcases installed.ended with ⟨tail, events, ended⟩
  have back {outcome : Outcome} :
      (Step.rollback, outcome) ∈ trace.events <-> (Step.rollback, outcome) ∈ tail := by
    rw [events]
    exact ⟨fun member => mem_tail member (by decide), List.mem_append_right _⟩
  unfold Trace.condemns Trace.recovers
  simp only [back]
  generalize trace.result = result at ended ⊢
  cases ended with
  | unrecorded verified | recorded verified =>
      refine .inl ⟨.inl verified, ?_, ?_⟩
      · simp [PersistedResult.failed]
      · simp [PersistedResult.failed]
  | cancelled failed cancelled =>
      refine .inl ⟨.inr cancelled, ?_, ?_⟩
      · simp [cancelledResult]
      · simp [cancelledResult]
  | blocked failed pending policy =>
      refine .inr ⟨failed, pending, ?_, ?_⟩
      · exact .inr (by simp)
      · refine iff_of_true (.inr rfl) fun allowed => ?_
        exact policy.elim (absurd allowed.1) allowed.2.1
  | unrolled failed pending policy bad =>
      refine .inr ⟨failed, pending, ?_, ?_⟩
      · exact .inl ⟨_, .tail _ (.head _)⟩
      · simp [policy.1, policy.2]
  | unverified failed pending policy rolled | rolledBack failed pending policy rolled =>
      refine .inr ⟨failed, pending, ?_, ?_⟩
      · exact .inl ⟨_, .tail _ (.head _)⟩
      · refine iff_of_true (.inl ⟨_, .tail _ (.head _), rfl⟩) fun unstarted => ?_
        rw [rolled] at unstarted
        exact absurd unstarted.2.2 (by decide)

/-- Behind an upgrade the verdict is judged by the outcome of the verification. -/
theorem Installed.judged_iff (installed : Installed world request trace) :
    Judged world trace <->
      (trace.condemns -> (world.attempt .verify).lost) ∧
        (world.delivers .verify = false ->
          world.cancelledBy (3 * Step.verify.position) = false -> ¬ trace.recovers) := by
  have distinct := installed.gated.once
  rcases installed.ended with ⟨tail, events, ended⟩
  rcases ended.verify with ⟨rest, place⟩
  have placed : trace.events = passed installSteps ++ (.verify, world.attempt .verify) :: rest := by
    rw [events, place]
  have own : (Step.verify, world.attempt .verify) ∈ trace.events := by
    rw [placed]
    exact List.mem_append_right _ (.head _)
  have unique {outcome : Outcome} (member : (Step.verify, outcome) ∈ trace.events) :
      outcome = world.attempt .verify :=
    (Prod.mk.inj (List.inj_on_of_nodup_map distinct member own rfl)).2
  constructor
  · rintro ⟨verdict, channel⟩
    constructor
    · intro condemned
      rcases verdict condemned with ⟨before, after, outcome, split, upgraded, lost⟩
      rw [← unique (by rw [split]; exact List.mem_append_right _ (.head _))]
      exact lost
    · intro undelivered
      rw [← (world.attempt_undelivered .verify).mpr undelivered] at channel
      exact channel own
  · rintro ⟨verdict, channel⟩
    constructor
    · intro condemned
      refine ⟨_, rest, _, placed, ?_, verdict condemned⟩
      exact mem_passed.mpr ⟨by decide, rfl⟩
    · intro undelivered
      exact channel ((world.attempt_undelivered .verify).mp (unique undelivered).symm)

/-- A verification that does not succeed under a live context is not delivered,
does not start, or is lost. -/
theorem lost_iff_started (failed : world.attempt .verify ≠ .succeeded) :
    (world.attempt .verify).lost <-> (world.attempt .verify).started = true := by
  unfold Outcome.lost
  cases attempted : world.attempt .verify with
  | undelivered => simp [Outcome.started]
  | command ending =>
      rw [attempted] at failed
      cases ending with
      | succeeded => exact absurd rfl failed
      | unstarted | failed | timedOut => simp [Outcome.started]

end Surroundings

/-- A rollout is judged by its own command exactly when the verification is
undisturbed.  A report that cannot be delivered ends the step before its command
is started, and the command may fail to start; the script takes either for a
rollout that has failed. -/
theorem rollout_verdict (world : Surroundings) (request : KubernetesReleaseRequest) :
    world.Judged (world.script request) <-> world.Undisturbed request := by
  rcases world.script_cases request with early | installed
  · exact iff_of_true early.judged fun applies => absurd applies early.short
  · have delivered (reported : world.attempt .verify ≠ .undelivered) :
        world.delivers .verify = true :=
      eq_true_of_ne_false fun lost => reported ((world.attempt_undelivered .verify).mpr lost)
    rw [installed.judged_iff]
    rcases installed.reaction with
      ⟨calm, uncondemned, unrecovered⟩ | ⟨failed, pending, recovered, condemns⟩
    · refine iff_of_true
        ⟨fun condemned => absurd condemned uncondemned, fun _ _ => unrecovered⟩ fun _ pending => ?_
      rcases calm with verified | cancelled
      · constructor
        · exact delivered (by rw [verified]; decide)
        · exact .inl (by rw [verified]; rfl)
      · rw [pending] at cancelled
        cases cancelled
    · have live : world.cancelledBy (3 * Step.verify.position) = false := by
        by_contra cancelled
        rw [Bool.not_eq_false] at cancelled
        have later : world.cancelledBehind .verify = true :=
          world.cancelledBy_mono (Nat.le_add_right _ 2) cancelled
        rw [pending] at later
        cases later
      constructor
      · rintro ⟨verdict, channel⟩ _ _
        refine ⟨eq_true_of_ne_false fun lost => channel lost live recovered, ?_⟩
        by_cases condemned : (world.script request).condemns
        · exact .inl ((world.lost_iff_started failed).mp (verdict condemned))
        · exact .inr (Decidable.not_not.mp fun refused => condemned (condemns.mpr refused))
      · intro undisturbed
        have calm := undisturbed installed.1 pending
        constructor
        · intro condemned
          exact (world.lost_iff_started failed).mpr (calm.2.resolve_right (condemns.mp condemned))
        · intro lost
          rw [calm.1] at lost
          cases lost

/-! ## A broken channel -/

/-- A release whose previous revision may not be restored. -/
def lockedRelease : KubernetesReleaseRequest :=
  { jobId := "k8s-0", namespaceName := "shop", releaseName := "shop", chartPath := "chart"
    image := "shop@sha256:" ++ String.ofList (List.replicate 64 '0')
    valuesJson := "\x7b\x7d", credentialRef := "file:shop", migrationTimeoutSeconds := 600
    rolloutTimeoutSeconds := 300, rollbackPolicy := "block-after-migration", mode := "release"
    previousRevision := 1 }

/-- Every command succeeds, but the progress of the verification is not delivered. -/
def brokenChannel : Surroundings where
  unmarshals := fun _ => true
  resolveKubeconfig := some fun _ => some "/etc/djangoops/shop"
  safeChart := some
  valuesFile := true
  delivers := fun step => decide (step ≠ .verify)
  ending := fun _ => .succeeded
  helmOutput := .invalid
  cancelAt := none

/-- A progress frame that is not delivered makes a healthy rollout a failed one. -/
theorem broken_channel_blocks :
    (brokenChannel.script lockedRelease).result.status = "rollback_blocked" ∧
      (Step.verify, .undelivered) ∈ (brokenChannel.script lockedRelease).events ∧
      ¬ brokenChannel.Judged (brokenChannel.script lockedRelease) := by
  have undelivered : (Step.verify, .undelivered) ∈ (brokenChannel.script lockedRelease).events := by
    decide +kernel
  have recovers : (brokenChannel.script lockedRelease).recovers := .inr (by decide +kernel)
  refine ⟨by decide +kernel, undelivered, fun judged => ?_⟩
  exact judged.channel undelivered rfl recovers

end Executor
end Agent
end DjangoOps
