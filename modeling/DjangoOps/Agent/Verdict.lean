import DjangoOps.Agent.Executor
import DjangoOps.Agent.Frame

namespace DjangoOps
namespace Agent

open Protocol Executor

/-!
# The verdict on a Kubernetes operation

After its executor has returned, `executeKubernetes` looks at the job context
once more and replaces status and error code of the result when the context
was cancelled, whatever the run had completed.  The result is recorded in the
ledger and sent.
-/

/-- What `executeKubernetes` leaves behind: the ledger, and the result that it
sends. -/
structure Report where
  ledger : Ledger
  sent : PersistedResult

/-- The verdict on a run, after the last look at the context. -/
def verdictOf (world : World) (request : KubernetesReleaseRequest) : PersistedResult :=
  kubernetesVerdict (world.cancelledBy returned) (run world request).result

/-- `executeKubernetes`, from the executor to the last frame. -/
def executeKubernetes (config : AgentConfig) (world : World) (io : LedgerIO) (ledger : Ledger)
    (request : KubernetesReleaseRequest) : Report :=
  match completeKubernetesOperation config.projectRoot io ledger request.jobId
      (kubernetesFingerprint config.sha256 request) (verdictOf world request) with
  | some written => ⟨written, verdictOf world request⟩
  | none => ⟨ledger, .failed "DURABLE_STATE_UNAVAILABLE"⟩

/-- The steps of a worker that end its job do what `executeKubernetes` does,
when its executor returned what the script returns in these surroundings. -/
theorem executeKubernetes_of_steps {config : AgentConfig} {world : World} {io : LedgerIO}
    {before ended after : State} {worker sequence : Nat} {request : KubernetesReleaseRequest}
    (kind : (before.workers worker).request = .kubernetes request)
    (running : (before.workers worker).phase = .running sequence)
    (context : (before.workers worker).cancelled = world.cancelledBy returned)
    (finished : before.finish worker (.kubernetes (run world request).result) = some ended)
    (recorded : ended.record config worker io = some after) :
    after.ledger = (executeKubernetes config world io before.ledger request).ledger ∧
      (after.workers worker).phase = .concluded (persistedResultFrame request.jobId sequence
        (executeKubernetes config world io before.ledger request).sent) := by
  simp only [State.finish, running, kind, context, Option.some.injEq] at finished
  subst finished
  have own := before.workers_setPhase_self worker (.returned sequence (verdictOf world request))
  change State.record config (before.setPhase worker (.returned sequence (verdictOf world request)))
    worker io = some after at recorded
  simp only [State.record, own, kind] at recorded
  change (match completeKubernetesOperation config.projectRoot io before.ledger _ _ _ with
    | some written => _
    | none => _) = _ at recorded
  unfold executeKubernetes
  split at recorded
  · cases recorded
    refine ⟨rfl, ?_⟩
    simp only [State.workers_modifyWorker, if_true]
  · cases recorded
    refine ⟨rfl, ?_⟩
    rw [State.workers_setPhase_self]

/-- Every run of the executor, for every way in which its steps end and every
instant of a cancellation: the status is `cancelled` exactly when the context
was cancelled before the executor had returned, whatever had been completed by
then, and the error code is `CANCELLED` in this case; revisions and rollback
status are always those of the executor; without a cancellation so are status
and error code; and this verdict is recorded and sent, unless the ledger fails,
which is reported and changes nothing.  The operation has an entry by then, and
the ledger respects its capacity. -/
theorem terminal_result (config : AgentConfig) (world : World) (io : LedgerIO) (ledger : Ledger)
    (request : KubernetesReleaseRequest) :
    ((verdictOf world request).status = "cancelled" <-> world.cancelledBy returned = true) ∧
      (world.cancelledBy returned = true -> (verdictOf world request).errorCode = "CANCELLED") ∧
      (verdictOf world request).helmRevision = (run world request).result.helmRevision ∧
      (verdictOf world request).previousRevision = (run world request).result.previousRevision ∧
      (verdictOf world request).rollbackStatus = (run world request).result.rollbackStatus ∧
      (world.cancelledBy returned = false ->
        verdictOf world request = (run world request).result) ∧
      ((verdictOf world request).helmRevision ≠ 0 ->
        Step.upgrade ∈ (run world request).completed) ∧
      (((executeKubernetes config world io ledger request).sent = verdictOf world request ∧
          (ledger.entries.length ≤ maxCompletedJobs -> request.jobId ∈ ledger ->
            (executeKubernetes config world io ledger request).ledger.lookup request.jobId =
              some ⟨kubernetesFingerprint config.sha256 request, .completed,
                some (verdictOf world request), io.now⟩)) ∨
        ((executeKubernetes config world io ledger request).sent =
            .failed "DURABLE_STATE_UNAVAILABLE" ∧
          (executeKubernetes config world io ledger request).ledger = ledger)) := by
  have honest := honest_run world request
  have written : ((executeKubernetes config world io ledger request).sent =
        verdictOf world request ∧
        (ledger.entries.length ≤ maxCompletedJobs -> request.jobId ∈ ledger ->
          (executeKubernetes config world io ledger request).ledger.lookup request.jobId =
            some ⟨kubernetesFingerprint config.sha256 request, .completed,
              some (verdictOf world request), io.now⟩)) ∨
      ((executeKubernetes config world io ledger request).sent =
          .failed "DURABLE_STATE_UNAVAILABLE" ∧
        (executeKubernetes config world io ledger request).ledger = ledger) := by
    unfold executeKubernetes
    split
    · rename_i after completed
      exact .inl ⟨rfl, fun bounded member => lookup_of_complete bounded member completed⟩
    · exact .inr ⟨rfl, rfl⟩
  unfold verdictOf kubernetesVerdict at written ⊢
  cases cancelled : world.cancelledBy returned with
  | true =>
      rw [cancelled] at written
      exact ⟨⟨fun _ => rfl, fun _ => rfl⟩, fun _ => rfl, rfl, rfl, rfl, nofun, honest.revision,
        written⟩
  | false =>
      rw [cancelled] at written
      refine ⟨⟨fun status => ?_, nofun⟩, nofun, rfl, rfl, rfl, fun _ => rfl, honest.revision,
        written⟩
      rw [← cancelled]
      exact honest.cancelled status

/-- Surroundings in which every step succeeds. -/
def Executor.World.healthy (cancelAt : Option Nat) : World where
  unmarshals := fun _ => true
  resolveKubeconfig := some fun _ => some "/srv/credentials/cluster"
  safeChart := fun path => some ("/srv/project/" ++ path)
  valuesFile := true
  sends := fun _ => true
  succeeds := fun _ => true
  helmOutput := .metadata ⟨some (.number 4), none⟩
  cancelAt := cancelAt

/-- A ledger with nothing but the entry of the sample operation. -/
def Ledger.sample : Ledger :=
  (∅ : Ledger).insert "release-1"
    ⟨kubernetesFingerprint sampleDigest sampleRequest, .inFlight, none, 1⟩

/-- The upgrade is applied, verified and its revision read; the cancellation
lands after the last command, and the operation is recorded as cancelled. -/
theorem cancelled_after_upgrade :
    Step.upgrade ∈ (run (.healthy (some 60)) sampleRequest).completed ∧
      Step.verify ∈ (run (.healthy (some 60)) sampleRequest).completed ∧
      (run (.healthy (some 60)) sampleRequest).result.status = "succeeded" ∧
      (executeKubernetes .sample (.healthy (some 60)) (.sample 2) .sample
        sampleRequest).sent = ⟨"cancelled", 4, 0, "", "CANCELLED"⟩ ∧
      ((executeKubernetes .sample (.healthy (some 60)) (.sample 2) .sample
          sampleRequest).ledger.lookup "release-1").bind PersistedJob.result =
        some ⟨"cancelled", 4, 0, "", "CANCELLED"⟩ := by
  decide +kernel

end Agent
end DjangoOps
