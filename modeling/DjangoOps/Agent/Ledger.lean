import Mathlib.Data.List.AList
import Mathlib.Data.List.Sort
import DjangoOps.Agent.Fingerprint
import DjangoOps.Foundation.Eviction

namespace DjangoOps
namespace Agent

/-!
# The durable ledger of Kubernetes operations

One file under the project root maps job ids to persisted jobs.  It is read
and replaced as a whole, under one mutex and by an atomic rename, so an
operation on it either takes effect completely or leaves the file alone.  The
model keeps the decoded map; an absent file is the empty map.

`sort.Slice` is not stable and the map is iterated in random order, so the
order in which completed jobs of equal age are evicted is left open.
-/

def maxCompletedJobs : Nat := 256

/-- `persistedKubernetesResult`. -/
structure PersistedResult where
  status : String
  helmRevision : Nat
  previousRevision : Nat
  rollbackStatus : String
  errorCode : String
  deriving DecidableEq

/-- The result of a failure that the transport layer reports itself. -/
def PersistedResult.failed (errorCode : String) : PersistedResult :=
  { status := "failed", helmRevision := 0, previousRevision := 0, rollbackStatus := ""
    errorCode := errorCode }

/-- The two values of the field `State`. -/
inductive OperationState
  | inFlight
  | completed
  deriving DecidableEq

/-- `persistedKubernetesJob`. -/
structure PersistedJob where
  fingerprint : String
  state : OperationState
  result : Option PersistedResult
  updatedAt : Int
  deriving DecidableEq

abbrev Ledger := AList (fun _ : String => PersistedJob)

/-- Some arrangement by age, as `sort.Slice` makes it. -/
structure EvictionOrder where
  sort : List (String × Int) -> List (String × Int)
  perm : forall pairs, (sort pairs).Perm pairs
  ordered : forall pairs, (sort pairs).Pairwise fun left right => left.2 ≤ right.2

/-- The stable arrangement is one of them. -/
def EvictionOrder.stable : EvictionOrder where
  sort := List.insertionSort fun left right => left.2 ≤ right.2
  perm := List.perm_insertionSort _
  ordered := by
    have : Std.Total fun left right : String × Int => left.2 ≤ right.2 :=
      ⟨fun left right => Int.le_total left.2 right.2⟩
    have : IsTrans (String × Int) fun left right => left.2 ≤ right.2 :=
      ⟨fun _ _ _ first second => Int.le_trans first second⟩
    exact List.pairwise_insertionSort _

/-- What the surroundings decide during one ledger operation: the clock, the
order of eviction, and whether reading and writing the file succeed. -/
structure LedgerIO where
  now : Int
  order : EvictionOrder
  reads : Bool
  writes : Bool

/-- The completed jobs with their ages. -/
def completedPairs (ledger : Ledger) : List (String × Int) :=
  ledger.entries.filterMap fun entry =>
    if entry.2.state = .completed then some (entry.1, entry.2.updatedAt) else none

/-- The loop of `pruneCompletedKubernetesJobs`. -/
def evict (target : Nat) : Ledger -> List (String × Int) -> Ledger
  | ledger, [] => ledger
  | ledger, oldest :: rest =>
      if target < ledger.entries.length then evict target (ledger.erase oldest.1) rest else ledger

def pruneCompletedKubernetesJobs (order : EvictionOrder) (ledger : Ledger) (target : Nat) : Ledger :=
  if ledger.entries.length ≤ target then ledger
  else evict target ledger (order.sort (completedPairs ledger))

/-- The new content of the file, or no value on an error. -/
def writeKubernetesState (io : LedgerIO) (ledger : Ledger) : Option Ledger :=
  let pruned := pruneCompletedKubernetesJobs io.order ledger maxCompletedJobs
  if maxCompletedJobs < pruned.entries.length then none
  else if io.writes then some pruned else none

/-- The three ways in which `beginKubernetesOperation` returns. -/
inductive BeginOutcome
  | unavailable
  | existing (job : PersistedJob)
  | begun (ledger : Ledger)

def beginKubernetesOperation (projectRoot : String) (io : LedgerIO) (ledger : Ledger)
    (jobId fingerprint : String) : BeginOutcome :=
  if projectRoot = "" then .unavailable
  else if io.reads = false then .unavailable
  else
    match ledger.lookup jobId with
    | some job => .existing job
    | none =>
        let pruned := pruneCompletedKubernetesJobs io.order ledger (maxCompletedJobs - 1)
        if maxCompletedJobs ≤ pruned.entries.length then .unavailable
        else
          match writeKubernetesState io (pruned.insert jobId
              { fingerprint := fingerprint, state := .inFlight, result := none
                updatedAt := io.now }) with
          | none => .unavailable
          | some written => .begun written

/-- The new content of the file, or no value on an error. -/
def completeKubernetesOperation (projectRoot : String) (io : LedgerIO) (ledger : Ledger)
    (jobId fingerprint : String) (result : PersistedResult) : Option Ledger :=
  if projectRoot = "" then none
  else if io.reads = false then none
  else writeKubernetesState io (ledger.insert jobId
    { fingerprint := fingerprint, state := .completed, result := some result
      updatedAt := io.now })

/-! ## What an operation can change -/

/-- A ledger that is obtained by dropping completed jobs. -/
structure Pruned (before after : Ledger) : Prop where
  kept : forall jobId job, after.lookup jobId = some job -> before.lookup jobId = some job
  inFlight : forall jobId job, before.lookup jobId = some job -> job.state = .inFlight ->
    after.lookup jobId = some job

theorem Pruned.refl (ledger : Ledger) : Pruned ledger ledger :=
  ⟨fun _ _ found => found, fun _ _ found _ => found⟩

def EvictionOrder.arrangement (order : EvictionOrder) : Eviction.Arrangement String Int :=
  { sort := order.sort, perm := order.perm, ordered := order.ordered }

def PersistedJob.isCompleted (job : PersistedJob) : Bool := decide (job.state = .completed)

theorem evict_eq (target : Nat) (ledger : Ledger) (pairs : List (String × Int)) :
    evict target ledger pairs = Eviction.evict target ledger pairs := by
  induction pairs generalizing ledger with
  | nil => rfl
  | cons oldest rest inductionHypothesis =>
      simp only [evict, Eviction.evict, inductionHypothesis, Int.ofNat_lt]

/-- The pruning of the ledger is an eviction of its completed jobs. -/
theorem prune_eq (order : EvictionOrder) (ledger : Ledger) (target : Nat) :
    pruneCompletedKubernetesJobs order ledger target =
      Eviction.prune order.arrangement PersistedJob.isCompleted PersistedJob.updatedAt ledger
        target := by
  have pairs : completedPairs ledger =
      Eviction.candidates PersistedJob.isCompleted PersistedJob.updatedAt ledger := by
    unfold completedPairs Eviction.candidates PersistedJob.isCompleted
    induction ledger.entries with
    | nil => rfl
    | cons entry rest inductionHypothesis =>
        by_cases completed : entry.2.state = .completed
        · simp [completed, inductionHypothesis]
        · simp [completed, inductionHypothesis]
  unfold pruneCompletedKubernetesJobs Eviction.prune
  rw [pairs, evict_eq]
  simp only [Int.ofNat_le]
  rfl

/-- Pruning never drops a job that is in flight. -/
theorem pruned_prune (order : EvictionOrder) (ledger : Ledger) (target : Nat) :
    Pruned ledger (pruneCompletedKubernetesJobs order ledger target) := by
  rw [prune_eq]
  have spec := Eviction.oldestFirst_prune order.arrangement PersistedJob.isCompleted
    PersistedJob.updatedAt ledger target
  refine ⟨spec.unchanged, ?_⟩
  intro jobId job found running
  cases after : (Eviction.prune order.arrangement PersistedJob.isCompleted
      PersistedJob.updatedAt ledger target).lookup jobId with
  | none =>
      have completed := of_decide_eq_true (spec.chosen jobId job found after)
      rw [running] at completed
      cases completed
  | some other => rw [← found, spec.unchanged jobId other after]

/-- A written ledger respects the capacity and drops completed jobs only. -/
theorem writeKubernetesState_spec {io : LedgerIO} {ledger written : Ledger}
    (wrote : writeKubernetesState io ledger = some written) :
    Pruned ledger written ∧ written.entries.length ≤ maxCompletedJobs := by
  unfold writeKubernetesState at wrote
  dsimp only at wrote
  split at wrote
  · cases wrote
  · rename_i fits
    split at wrote
    · cases wrote
      exact ⟨pruned_prune _ _ _, Nat.le_of_not_lt fits⟩
    · cases wrote

/-- A successful write of one job leaves the jobs in flight of others alone. -/
structure Stored (before after : Ledger) (jobId : String) : Prop where
  others : forall other job, other ≠ jobId -> after.lookup other = some job ->
    before.lookup other = some job
  inFlight : forall other job, other ≠ jobId -> before.lookup other = some job ->
    job.state = .inFlight -> after.lookup other = some job
  capacity : after.entries.length ≤ maxCompletedJobs

theorem stored_of_pruned {before middle after : Ledger} {jobId : String} {job : PersistedJob}
    (first : Pruned before middle) (second : Pruned (middle.insert jobId job) after)
    (capacity : after.entries.length ≤ maxCompletedJobs) : Stored before after jobId where
  others := by
    intro other entry different found
    have inserted := second.kept other entry found
    rw [AList.lookup_insert_ne different] at inserted
    exact first.kept other entry inserted
  inFlight := by
    intro other entry different found running
    apply second.inFlight _ _ _ running
    rw [AList.lookup_insert_ne different]
    exact first.inFlight other entry found running
  capacity := capacity

/-- A begun operation had no entry and has a durable one in flight. -/
theorem begin_spec {projectRoot : String} {io : LedgerIO} {ledger written : Ledger}
    {jobId fingerprint : String}
    (begun : beginKubernetesOperation projectRoot io ledger jobId fingerprint = .begun written) :
    ledger.lookup jobId = none ∧
      written.lookup jobId = some ⟨fingerprint, .inFlight, none, io.now⟩ ∧
      Stored ledger written jobId := by
  unfold beginKubernetesOperation at begun
  split at begun
  · cases begun
  · split at begun
    · cases begun
    · split at begun
      · cases begun
      · rename_i absent
        dsimp only at begun
        split at begun
        · cases begun
        · split at begun
          · cases begun
          · rename_i wrote
            cases begun
            rcases writeKubernetesState_spec wrote with ⟨second, capacity⟩
            refine ⟨absent, ?_, stored_of_pruned (pruned_prune _ _ _) second capacity⟩
            exact second.inFlight _ _ (AList.lookup_insert _) rfl

/-- With a readable ledger, an id that has an entry is answered from it. -/
theorem begin_of_entry {projectRoot : String} {io : LedgerIO} {ledger : Ledger}
    {jobId : String} (fingerprint : String) {job : PersistedJob} (rooted : projectRoot ≠ "")
    (readable : io.reads = true) (entry : ledger.lookup jobId = some job) :
    beginKubernetesOperation projectRoot io ledger jobId fingerprint = .existing job := by
  unfold beginKubernetesOperation
  rw [if_neg rooted, if_neg (by rw [readable]; decide), entry]

/-- What a completed operation leaves in the ledger.  The new entry itself may
be evicted again when the ledger is full. -/
theorem complete_spec {projectRoot : String} {io : LedgerIO} {ledger written : Ledger}
    {jobId fingerprint : String} {result : PersistedResult}
    (completed : completeKubernetesOperation projectRoot io ledger jobId fingerprint result =
      some written) :
    (forall job, written.lookup jobId = some job ->
      job = ⟨fingerprint, .completed, some result, io.now⟩) ∧
      Stored ledger written jobId := by
  unfold completeKubernetesOperation at completed
  split at completed
  · cases completed
  · split at completed
    · cases completed
    · rcases writeKubernetesState_spec completed with ⟨second, capacity⟩
      refine ⟨?_, stored_of_pruned (.refl ledger) second capacity⟩
      intro job found
      have inserted := second.kept jobId job found
      rw [AList.lookup_insert] at inserted
      exact (Option.some.inj inserted).symm

/-- Replacing an entry needs no room. -/
theorem length_insert_of_mem {ledger : Ledger} {jobId : String} (job : PersistedJob)
    (member : jobId ∈ ledger) :
    (ledger.insert jobId job).entries.length = ledger.entries.length := by
  have keys : (ledger.insert jobId job).keys.length = ledger.keys.length := by
    have positive := List.length_pos_of_mem (AList.mem_keys.mp member)
    rw [AList.keys_insert, List.length_cons, List.length_erase_of_mem (AList.mem_keys.mp member)]
    omega
  simpa only [AList.keys, List.keys, List.length_map] using keys

/-- Completing an operation that has an entry evicts nothing. -/
theorem lookup_of_complete {projectRoot : String} {io : LedgerIO} {ledger written : Ledger}
    {jobId fingerprint : String} {result : PersistedResult}
    (bounded : ledger.entries.length ≤ maxCompletedJobs) (member : jobId ∈ ledger)
    (completed : completeKubernetesOperation projectRoot io ledger jobId fingerprint result =
      some written) :
    written.lookup jobId = some ⟨fingerprint, .completed, some result, io.now⟩ := by
  unfold completeKubernetesOperation at completed
  split at completed
  · cases completed
  · split at completed
    · cases completed
    · unfold writeKubernetesState at completed
      dsimp only at completed
      split at completed
      · cases completed
      · split at completed
        · cases completed
          unfold pruneCompletedKubernetesJobs
          rw [if_pos (by rw [length_insert_of_mem _ member]; exact bounded)]
          exact AList.lookup_insert ledger
        · cases completed

end Agent
end DjangoOps
