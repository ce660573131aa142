import DjangoOps.Agent.Ledger

namespace DjangoOps
namespace Agent

/-!
# Pruning of a stored ledger

The file of the ledger holds the field `State` as text, and `json.Unmarshal`
takes any text.  A job with another text than `"completed"` is uncertain and is
never pruned.  The ledgers that the agent itself writes have two texts only.
-/

/-- `persistedKubernetesJob`, as it is read from the file. -/
structure StoredJob where
  fingerprint : String
  state : String
  result : Option PersistedResult
  updatedAt : Int
  deriving DecidableEq

abbrev StoredLedger := AList (fun _ : String => StoredJob)

def StoredJob.isCompleted (job : StoredJob) : Bool := decide (job.state = "completed")

/-- `pruneCompletedKubernetesJobs`; the arrangement is the one that `sort.Slice`
has made of the pairs in the order of the map. -/
def StoredLedger.pruneCompletedKubernetesJobs (order : Eviction.Arrangement String Int)
    (jobs : StoredLedger) (target : Int) : StoredLedger :=
  Eviction.prune order StoredJob.isCompleted StoredJob.updatedAt jobs target

/-- Pruning erases completed jobs only, the oldest ones first and no more than
needed, in every stored ledger and in every ledger of a running agent.  Jobs of
the same age go in any order, since the sort that arranges them is not stable. -/
theorem prune_oldest_first :
    (forall (order : Eviction.Arrangement String Int) (jobs : StoredLedger) (target : Int),
      Eviction.OldestFirst StoredJob.isCompleted StoredJob.updatedAt jobs
        (jobs.pruneCompletedKubernetesJobs order target) target) ∧
      forall (order : EvictionOrder) (ledger : Ledger) (target : Nat),
        Eviction.OldestFirst PersistedJob.isCompleted PersistedJob.updatedAt ledger
          (pruneCompletedKubernetesJobs order ledger target) target := by
  constructor
  · exact fun order jobs target => Eviction.oldestFirst_prune order _ _ jobs target
  · intro order ledger target
    rw [prune_eq]
    exact Eviction.oldestFirst_prune order.arrangement _ _ ledger target

end Agent
end DjangoOps
