import DjangoOps.Agent.LedgerFormat
import DjangoOps.Foundation.AtomicFile
import DjangoOps.Foundation.Refinement
import DjangoOps.Foundation.Utf8

namespace DjangoOps
namespace Agent
namespace LedgerFile

open Transition AtomicFile

/-!
# The ledger on the disk

`beginKubernetesOperation` and `completeKubernetesOperation` on the files of the
project root: the ledger is read from its file, changed, and written back by
renaming a temporary file.  Reading may fail, every step of the writing may
fail behind any byte, and the process may end at any of them and start again.

A file holds bytes, and a byte that starts no character is read as U+FFFD, as
`encoding/json` does.  The operations on the decoded map are the abstract machine.  Every run on the
disk tells the callers what a run of that machine tells them.
-/

def kubernetesStateFile : String := ".djangoops-agent-kubernetes.json"

/-- `os.CreateTemp` with the suffix that it settles on. -/
def temporaryFile (suffix : String) : String := ".djangoops-kubernetes-state-" ++ suffix

abbrev Disk := Directory String UInt8

/-- What the surroundings decide during one operation. -/
structure FileIO where
  now : Int64
  order : EvictionOrder
  reads : Bool
  suffix : String
  fate : Fate

/-! ## The operations -/

def StoredJob.isCompleted (job : StoredJob) : Bool := decide (job.state = "completed")

def StoredJob.age (job : StoredJob) : Int := job.updatedAt.toInt

/-- The slice that `pruneCompletedKubernetesJobs` sorts. -/
def storedPairs (state : StoredState) : List (String × Int) :=
  Eviction.candidates StoredJob.isCompleted StoredJob.age state

/-- `pruneCompletedKubernetesJobs` -/
def pruneStored (order : EvictionOrder) (state : StoredState) (target : Nat) : StoredState :=
  Eviction.prune order.arrangement StoredJob.isCompleted StoredJob.age state target

/-- `readKubernetesState`, when reading the file does not fail. -/
def readDisk (io : FileIO) (disk : Disk) : Option StoredState :=
  if io.reads then readKubernetesState ((disk kubernetesStateFile).map Utf8.text) else none

/-- `writeKubernetesState` -/
def writeDisk (io : FileIO) (disk : Disk) (state : StoredState) : Disk × Ending :=
  let pruned := pruneStored io.order state maxCompletedJobs
  if maxCompletedJobs < pruned.entries.length then (disk, .failed)
  else
    replace kubernetesStateFile (temporaryFile io.suffix) (Utf8.bytes (encode pruned)) io.fate disk

/-- What the caller of `beginKubernetesOperation` is told; nothing when the
process has ended, with the job written or not. -/
inductive Answer (Job : Type)
  | unavailable
  | existing (job : Job)
  | begun
  | crashed
  | lost
  deriving DecidableEq

def Answer.ofEnding {Job : Type} : Ending -> Answer Job
  | .finished => .begun
  | .failed => .unavailable
  | .crashed => .crashed
  | .lost => .lost

def begunJob (io : FileIO) (fingerprint : String) : StoredJob :=
  ⟨fingerprint, "in_flight", none, io.now⟩

def completedJob (io : FileIO) (fingerprint : String) (result : StoredResult) : StoredJob :=
  ⟨fingerprint, "completed", some result, io.now⟩

section Operations

variable (projectRoot : String) (io : FileIO) (disk : Disk) (jobId fingerprint : String)

/-- `beginKubernetesOperation` -/
def beginOnDisk : Disk × Answer StoredJob :=
  if projectRoot = "" then (disk, .unavailable)
  else
    match readDisk io disk with
    | none => (disk, .unavailable)
    | some state =>
        match state.lookup jobId with
        | some job => (disk, .existing job)
        | none =>
            let pruned := pruneStored io.order state (maxCompletedJobs - 1)
            if maxCompletedJobs ≤ pruned.entries.length then (disk, .unavailable)
            else
              let written := writeDisk io disk (pruned.insert jobId (begunJob io fingerprint))
              (written.1, .ofEnding written.2)

/-- `completeKubernetesOperation` -/
def completeOnDisk (result : StoredResult) : Disk × Ending :=
  if projectRoot = "" then (disk, .failed)
  else
    match readDisk io disk with
    | none => (disk, .failed)
    | some state => writeDisk io disk (state.insert jobId (completedJob io fingerprint result))

end Operations

/-- A call of one of the two operations, with what befalls it. -/
inductive FileAction
  | begin (io : FileIO) (jobId fingerprint : String)
  | complete (io : FileIO) (jobId fingerprint : String) (result : StoredResult)

def FileAction.perform (projectRoot : String) (disk : Disk) : FileAction -> Disk
  | .begin io jobId fingerprint => (beginOnDisk projectRoot io disk jobId fingerprint).1
  | .complete io jobId fingerprint result =>
      (completeOnDisk projectRoot io disk jobId fingerprint result).1

/-- The operations one after another; the mutex of the runner separates them. -/
def diskMachine (projectRoot : String) (initial : Disk -> Prop) : Machine Disk FileAction where
  initial := initial
  step := fun disk action => some (action.perform projectRoot disk)

/-! ## The decoded map -/

def StoredResult.view (result : StoredResult) : PersistedResult where
  status := result.status
  helmRevision := result.helmRevision.toNat
  previousRevision := result.previousRevision.toNat
  rollbackStatus := result.rollbackStatus
  errorCode := result.errorCode

/-- A state is only ever compared with `completed`. -/
def StoredJob.view (job : StoredJob) : PersistedJob where
  fingerprint := job.fingerprint
  state := if job.state = "completed" then .completed else .inFlight
  result := job.result.map StoredResult.view
  updatedAt := job.updatedAt.toInt

def Answer.map {Job Image : Type} (view : Job -> Image) : Answer Job -> Answer Image
  | .unavailable => .unavailable
  | .existing job => .existing (view job)
  | .begun => .begun
  | .crashed => .crashed
  | .lost => .lost

/-- An operation on the map, with what its caller is told. -/
inductive LedgerEvent
  | begin (io : LedgerIO) (jobId fingerprint : String) (answer : Answer PersistedJob)
  | complete (io : LedgerIO) (jobId fingerprint : String) (result : PersistedResult)
      (ending : Ending)

/-- The map behind an operation, when the caller is told what it returns or is
not told of what it has written. -/
def afterBegin (ledger : Ledger) : BeginOutcome -> Answer PersistedJob -> Option Ledger
  | .unavailable, .unavailable => some ledger
  | .existing job, .existing told => if job = told then some ledger else none
  | .begun written, .begun => some written
  | .begun written, .lost => some written
  | _, _ => none

def afterComplete (ledger : Ledger) : Option Ledger -> Ending -> Option Ledger
  | some written, .finished => some written
  | some written, .lost => some written
  | none, .failed => some ledger
  | _, _ => none

def LedgerEvent.perform (projectRoot : String) (ledger : Ledger) : LedgerEvent -> Option Ledger
  | .begin io jobId fingerprint answer =>
      afterBegin ledger (beginKubernetesOperation projectRoot io ledger jobId fingerprint) answer
  | .complete io jobId fingerprint result ending =>
      afterComplete ledger
        (completeKubernetesOperation projectRoot io ledger jobId fingerprint result) ending

def ledgerMachine (projectRoot : String) : Machine Ledger LedgerEvent where
  initial := fun ledger => ledger = ∅
  step := fun ledger event => event.perform projectRoot ledger

/-- An arrangement that treats every order of the pairs like this one. -/
def arrangeLike (order : EvictionOrder) (pairs : List (String × Int)) : EvictionOrder where
  sort := fun list => if list.Perm pairs then order.sort pairs else order.sort list
  perm := by
    intro list
    by_cases same : list.Perm pairs
    · rw [if_pos same]
      exact (order.perm pairs).trans same.symm
    · rw [if_neg same]
      exact order.perm list
  ordered := by
    intro list
    by_cases same : list.Perm pairs
    · rw [if_pos same]
      exact order.ordered pairs
    · rw [if_neg same]
      exact order.ordered list

/-- The surroundings of an operation on the map that arranges these pairs. -/
def FileIO.ledgerIO (io : FileIO) (pairs : List (String × Int)) (inPlace : Bool) : LedgerIO where
  now := io.now.toInt
  order := arrangeLike io.order pairs
  reads := io.reads
  writes := inPlace

def Answer.inPlace {Job : Type} : Answer Job -> Bool
  | .begun => true
  | .lost => true
  | .unavailable => false
  | .existing _ => false
  | .crashed => false

/-- What an operation shows that its caller is told of, or that has written.
One that is cut off in front of the renaming shows nothing. -/
def showsBegin (io : FileIO) (disk : Disk) (jobId fingerprint : String)
    (answer : Answer StoredJob) : List LedgerEvent :=
  let pairs := ((readDisk io disk).map storedPairs).getD []
  if answer = .crashed then []
  else [.begin (io.ledgerIO pairs answer.inPlace) jobId fingerprint (answer.map StoredJob.view)]

def showsComplete (io : FileIO) (disk : Disk) (jobId fingerprint : String)
    (result : StoredResult) (ending : Ending) : List LedgerEvent :=
  let pairs := ((readDisk io disk).map fun state =>
    storedPairs (state.insert jobId (completedJob io fingerprint result))).getD []
  if ending = .crashed then []
  else [.complete (io.ledgerIO pairs ending.inPlace) jobId fingerprint result.view ending]

/-- The operations on the map that an operation on the disk stands for. -/
def shows (projectRoot : String) (disk : Disk) : FileAction -> List LedgerEvent
  | .begin io jobId fingerprint =>
      showsBegin io disk jobId fingerprint (beginOnDisk projectRoot io disk jobId fingerprint).2
  | .complete io jobId fingerprint result =>
      showsComplete io disk jobId fingerprint result
        (completeOnDisk projectRoot io disk jobId fingerprint result).2

/-! ## The two levels agree -/

abbrev Reflects (state : StoredState) (ledger : Ledger) : Prop :=
  Eviction.Reflects StoredJob.view state ledger

/-- The file decodes to what the map shows, whatever the order in which its jobs are
written. -/
def Represents (disk : Disk) (ledger : Ledger) : Prop :=
  Exists fun state : StoredState =>
    readKubernetesState ((disk kubernetesStateFile).map Utf8.text) = some state ∧
      Reflects state ledger

theorem represents_encode {disk : Disk} {state : StoredState} {ledger : Ledger}
    (written : disk kubernetesStateFile = some (Utf8.bytes (encode state)))
    (reflects : Reflects state ledger) : Represents disk ledger := by
  rcases readKubernetesState_encode state with ⟨read, decoded, same⟩
  refine ⟨read, ?_, fun jobId => ?_⟩
  · rw [written, Option.map_some, Utf8.text_bytes, decoded]
  · rw [same jobId]
    exact reflects jobId

theorem Represents.of_same {before after : Disk} {ledger : Ledger}
    (same : after kubernetesStateFile = before kubernetesStateFile)
    (represents : Represents before ledger) : Represents after ledger := by
  unfold Represents
  rw [same]
  exact represents

theorem file_ne_temporary (suffix : String) : kubernetesStateFile ≠ temporaryFile suffix := by
  intro same
  have texts := congrArg (fun text => text.toList.take 12) same
  unfold temporaryFile at texts
  rw [String.toList_append, List.take_append_of_le_length (by decide)] at texts
  revert texts
  decide

theorem isCompleted_view : (fun job => PersistedJob.isCompleted (StoredJob.view job)) =
    StoredJob.isCompleted := by
  funext job
  unfold PersistedJob.isCompleted StoredJob.view StoredJob.isCompleted
  by_cases completed : job.state = "completed"
  · rw [if_pos completed]
    exact (decide_eq_true rfl).trans (decide_eq_true completed).symm
  · rw [if_neg completed]
    have other : OperationState.inFlight ≠ .completed := by decide
    exact (decide_eq_false other).trans (decide_eq_false completed).symm

/-- The candidates of the map are the pairs of the file. -/
theorem candidates_perm {state : StoredState} {ledger : Ledger} (reflects : Reflects state ledger) :
    (Eviction.candidates PersistedJob.isCompleted PersistedJob.updatedAt ledger).Perm
      (storedPairs state) := by
  have perm := @Eviction.Reflects.candidates_perm _ _ _ _ _ _ _ _ PersistedJob.isCompleted
    PersistedJob.updatedAt reflects
  rw [isCompleted_view] at perm
  exact perm

theorem sort_arrangeLike (order : EvictionOrder) {pairs list : List (String × Int)}
    (same : list.Perm pairs) : (arrangeLike order pairs).sort list = order.sort pairs :=
  if_pos same

theorem prune_reflects {state : StoredState} {ledger : Ledger} {first second : EvictionOrder}
    {target : Nat} (reflects : Reflects state ledger)
    (agree : target < state.entries.length -> second.sort
      (Eviction.candidates PersistedJob.isCompleted PersistedJob.updatedAt ledger) =
        first.sort (storedPairs state)) :
    Reflects (pruneStored first state target)
      (pruneCompletedKubernetesJobs second ledger target) := by
  rw [prune_eq]
  have pruned := @Eviction.Reflects.prune _ _ _ _ _ _ _ _ PersistedJob.isCompleted
    PersistedJob.updatedAt _ reflects first.arrangement second.arrangement target
  rw [isCompleted_view] at pruned
  exact pruned fun larger => agree (by exact_mod_cast larger)

/-! ## Writing -/

/-- A write on the disk and a write of the map. -/
inductive Written (io : FileIO) (disk : Disk) (state : StoredState) (spec : LedgerIO)
    (ledger : Ledger) : Prop
  | stored (next : Ledger) (done : (writeDisk io disk state).2.inPlace = true)
      (same : writeKubernetesState spec ledger = some next)
      (represents : Represents (writeDisk io disk state).1 next)
  | refused (failed : (writeDisk io disk state).2.inPlace = false)
      (same : writeKubernetesState spec ledger = none)
      (kept : (writeDisk io disk state).1 kubernetesStateFile = disk kubernetesStateFile)

theorem written_of_reflects {io : FileIO} {disk : Disk} {state : StoredState} {spec : LedgerIO}
    {ledger : Ledger} (reflects : Reflects state ledger)
    (agree : maxCompletedJobs < state.entries.length -> spec.order.sort
      (Eviction.candidates PersistedJob.isCompleted PersistedJob.updatedAt ledger) =
        io.order.sort (storedPairs state))
    (writes : spec.writes = (writeDisk io disk state).2.inPlace) :
    Written io disk state spec ledger := by
  have pruned := @prune_reflects state ledger io.order spec.order maxCompletedJobs reflects agree
  have size := pruned.length
  by_cases large : maxCompletedJobs < (pruneStored io.order state maxCompletedJobs).entries.length
  · have out : writeDisk io disk state = (disk, .failed) := if_pos large
    refine .refused (by rw [out]; rfl) ?_ (by rw [out])
    exact if_pos (by rw [size]; exact large)
  · have out : writeDisk io disk state = replace kubernetesStateFile (temporaryFile io.suffix)
        (Utf8.bytes (encode (pruneStored io.order state maxCompletedJobs))) io.fate disk :=
      if_neg large
    have replaced := @replaced_replace _ _ _ _ _
      (Utf8.bytes (encode (pruneStored io.order state maxCompletedJobs)))
      (file_ne_temporary io.suffix) io.fate disk
    rw [← out] at replaced
    have same : writeKubernetesState spec ledger =
        if spec.writes then some (pruneCompletedKubernetesJobs spec.order ledger maxCompletedJobs)
        else none := if_neg (by rw [size]; exact large)
    rw [writes] at same
    have goal := replaced.goal
    cases done : (writeDisk io disk state).2.inPlace with
    | true =>
        rw [done, if_pos rfl] at same goal
        exact .stored _ done same (represents_encode goal pruned)
    | false =>
        rw [done, if_neg Bool.false_ne_true] at same goal
        exact .refused done same goal

theorem length_insert_le (state : StoredState) (jobId : String) (job : StoredJob) :
    (state.insert jobId job).entries.length ≤ state.entries.length + 1 := by
  have erased := (List.kerase_sublist jobId state.entries).length_le
  rw [AList.entries_insert, List.length_cons]
  omega

theorem view_begunJob (io : FileIO) (fingerprint : String) :
    (begunJob io fingerprint).view = ⟨fingerprint, .inFlight, none, io.now.toInt⟩ := by
  have other : "in_flight" ≠ "completed" := by decide
  unfold StoredJob.view begunJob
  dsimp only
  rw [if_neg other]
  rfl

theorem view_completedJob (io : FileIO) (fingerprint : String) (result : StoredResult) :
    (completedJob io fingerprint result).view =
      ⟨fingerprint, .completed, some result.view, io.now.toInt⟩ := by
  unfold StoredJob.view completedJob
  rw [if_pos rfl]
  rfl

section Simulation

variable {projectRoot : String} {io : FileIO} {disk : Disk} {ledger : Ledger}
variable {jobId fingerprint : String}

/-- An operation on the map that stands for an operation on the disk. -/
def Matched (projectRoot : String) (after : Disk) (ledger : Ledger) (events : List LedgerEvent) :
    Prop :=
  Exists fun next : Ledger =>
    (ledgerMachine projectRoot).perform ledger events = some next ∧ Represents after next

theorem matched_nil {after : Disk} (same : after kubernetesStateFile = disk kubernetesStateFile)
    (represents : Represents disk ledger) : Matched projectRoot after ledger [] :=
  ⟨ledger, rfl, represents.of_same same⟩

theorem matched_one {after : Disk} {event : LedgerEvent} {next : Ledger}
    (performed : event.perform projectRoot ledger = some next)
    (represents : Represents after next) : Matched projectRoot after ledger [event] :=
  ⟨next, (Machine.perform_one (ledgerMachine projectRoot) ledger event).trans performed, represents⟩

/-- The pairs that are pruned when the file is read. -/
theorem pairs_of_read {state : StoredState} (read : readDisk io disk = some state) :
    ((readDisk io disk).map storedPairs).getD [] = storedPairs state := by
  rw [read]
  rfl

/-- An operation that leaves the disk alone. -/
theorem matched_begin_same {answer : Answer StoredJob} (represents : Represents disk ledger)
    (out : beginOnDisk projectRoot io disk jobId fingerprint = (disk, answer))
    (told : answer ≠ .crashed)
    (performed : afterBegin ledger (beginKubernetesOperation projectRoot
      (io.ledgerIO (((readDisk io disk).map storedPairs).getD []) answer.inPlace) ledger jobId
        fingerprint) (answer.map StoredJob.view) = some ledger) :
    Matched projectRoot (beginOnDisk projectRoot io disk jobId fingerprint).1 ledger
      (shows projectRoot disk (.begin io jobId fingerprint)) := by
  change Matched _ _ _ (showsBegin _ _ _ _ _)
  rw [out]
  unfold showsBegin
  rw [if_neg told]
  exact matched_one performed represents

/-- The operation on the map when it does not know the id. -/
theorem begin_of_unknown {spec : LedgerIO} (rooted : projectRoot ≠ "") (reads : spec.reads ≠ false)
    (unknown : ledger.lookup jobId = none) :
    beginKubernetesOperation projectRoot spec ledger jobId fingerprint =
      if maxCompletedJobs ≤ (pruneCompletedKubernetesJobs spec.order ledger
          (maxCompletedJobs - 1)).entries.length then .unavailable
      else
        match writeKubernetesState spec ((pruneCompletedKubernetesJobs spec.order ledger
          (maxCompletedJobs - 1)).insert jobId ⟨fingerprint, .inFlight, none, spec.now⟩) with
        | none => .unavailable
        | some written => .begun written := by
  unfold beginKubernetesOperation
  rw [if_neg rooted, if_neg reads]
  generalize ledger.lookup jobId = entry at unknown ⊢
  subst unknown
  rfl

/-- The operation on the disk when the file does not have the id. -/
theorem matched_begin_unknown {state : StoredState} (represents : Represents disk ledger)
    (reflects : Reflects state ledger) (rooted : projectRoot ≠ "")
    (read : readDisk io disk = some state) (found : state.lookup jobId = none)
    (abstract : forall inPlace, beginKubernetesOperation projectRoot
      (io.ledgerIO (storedPairs state) inPlace) ledger jobId fingerprint =
      if maxCompletedJobs ≤ (pruneCompletedKubernetesJobs
          (arrangeLike io.order (storedPairs state)) ledger
            (maxCompletedJobs - 1)).entries.length then .unavailable
      else
        match writeKubernetesState (io.ledgerIO (storedPairs state) inPlace)
          ((pruneCompletedKubernetesJobs (arrangeLike io.order (storedPairs state)) ledger
            (maxCompletedJobs - 1)).insert jobId ⟨fingerprint, .inFlight, none, io.now.toInt⟩) with
        | none => .unavailable
        | some written => .begun written) :
    Matched projectRoot (beginOnDisk projectRoot io disk jobId fingerprint).1 ledger
      (shows projectRoot disk (.begin io jobId fingerprint)) := by
  have pairs := pairs_of_read read
  have pruned : Reflects (pruneStored io.order state (maxCompletedJobs - 1))
      (pruneCompletedKubernetesJobs (arrangeLike io.order (storedPairs state)) ledger
        (maxCompletedJobs - 1)) :=
    prune_reflects reflects fun _ => sort_arrangeLike io.order (candidates_perm reflects)
  have inserted := pruned.insert jobId (begunJob io fingerprint)
  rw [view_begunJob] at inserted
  rw [pruned.length] at abstract
  by_cases full : maxCompletedJobs ≤
      (pruneStored io.order state (maxCompletedJobs - 1)).entries.length
  · have out : beginOnDisk projectRoot io disk jobId fingerprint = (disk, .unavailable) := by
      unfold beginOnDisk
      rw [if_neg rooted, read]
      dsimp only
      rw [found]
      exact if_pos full
    refine matched_begin_same represents out (fun same => nomatch same) ?_
    rw [pairs, abstract, if_pos full]
    rfl
  · have out : beginOnDisk projectRoot io disk jobId fingerprint =
        ((writeDisk io disk ((pruneStored io.order state (maxCompletedJobs - 1)).insert jobId
            (begunJob io fingerprint))).1,
          .ofEnding (writeDisk io disk ((pruneStored io.order state
            (maxCompletedJobs - 1)).insert jobId (begunJob io fingerprint))).2) := by
      unfold beginOnDisk
      rw [if_neg rooted, read]
      dsimp only
      rw [found]
      exact if_neg full
    have room := length_insert_le (pruneStored io.order state (maxCompletedJobs - 1)) jobId
      (begunJob io fingerprint)
    generalize (pruneStored io.order state (maxCompletedJobs - 1)).insert jobId
      (begunJob io fingerprint) = started at out inserted room
    have written := fun inPlace => @written_of_reflects io disk started
      (io.ledgerIO (storedPairs state) inPlace) _ inserted (fun larger => by omega)
    change Matched _ _ _ (showsBegin _ _ _ _ _)
    rw [out]
    unfold showsBegin
    rw [pairs]
    cases written (writeDisk io disk started).2.inPlace rfl with
    | stored next done same represents =>
        cases ending : (writeDisk io disk started).2 with
        | failed | crashed =>
            rw [ending] at done
            cases done
        | finished | lost =>
            rw [done] at same
            rw [if_neg (fun impossible => nomatch impossible)]
            refine matched_one ?_ represents
            change afterBegin ledger (beginKubernetesOperation projectRoot
              (io.ledgerIO (storedPairs state) true) ledger jobId fingerprint) _ = _
            rw [abstract, if_neg full, same]
            rfl
    | refused failed same kept =>
        cases ending : (writeDisk io disk started).2 with
        | finished | lost =>
            rw [ending] at failed
            cases failed
        | failed =>
            rw [failed] at same
            rw [if_neg (fun impossible => nomatch impossible)]
            refine matched_one ?_ (represents.of_same kept)
            change afterBegin ledger (beginKubernetesOperation projectRoot
              (io.ledgerIO (storedPairs state) false) ledger jobId fingerprint) _ = _
            rw [abstract, if_neg full, same]
            rfl
        | crashed => exact matched_nil kept represents

theorem matched_begin (represents : Represents disk ledger) :
    Matched projectRoot (beginOnDisk projectRoot io disk jobId fingerprint).1 ledger
      (shows projectRoot disk (.begin io jobId fingerprint)) := by
  rcases id represents with ⟨state, decoded, reflects⟩
  by_cases rootless : projectRoot = ""
  · refine matched_begin_same represents (if_pos rootless) (fun same => nomatch same) ?_
    unfold beginKubernetesOperation
    rw [if_pos rootless]
    rfl
  cases readable : io.reads with
  | false =>
      have unread : readDisk io disk = none := if_neg (by rw [readable]; exact Bool.false_ne_true)
      have out : beginOnDisk projectRoot io disk jobId fingerprint = (disk, .unavailable) := by
        unfold beginOnDisk
        rw [if_neg rootless, unread]
      refine matched_begin_same represents out (fun same => nomatch same) ?_
      unfold beginKubernetesOperation FileIO.ledgerIO
      rw [if_neg rootless, if_pos readable]
      rfl
  | true =>
      have read : readDisk io disk = some state := (if_pos readable).trans decoded
      have pairs := pairs_of_read read
      have started : forall inPlace,
          (io.ledgerIO (storedPairs state) inPlace).reads ≠ false := by
        intro inPlace
        change io.reads ≠ false
        rw [readable]
        decide
      cases found : state.lookup jobId with
      | some job =>
          have out : beginOnDisk projectRoot io disk jobId fingerprint = (disk, .existing job) := by
            unfold beginOnDisk
            rw [if_neg rootless, read]
            dsimp only
            rw [found]
          have known : ledger.lookup jobId = some job.view := by
            rw [reflects jobId, found]
            rfl
          refine matched_begin_same represents out (fun same => nomatch same) ?_
          rw [pairs]
          unfold beginKubernetesOperation
          rw [if_neg rootless, if_neg (started _), known]
          exact if_pos rfl
      | none =>
          have unknown : ledger.lookup jobId = none := by
            rw [reflects jobId, found]
            rfl
          exact matched_begin_unknown represents reflects rootless read found
            fun inPlace => begin_of_unknown rootless (started inPlace) unknown

theorem matched_complete (result : StoredResult) (represents : Represents disk ledger) :
    Matched projectRoot (completeOnDisk projectRoot io disk jobId fingerprint result).1 ledger
      (shows projectRoot disk (.complete io jobId fingerprint result)) := by
  rcases id represents with ⟨state, decoded, reflects⟩
  change Matched _ _ _ (showsComplete _ _ _ _ _ _)
  unfold showsComplete
  by_cases rootless : projectRoot = ""
  · have out : completeOnDisk projectRoot io disk jobId fingerprint result = (disk, .failed) :=
      if_pos rootless
    rw [out, if_neg (fun impossible => nomatch impossible)]
    refine matched_one ?_ represents
    change afterComplete ledger (completeKubernetesOperation projectRoot _ _ _ _ _) _ = _
    unfold completeKubernetesOperation
    rw [if_pos rootless]
    rfl
  cases readable : io.reads with
  | false =>
      have out : completeOnDisk projectRoot io disk jobId fingerprint result =
          (disk, .failed) := by
        have unread : readDisk io disk = none :=
          if_neg (by rw [readable]; exact Bool.false_ne_true)
        unfold completeOnDisk
        rw [if_neg rootless, unread]
      rw [out, if_neg (fun impossible => nomatch impossible)]
      refine matched_one ?_ represents
      change afterComplete ledger (completeKubernetesOperation projectRoot _ _ _ _ _) _ = _
      unfold completeKubernetesOperation FileIO.ledgerIO
      rw [if_neg rootless, if_pos readable]
      rfl
  | true =>
      have read : readDisk io disk = some state := (if_pos readable).trans decoded
      have out : completeOnDisk projectRoot io disk jobId fingerprint result =
          writeDisk io disk (state.insert jobId (completedJob io fingerprint result)) := by
        unfold completeOnDisk
        rw [if_neg rootless, read]
      have pairs : ((readDisk io disk).map fun state =>
          storedPairs (state.insert jobId (completedJob io fingerprint result))).getD [] =
          storedPairs (state.insert jobId (completedJob io fingerprint result)) := by
        rw [read]
        rfl
      rw [out, pairs]
      have inserted := reflects.insert jobId (completedJob io fingerprint result)
      rw [view_completedJob] at inserted
      have abstract : forall pairs inPlace, completeKubernetesOperation projectRoot
          (io.ledgerIO pairs inPlace) ledger jobId fingerprint result.view =
            writeKubernetesState (io.ledgerIO pairs inPlace) (ledger.insert jobId
              ⟨fingerprint, .completed, some result.view, io.now.toInt⟩) := by
        intro pairs inPlace
        unfold completeKubernetesOperation
        rw [if_neg rootless, if_neg]
        · rfl
        · change io.reads ≠ false
          rw [readable]
          decide
      generalize state.insert jobId (completedJob io fingerprint result) = completed at inserted ⊢
      have written := fun inPlace => @written_of_reflects io disk completed
        (io.ledgerIO (storedPairs completed) inPlace) _ inserted fun _ =>
          sort_arrangeLike io.order (candidates_perm inserted)
      cases written (writeDisk io disk completed).2.inPlace rfl with
      | stored next done same represents =>
          cases ending : (writeDisk io disk completed).2 with
          | failed | crashed =>
              rw [ending] at done
              cases done
          | finished | lost =>
              rw [done] at same
              rw [if_neg (fun impossible => nomatch impossible)]
              refine matched_one ?_ represents
              change afterComplete ledger (completeKubernetesOperation projectRoot
                (io.ledgerIO (storedPairs completed) true) ledger jobId fingerprint _) _ = _
              rw [abstract, same]
              rfl
      | refused failed same kept =>
          cases ending : (writeDisk io disk completed).2 with
          | finished | lost =>
              rw [ending] at failed
              cases failed
          | failed =>
              rw [failed] at same
              rw [if_neg (fun impossible => nomatch impossible)]
              refine matched_one ?_ (represents.of_same kept)
              change afterComplete ledger (completeKubernetesOperation projectRoot
                (io.ledgerIO (storedPairs completed) false) ledger jobId fingerprint _) _ = _
              rw [abstract, same]
              rfl
          | crashed => exact matched_nil kept represents

end Simulation

/-! ## Runs -/

/-- No ledger has been written yet. -/
def Blank (disk : Disk) : Prop := disk kubernetesStateFile = none

/-- The operations on the disk refine the operations on the map. -/
def refinement (projectRoot : String) : Machine.Refinement (diskMachine projectRoot Blank)
    (fun _ _ => True) (shows projectRoot) (ledgerMachine projectRoot) where
  related := Represents
  start := by
    intro disk blank
    refine ⟨∅, rfl, ∅, ?_, fun jobId => ?_⟩
    · rw [show disk kubernetesStateFile = none from blank]
      rfl
    · rw [AList.lookup_empty, AList.lookup_empty]
      rfl
  step := by
    intro before action after ledger _ stepped represents
    cases stepped
    cases action with
    | begin io jobId fingerprint => exact matched_begin represents
    | complete io jobId fingerprint result => exact matched_complete result represents

/-- Every run on the disk, with its failures and interruptions, tells the
callers what a run of the decoded map tells them, and its file decodes to the
map behind that run.  So what is proved of the ledger as a map holds of the agent
that keeps it in a file, writes it beside the old one and renames it. -/
theorem ledger_of_disk (projectRoot : String) {events : List LedgerEvent} {disk : Disk}
    (run : Machine.Trace (diskMachine projectRoot Blank) (fun _ _ => True) (shows projectRoot)
      events disk) :
    Exists fun ledger : Ledger =>
      (ledgerMachine projectRoot).perform ∅ events = some ledger ∧ Represents disk ledger := by
  rcases (refinement projectRoot).performs run with ⟨begin, rfl, ledger, performed, represents⟩
  exact ⟨ledger, performed, represents⟩

/-- A sample job that a process begins and is cut off when it records the
result, before and behind the renaming. -/
def sampleActions : List FileAction :=
  let whole : Fate := ⟨6, 0, false, true⟩
  let io : FileIO := ⟨1000, .stable, true, "17", whole⟩
  let result : StoredResult := ⟨"succeeded", 7, 6, "", ""⟩
  [.begin io "job-1" "f", .complete { io with fate := ⟨2, 9, true, true⟩ } "job-1" "f" result,
    .begin { io with suffix := "18" } "job-1" "f",
    .complete { io with suffix := "18", fate := ⟨6, 0, true, true⟩ } "job-1" "f" result,
    .begin { io with suffix := "19" } "job-1" "f"]

/-- What the callers of the operations that show something are told. -/
def LedgerEvent.told : LedgerEvent -> Answer PersistedJob
  | .begin _ _ _ answer => answer
  | .complete _ _ _ _ ending => .ofEnding ending

/-- The interrupted recording is repeated, and the result that no one was told
of is answered. -/
theorem ledger_of_disk_sample : Exists fun events : List LedgerEvent =>
    Exists fun disk : Disk => Exists fun ledger : Ledger =>
      (ledgerMachine "/srv/shop").perform ∅ events = some ledger ∧ Represents disk ledger ∧
        events.map LedgerEvent.told = [.begun, .existing ⟨"f", .inFlight, none, 1000⟩, .lost,
          .existing ⟨"f", .completed, some ⟨"succeeded", 7, 6, "", ""⟩, 1000⟩] := by
  rcases Machine.exists_trace_of_record (diskMachine "/srv/shop" Blank) (fun _ _ => True)
    (shows "/srv/shop") sampleActions (fun _ => none) rfl
    (fun last => decide (last.1.map LedgerEvent.told = [.begun,
      .existing ⟨"f", .inFlight, none, 1000⟩, .lost,
      .existing ⟨"f", .completed, some ⟨"succeeded", 7, 6, "", ""⟩, 1000⟩])) (by decide +kernel)
    with ⟨last, run, told⟩
  rcases ledger_of_disk "/srv/shop" run with ⟨ledger, performed, represents⟩
  exact ⟨last.1, last.2, ledger, performed, represents, of_decide_eq_true told⟩

/-! ## The files of the project root -/

/-- What the operations leave of a disk: the file of the ledger is as it was or
holds a whole ledger, a temporary file that is left over holds the front of one,
and every other file is as it was. -/
structure Kept (start disk : Disk) : Prop where
  ledger : disk kubernetesStateFile = start kubernetesStateFile ∨
    Exists fun state : StoredState => state.entries.length ≤ maxCompletedJobs ∧
      disk kubernetesStateFile = some (Utf8.bytes (encode state))
  leftovers : forall suffix, disk (temporaryFile suffix) = start (temporaryFile suffix) ∨
    Exists fun state : StoredState => Exists fun count : Nat =>
      disk (temporaryFile suffix) = some ((Utf8.bytes (encode state)).take count)
  others : forall name, name ≠ kubernetesStateFile ->
    (forall suffix, name ≠ temporaryFile suffix) -> disk name = start name

theorem temporaryFile_injective {first second : String}
    (same : temporaryFile first = temporaryFile second) : first = second := by
  have texts := congrArg String.toList same
  unfold temporaryFile at texts
  rw [String.toList_append, String.toList_append] at texts
  exact String.toList_inj.mp (List.append_cancel_left texts)

theorem Kept.writeDisk {start disk : Disk} (kept : Kept start disk) (io : FileIO)
    (state : StoredState) : Kept start (writeDisk io disk state).1 := by
  by_cases large : maxCompletedJobs < (pruneStored io.order state maxCompletedJobs).entries.length
  · have out : LedgerFile.writeDisk io disk state = (disk, .failed) := if_pos large
    rw [out]
    exact kept
  · have out : LedgerFile.writeDisk io disk state =
        replace kubernetesStateFile (temporaryFile io.suffix)
          (Utf8.bytes (encode (pruneStored io.order state maxCompletedJobs))) io.fate disk :=
      if_neg large
    have replaced := @replaced_replace _ _ _ _ _
      (Utf8.bytes (encode (pruneStored io.order state maxCompletedJobs)))
      (file_ne_temporary io.suffix) io.fate disk
    rw [← out] at replaced
    have goal := replaced.goal
    refine ⟨?_, ?_, ?_⟩
    · cases done : (LedgerFile.writeDisk io disk state).2.inPlace with
      | true =>
          rw [done, if_pos rfl] at goal
          exact .inr ⟨_, Nat.le_of_not_lt large, goal⟩
      | false =>
          rw [done, if_neg Bool.false_ne_true] at goal
          rw [goal]
          exact kept.ledger
    · intro suffix
      by_cases own : suffix = io.suffix
      · rw [own]
        rcases replaced.leftover with same | ⟨count, written⟩
        · rw [same]
          exact kept.leftovers io.suffix
        · exact .inr ⟨_, count, written⟩
      · rw [replaced.others _ (file_ne_temporary suffix).symm
          fun same => own (temporaryFile_injective same)]
        exact kept.leftovers suffix
    · intro name first second
      rw [replaced.others name first (second io.suffix)]
      exact kept.others name first second

theorem Kept.perform {projectRoot : String} {start disk : Disk} (kept : Kept start disk)
    (action : FileAction) : Kept start (action.perform projectRoot disk) := by
  cases action with
  | begin io jobId fingerprint =>
      change Kept start (beginOnDisk projectRoot io disk jobId fingerprint).1
      unfold beginOnDisk
      split
      · exact kept
      · split
        · exact kept
        · rename_i state _
          split
          · exact kept
          · dsimp only
            by_cases full : maxCompletedJobs ≤
                (pruneStored io.order state (maxCompletedJobs - 1)).entries.length
            · rw [if_pos full]
              exact kept
            · rw [if_neg full]
              dsimp only
              exact kept.writeDisk io _
  | complete io jobId fingerprint result =>
      change Kept start (completeOnDisk projectRoot io disk jobId fingerprint result).1
      unfold completeOnDisk
      split
      · exact kept
      · split
        · exact kept
        · exact kept.writeDisk io _

/-- In every run the file of the ledger is never torn, whatever fails and
wherever the process ends, and no file of another name is touched.  It is
as it was at the start, or the whole text of a ledger that keeps its bound. -/
theorem kept_of_run (projectRoot : String) (start : Disk) {disk : Disk}
    (reached : (diskMachine projectRoot fun disk => disk = start).Reachable disk) :
    Kept start disk := by
  refine reached.invariant ?_ ?_
  · rintro _ rfl
    exact ⟨.inl rfl, fun _ => .inl rfl, fun _ _ _ => rfl⟩
  · intro before action after _ kept _ stepped
    cases stepped
    exact kept.perform action

/-- A first job is cut off while its ledger is written. -/
theorem kept_of_run_sample : Exists fun disk : Disk =>
    disk (temporaryFile "17") = some (Utf8.bytes "\x7b\"job") ∧ disk kubernetesStateFile = none ∧
      disk "manage.py" = some [] := by
  let start : Disk := fun name => if name = "manage.py" then some [] else none
  let io : FileIO := ⟨1000, .stable, true, "17", ⟨2, 5, true, true⟩⟩
  have reached : (diskMachine "/srv/shop" fun disk => disk = start).Reachable
      ((FileAction.begin io "job-1" "f").perform "/srv/shop" start) :=
    (Machine.ReachableUnder.start rfl).next (.begin io "job-1" "f") trivial rfl
  have kept := kept_of_run "/srv/shop" start reached
  refine ⟨_, by decide +kernel, by decide +kernel, kept.others "manage.py" (by decide) ?_⟩
  intro suffix same
  have starts := congrArg (fun text => text.toList.head?) same
  unfold temporaryFile at starts
  rw [String.toList_append] at starts
  cases starts

end LedgerFile
end Agent
end DjangoOps
