import DjangoOps.ControlPlane.QueryLimits
import DjangoOps.ControlPlane.Telemetry

namespace DjangoOps
namespace ControlPlane
namespace GraphqlView

open Transition GraphQL

/-!
# The GraphQL view and its telemetry

`graphql_view` observes every request: it starts an operation before it reads
the body, and finishes it in a `finally` clause, so also when an exception
leaves the view.  The requests of several threads interleave with each other,
with the signals of saved rows and with the export.

The parser of queries and the executor are parameters, with what they return or
raise.
-/

/-! ## A request -/

/-- An exception is one of the `except` clause, or it leaves the view. -/
inductive Raised
  | invalid
  | other
  deriving DecidableEq

/-- The value of `query` in the body. -/
inductive QueryField
  | missing
  | text (query : String)
  | other

/-- The body as `json.loads` reads it, with its variables. -/
inductive Payload (Values : Type)
  | object (query : QueryField) (values : Values)
  | other
  | raised (error : Raised)

/-- `ExecutionResult` -/
structure Execution (Data : Type) where
  data : Option Data
  errors : Nat

structure Body (Data : Type) where
  data : Option Data
  errors : List String
  deriving DecidableEq

inductive Reply (Data : Type)
  | json (status : Nat) (body : Body Data)
  | raised
  deriving DecidableEq

/-- What the view is given: its telemetry and limits, the parser of queries, and the
executor, which return or raise anything. -/
structure Setting (Values Data : Type) where
  telemetry : Telemetry.Setting
  limits : Limits
  isBlank : String -> Bool
  parse : String -> Except Raised Document
  graphqlSync : String -> Values -> Except Raised (Execution Data)

variable {Values Data : Type}

/-- A response of status 400 with one error. -/
def refused (message : String) : Reply Data := .json 400 ⟨none, [message]⟩

/-- The `except` clause. -/
def Raised.reply : Raised -> Reply Data
  | .invalid => refused "invalid GraphQL request"
  | .other => .raised

/-- The response to the result of an execution. -/
def executed (execution : Execution Data) : String × Reply Data :=
  let errors := List.replicate execution.errors "request could not be completed"
  (if execution.errors = 0 then "succeeded" else "failed",
    .json (if execution.errors = 0 then 200 else 400) ⟨execution.data, errors⟩)

/-- A query behind the check that it is given. -/
def answerQuery (setting : Setting Values Data) (query : String) (values : Values) :
    String × Reply Data :=
  match resourceError setting.parse setting.limits query with
  | .error error => ("failed", error.reply)
  | .ok (some message) => ("failed", refused message)
  | .ok none =>
      match setting.graphqlSync query values with
      | .error error => ("failed", error.reply)
      | .ok execution => executed execution

/-- What `graphql_view` does within its `try`: the outcome that it finishes
with, and its reply.  A body that is no object has no `get`. -/
def answer (setting : Setting Values Data) : Payload Values -> String × Reply Data
  | .raised error => ("failed", error.reply)
  | .other => ("failed", .raised)
  | .object .missing _ => ("failed", refused "query is required")
  | .object .other _ => ("failed", refused "query is required")
  | .object (.text query) values =>
      if setting.isBlank query then ("failed", refused "query is required")
      else answerQuery setting query values

def Reply.succeeded : Reply Data -> Bool
  | .json status _ => decide (status = 200)
  | .raised => false

/-- The outcome tells what was replied. -/
def Tells (answered : String × Reply Data) : Prop :=
  answered.1 = if answered.2.succeeded then "succeeded" else "failed"

theorem tells_failed {reply : Reply Data} (failed : reply.succeeded = false) :
    Tells ("failed", reply) := by
  unfold Tells
  dsimp only
  rw [failed]
  rfl

theorem tells_raised (error : Raised) : Tells (("failed", error.reply) : String × Reply Data) :=
  tells_failed (by cases error <;> rfl)

theorem tells_executed (execution : Execution Data) : Tells (executed execution) := by
  unfold Tells executed
  by_cases none : execution.errors = 0
  · simp only [if_pos none, Reply.succeeded, decide_true, if_true]
  · simp only [if_neg none, Reply.succeeded]
    rfl

theorem tells_answerQuery (setting : Setting Values Data) (query : String) (values : Values) :
    Tells (answerQuery setting query values) := by
  unfold answerQuery
  split
  · exact tells_raised _
  · exact tells_failed rfl
  · split
    · exact tells_raised _
    · exact tells_executed _

theorem tells_answer (setting : Setting Values Data) (payload : Payload Values) :
    Tells (answer setting payload) := by
  cases payload with
  | raised error => exact tells_raised error
  | other => exact tells_failed rfl
  | object query values =>
      cases query with
      | missing => exact tells_failed rfl
      | other => exact tells_failed rfl
      | text query =>
          unfold answer
          dsimp only
          split
          · exact tells_failed rfl
          · exact tells_answerQuery setting query values

/-! ## Threads -/

/-- The telemetry, the requests that are under way by their numbers, and the replies so
far. -/
structure State (Data : Type) where
  telemetry : Telemetry.State
  requests : List Nat
  replies : List (Reply Data)

/-- The part of the telemetry that runs by itself. -/
inductive Background
  | enqueue (call : Nat)
  | drop (call : Nat)
  | ensureWorker (call : Nat)
  | launch (call : Nat)
  | get (worker : Nat)
  | exported (worker : Nat)
  | raised (worker : Nat) (error : Telemetry.ExportError)

def Background.action : Background -> Telemetry.Action
  | .enqueue call => .enqueue call
  | .drop call => .drop call
  | .ensureWorker call => .ensureWorker call
  | .launch call => .launch call
  | .get worker => .get worker
  | .exported worker => .exported worker
  | .raised worker error => .raised worker error

/-- `arrive` is the call of `start`, and `leave` the rest of the view.  The two
signals observe an operation that has not been started. -/
inductive Action (Values : Type)
  | arrive (request : Nat)
  | leave (request : Nat) (payload : Payload Values) (durationMs : Int)
  | diagnosticSaved (status : String) (durationMs : Int)
  | releaseSaved (status : String) (durationMs : Int)
  | background (part : Background)

/-- What an action is to the telemetry. -/
def telemetryAction (setting : Setting Values Data) : Action Values -> Telemetry.Action
  | .arrive _ => .start "controlplane" "graphql"
  | .leave _ payload durationMs =>
      .observe "controlplane" "graphql" (answer setting payload).1 durationMs true
  | .diagnosticSaved status durationMs =>
      .observe "controlplane" "diagnostic" status durationMs false
  | .releaseSaved status durationMs =>
      .observe "controlplane" "kubernetes_release" status durationMs false
  | .background part => part.action

def step (setting : Setting Values Data) (state : State Data) (action : Action Values) :
    Option (State Data) :=
  (Telemetry.step setting.telemetry state.telemetry (telemetryAction setting action)).bind
    fun telemetry =>
      match action with
      | .arrive request =>
          if request ∈ state.requests then none
          else some { state with telemetry := telemetry, requests := request :: state.requests }
      | .leave request payload _ =>
          if request ∈ state.requests then
            some
              { telemetry := telemetry
                requests := state.requests.erase request
                replies := state.replies ++ [(answer setting payload).2] }
          else none
      | _ => some { state with telemetry := telemetry }

def machine (setting : Setting Values Data) : Machine (State Data) (Action Values) where
  initial := fun state => state = ⟨Telemetry.initial, [], []⟩
  step := step setting

/-- An export that fails raises an `OSError`. -/
def RaisesOsError (setting : Setting Values Data) (action : Action Values) : Prop :=
  Telemetry.RaisesOsError (telemetryAction setting action)

instance (setting : Setting Values Data) (action : Action Values) :
    Decidable (RaisesOsError setting action) := by
  unfold RaisesOsError
  infer_instance

/-! ## What a step does to the numbers -/

section Steps

variable {setting : Setting Values Data} {before after : State Data} {action : Action Values}

def countsAfter (counts : Counter (String × String × String)) :
    Telemetry.Action -> Counter (String × String × String)
  | .observe component kind outcome _ _ => counts.add (Telemetry.labels component kind outcome) 1
  | _ => counts

def inflightAfter (inflight : Counter (String × String)) :
    Telemetry.Action -> Counter (String × String)
  | .start component kind => inflight.add (Telemetry.gaugeKey component kind) 1
  | .observe component kind _ _ true =>
      inflight.set (Telemetry.gaugeKey component kind)
        (max 0 (inflight.get (Telemetry.gaugeKey component kind) - 1))
  | _ => inflight

theorem counters_step {setting : Telemetry.Setting} {before after : Telemetry.State}
    {action : Telemetry.Action} (stepped : Telemetry.step setting before action = some after) :
    after.fields.counts = countsAfter before.fields.counts action ∧
      after.fields.inflight = inflightAfter before.fields.inflight action := by
  cases Telemetry.step_move stepped with
  | observe component kind outcome durationMs decrementInflight =>
      cases decrementInflight <;> exact ⟨rfl, rfl⟩
  | _ => exact ⟨rfl, rfl⟩

/-- What a step does besides the telemetry. -/
inductive Moved (setting : Setting Values Data) (before after : State Data) :
    Action Values -> Prop
  | arrived {request : Nat} (free : request ∉ before.requests)
      (requests : after.requests = request :: before.requests)
      (replies : after.replies = before.replies) : Moved setting before after (.arrive request)
  | left {request : Nat} {payload : Payload Values} {durationMs : Int}
      (present : request ∈ before.requests)
      (requests : after.requests = before.requests.erase request)
      (replies : after.replies = before.replies ++ [(answer setting payload).2]) :
      Moved setting before after (.leave request payload durationMs)
  | other {action : Action Values} (requests : after.requests = before.requests)
      (replies : after.replies = before.replies)
      (counts : forall outcome, (countsAfter before.telemetry.fields.counts
        (telemetryAction setting action)).get ("controlplane", "graphql", outcome) =
          before.telemetry.fields.counts.get ("controlplane", "graphql", outcome))
      (inflight : (inflightAfter before.telemetry.fields.inflight
        (telemetryAction setting action)).get ("controlplane", "graphql") =
          before.telemetry.fields.inflight.get ("controlplane", "graphql"))
      (unpaired : forall state, Telemetry.FollowsStart state (telemetryAction setting action)) :
      Moved setting before after action

theorem step_moved (stepped : step setting before action = some after) :
    Telemetry.step setting.telemetry before.telemetry (telemetryAction setting action) =
        some after.telemetry ∧
      Moved setting before after action := by
  rcases Option.bind_eq_some_iff.mp stepped with ⟨telemetry, own, rest⟩
  have observed : forall (kind status outcome : String),
      (Telemetry.labels "controlplane" kind status).2.1 ≠ "graphql" ->
        (before.telemetry.fields.counts.add (Telemetry.labels "controlplane" kind status) 1).get
            ("controlplane", "graphql", outcome) =
          before.telemetry.fields.counts.get ("controlplane", "graphql", outcome) := by
    intro kind status outcome different
    rw [Counter.get_add, if_neg, Nat.add_zero]
    exact fun same => different (congrArg (fun key => key.2.1) same)
  cases action with
  | arrive request =>
      dsimp only at rest
      split at rest
      · cases rest
      · rename_i free
        cases rest
        exact ⟨own, .arrived free rfl rfl⟩
  | leave request payload durationMs =>
      dsimp only at rest
      split at rest
      · rename_i present
        cases rest
        exact ⟨own, .left present rfl rfl⟩
      · cases rest
  | diagnosticSaved status durationMs =>
      cases rest
      refine ⟨own, .other rfl rfl (fun outcome => observed "diagnostic" status outcome ?_) rfl
        fun _ => trivial⟩
      change (if "diagnostic" ∈ Telemetry.allowedKinds then "diagnostic" else "diagnostic") ≠ _
      decide
  | releaseSaved status durationMs =>
      cases rest
      refine ⟨own, .other rfl rfl
        (fun outcome => observed "kubernetes_release" status outcome ?_) rfl fun _ => trivial⟩
      change (if "kubernetes_release" ∈ Telemetry.allowedKinds then "kubernetes_release"
        else "diagnostic") ≠ _
      decide
  | background part =>
      cases rest
      cases part <;> exact ⟨own, .other rfl rfl (fun _ => rfl) rfl fun _ => trivial⟩

end Steps

/-! ## Runs -/

/-- What the numbers of the telemetry say about requests. -/
structure Counted (state : State Data) : Prop where
  distinct : state.requests.Nodup
  gauge : state.telemetry.fields.inflight.get ("controlplane", "graphql") = state.requests.length
  succeeded : state.telemetry.fields.counts.get ("controlplane", "graphql", "succeeded") =
    state.replies.countP Reply.succeeded
  failed : state.telemetry.fields.counts.get ("controlplane", "graphql", "failed") =
    state.replies.countP fun reply => !reply.succeeded
  others : forall outcome, outcome ≠ "succeeded" -> outcome ≠ "failed" ->
    state.telemetry.fields.counts.get ("controlplane", "graphql", outcome) = 0

section Runs

variable {setting : Setting Values Data} {before after : State Data} {action : Action Values}

/-- The counts of the replies behind one more reply. -/
theorem counted_reply {replies : List (Reply Data)} {answered : String × Reply Data}
    (tells : Tells answered) {counts : Counter (String × String × String)}
    (succeeded : counts.get ("controlplane", "graphql", "succeeded") =
      replies.countP Reply.succeeded)
    (failed : counts.get ("controlplane", "graphql", "failed") =
      replies.countP fun reply => !reply.succeeded)
    (others : forall outcome, outcome ≠ "succeeded" -> outcome ≠ "failed" ->
      counts.get ("controlplane", "graphql", outcome) = 0) :
    let after := counts.add (Telemetry.labels "controlplane" "graphql" answered.1) 1
    after.get ("controlplane", "graphql", "succeeded") =
        (replies ++ [answered.2]).countP Reply.succeeded ∧
      after.get ("controlplane", "graphql", "failed") =
        (replies ++ [answered.2]).countP (fun reply => !reply.succeeded) ∧
      forall outcome, outcome ≠ "succeeded" -> outcome ≠ "failed" ->
        after.get ("controlplane", "graphql", outcome) = 0 := by
  unfold Tells at tells
  have good : Telemetry.labels "controlplane" "graphql" "succeeded" =
      ("controlplane", "graphql", "succeeded") := by decide
  have bad : Telemetry.labels "controlplane" "graphql" "failed" =
      ("controlplane", "graphql", "failed") := by decide
  dsimp only
  rw [List.countP_append, List.countP_append, List.countP_singleton, List.countP_singleton]
  cases fine : answered.2.succeeded with
  | true =>
      rw [fine, if_pos rfl] at tells
      rw [tells, good]
      refine ⟨?_, ?_, fun outcome first second => ?_⟩
      · rw [Counter.get_add, if_pos rfl, succeeded, if_pos rfl]
      · rw [Counter.get_add, if_neg (by decide), failed]
        rfl
      · rw [Counter.get_add, if_neg, others outcome first second]
        exact fun same => first (congrArg (fun key => key.2.2) same).symm
  | false =>
      rw [fine, if_neg Bool.false_ne_true] at tells
      rw [tells, bad]
      refine ⟨?_, ?_, fun outcome first second => ?_⟩
      · rw [Counter.get_add, if_neg (by decide), succeeded, if_neg Bool.false_ne_true]
      · rw [Counter.get_add, if_pos rfl, failed]
        rfl
      · rw [Counter.get_add, if_neg, others outcome first second]
        exact fun same => second (congrArg (fun key => key.2.2) same).symm

theorem counted_step (counted : Counted before)
    (stepped : step setting before action = some after) : Counted after := by
  rcases step_moved stepped with ⟨own, moved⟩
  rcases counters_step own with ⟨counts, inflight⟩
  cases moved with
  | @arrived request free requests replies =>
      refine ⟨?_, ?_, ?_, ?_, ?_⟩
      · rw [requests]
        exact List.nodup_cons.mpr ⟨free, counted.distinct⟩
      · have key : Telemetry.gaugeKey "controlplane" "graphql" = ("controlplane", "graphql") := by
          decide
        rw [inflight, requests, List.length_cons, ← counted.gauge]
        change (before.telemetry.fields.inflight.add
          (Telemetry.gaugeKey "controlplane" "graphql") 1).get _ = _
        rw [key, Counter.get_add, if_pos rfl]
      · rw [counts, replies]
        exact counted.succeeded
      · rw [counts, replies]
        exact counted.failed
      · rw [counts]
        exact counted.others
  | @left request payload durationMs present requests replies =>
      rcases counted_reply (tells_answer setting payload) counted.succeeded counted.failed
        counted.others with ⟨succeeded, failed, others⟩
      refine ⟨?_, ?_, ?_, ?_, ?_⟩
      · rw [requests]
        exact counted.distinct.erase request
      · rw [inflight, requests, List.length_erase_of_mem present, ← counted.gauge]
        refine (Counter.get_set_self _ ("controlplane", "graphql") _).trans ?_
        exact Nat.max_eq_right (Nat.zero_le _)
      · rw [counts, replies]
        exact succeeded
      · rw [counts, replies]
        exact failed
      · rw [counts]
        exact others
  | other requests replies kept gauge _ =>
      refine ⟨?_, ?_, ?_, ?_, ?_⟩
      · rw [requests]
        exact counted.distinct
      · rw [inflight, requests, gauge]
        exact counted.gauge
      · rw [counts, replies, kept]
        exact counted.succeeded
      · rw [counts, replies, kept]
        exact counted.failed
      · intro outcome first second
        rw [counts, kept]
        exact counted.others outcome first second

theorem counted_of_run {state : State Data} (reached : (machine setting).Reachable state) :
    Counted state := by
  refine reached.invariant ?_ ?_
  · rintro _ rfl
    exact ⟨List.nodup_nil, rfl, rfl, rfl, fun _ _ _ => rfl⟩
  · intro before action after _ counted _ stepped
    exact counted_step counted stepped

/-- A finish of the view follows its own start. -/
theorem followsStart (counted : Counted before)
    (gauge : forall key, before.telemetry.fields.inflight.get key +
      before.telemetry.history.finished.get key = before.telemetry.history.started.get key)
    (moved : Moved setting before after action) :
    Telemetry.FollowsStart before.telemetry (telemetryAction setting action) := by
  cases moved with
  | arrived => exact trivial
  | left present =>
      have same := gauge ("controlplane", "graphql")
      rw [counted.gauge] at same
      have some := List.length_pos_of_mem present
      have key : Telemetry.gaugeKey "controlplane" "graphql" = ("controlplane", "graphql") := by
        decide
      change before.telemetry.history.finished.get (Telemetry.gaugeKey "controlplane" "graphql") <
        before.telemetry.history.started.get (Telemetry.gaugeKey "controlplane" "graphql")
      rw [key]
      omega
  | other _ _ _ _ unpaired => exact unpaired _

theorem sound_of_run {state : State Data}
    (reached : (machine setting).ReachableUnder (fun _ action => RaisesOsError setting action)
      state) : Telemetry.Sound setting.telemetry state.telemetry := by
  refine @Machine.ReachableUnder.invariant _ _ _ _
    (fun state : State Data => Telemetry.Sound setting.telemetry state.telemetry) ?_ ?_ _ reached
  · rintro _ rfl
    exact Telemetry.sound_initial _
  · intro before action after earlier sound raises stepped
    rcases step_moved stepped with ⟨own, moved⟩
    exact Telemetry.sound_step sound
      (followsStart (counted_of_run earlier.reachable) sound.gauge moved) raises own

end Runs

/-- In every run of requests, signals and exports the gauge of GraphQL is the
number of requests under way, and the totals of its two outcomes are the
numbers of replies with and without the status 200.  No finish lacks its start,
so the accounts of the telemetry hold whenever a failed export raises an
`OSError`. -/
theorem requests_accounted (setting : Setting Values Data) :
    (forall state, (machine setting).Reachable state -> Counted state) ∧
    forall state, (machine setting).ReachableUnder (fun _ action => RaisesOsError setting action)
      state -> Telemetry.Accounted setting.telemetry state.telemetry :=
  ⟨fun _ reached => counted_of_run reached, fun _ reached => (sound_of_run reached).accounted⟩

/-- Queries are parsed to the empty document, and every execution returns data. -/
def sampleSetting : Setting Unit Nat where
  telemetry := ⟨true, 256⟩
  limits := ⟨8, 80, false⟩
  isBlank := fun query => decide (query = "")
  parse := fun _ => .ok ⟨[]⟩
  graphqlSync := fun _ _ => .ok ⟨some 1, 0⟩

/-- Two requests arrive; a body that is a list leaves the view with an
exception, a query is executed, and a third request is still under way. -/
def sampleRun : List (Action Unit) :=
  [.arrive 0, .arrive 1, .leave 0 .other 5, .background (.enqueue 0), .background (.ensureWorker 0),
    .background (.launch 0), .background (.get 0), .background (.raised 0 .osError),
    .diagnosticSaved "succeeded" 7, .arrive 2, .leave 1 (.object (.text "query") ()) 3]

theorem requests_accounted_sample : Exists fun state : State Nat =>
    (Counted state ∧ Telemetry.Accounted sampleSetting.telemetry state.telemetry) ∧
      (state.requests = [2] ∧ state.replies = [.raised, .json 200 ⟨some 1, []⟩] ∧
        state.telemetry.fields.inflight.get ("controlplane", "graphql") = 1) := by
  rcases (machine sampleSetting).exists_reachableUnder_of_replay
    (fun _ action => RaisesOsError sampleSetting action) sampleRun ⟨Telemetry.initial, [], []⟩ rfl
    (fun state => decide (state.requests = [2] ∧
      state.replies = [.raised, .json 200 ⟨some 1, []⟩] ∧
        state.telemetry.fields.inflight.get ("controlplane", "graphql") = 1))
    (by decide +kernel) with ⟨state, reached, tested⟩
  have accounted := requests_accounted sampleSetting
  exact ⟨state, ⟨accounted.1 state reached.reachable, accounted.2 state reached⟩,
    of_decide_eq_true tested⟩

end GraphqlView
end ControlPlane
end DjangoOps
