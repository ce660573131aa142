import DjangoOps.Agent.Diagnostics
import DjangoOps.ControlPlane.Operations
import DjangoOps.Gateway.Delivery

namespace DjangoOps
namespace ControlPlane

open Protocol Gateway Agent.Diagnostics

/-!
# The verdict on a diagnostics job

The agent reports `healthy`, `unhealthy` or `canceled`, and the failure frames
of the gateway carry the status `failed`.  The consumer knows `succeeded`,
`cancelled` and `disconnected`, which neither of them ever sends, and treats
every other status as a failure.
-/

/-- The frames that the consumer of a job receives. -/
def receivedFrames (runner : Agent.DiagnosticsRunner) (world : World)
    (request : DiagnosticsRequest) : List AgentFrame :=
  yielded .diagnostic request.jobId 1 (arrivals runner world request)

/-- The row after the whole job. -/
def finalOperation (casing : Casing) (runner : Agent.DiagnosticsRunner) (world : World)
    (request : DiagnosticsRequest)
    (others : Nat -> DiagnosticOperation -> DiagnosticOperation)
    (operation : DiagnosticOperation) : DiagnosticOperation :=
  operation.consume casing
    (DiagnosticOperation.interleave others (receivedFrames runner world request)) none

section Received

variable {runner : Agent.DiagnosticsRunner} {world : World} {request : DiagnosticsRequest}

/-- Numbered progress frames are passed on. -/
theorem yielded_progressFrames (jobId : String) (reports : List Phase) (next : Nat)
    (rest : List AgentFrame) :
    yielded .diagnostic jobId next ((progressFrames jobId next reports).map Prod.snd ++ rest) =
      (progressFrames jobId next reports).map Prod.snd ++
        yielded .diagnostic jobId (next + reports.length) rest := by
  induction reports generalizing next with
  | nil => rfl
  | cons report others inductionHypothesis =>
      have number : forall event : ProgressEvent,
          (AgentFrame.progress event).sequence = event.sequence := fun _ => rfl
      have unfinished : forall event : ProgressEvent,
          (AgentFrame.progress event).isTerminal = false := fun _ => rfl
      simp only [progressFrames, List.map_cons, List.cons_append, yielded, number, unfinished,
        ne_eq, not_true_eq_false, if_false, Bool.false_eq_true, List.length_cons,
        inductionHypothesis (next + 1), Nat.add_assoc, Nat.add_comm 1]

/-- A stream that is lost before the result ends with a failure frame. -/
theorem yielded_open {frames : List AgentFrame}
    (unfinished : forall frame, frame ∈ frames -> frame.isTerminal = false) (jobId : String)
    (next : Nat) :
    Exists fun passed : List AgentFrame => Exists fun number : Nat =>
      Exists fun code : FailureCode =>
        yielded .diagnostic jobId next frames =
          passed ++ [failureFrame .diagnostic jobId number code] := by
  induction frames generalizing next with
  | nil => exact ⟨[], next, .agentDisconnected, rfl⟩
  | cons frame rest inductionHypothesis =>
      by_cases expected : frame.sequence = next
      · rcases inductionHypothesis (fun other listed => unfinished other (.tail _ listed))
          (next + 1) with ⟨passed, number, code, same⟩
        refine ⟨frame :: passed, number, code, ?_⟩
        simp only [yielded, expected, ne_eq, not_true_eq_false, if_false,
          unfinished frame (.head _), Bool.false_eq_true, same, List.cons_append]
      · refine ⟨[], next, .streamOrder, ?_⟩
        simp only [yielded, ne_eq, expected, not_false_eq_true, if_true, List.nil_append]

theorem mem_progressFrames {jobId : String} {reports : List Phase} {next : Nat}
    {sent : Nat × AgentFrame} (member : sent ∈ progressFrames jobId next reports) :
    sent.2.isTerminal = false ∧
      Exists fun report : Phase => report ∈ reports ∧ sent.1 = 2 * report.position := by
  induction reports generalizing next with
  | nil => cases member
  | cons report rest inductionHypothesis =>
      rcases List.mem_cons.mp member with same | later
      · subst same
        exact ⟨rfl, report, .head _, rfl⟩
      · rcases inductionHypothesis later with ⟨unfinished, other, listed, instant⟩
        exact ⟨unfinished, other, .tail _ listed, instant⟩

/-- Every report of a run belongs to one of its phases. -/
theorem mem_reports_runPhases {list : List Phase} {report : Phase}
    (member : report ∈ (runPhases world list).reports) : report ∈ list := by
  induction list with
  | nil => cases member
  | cons phase rest inductionHypothesis =>
      rw [runPhases] at member
      split at member
      · cases member
      · split at member
        · exact List.mem_cons.mpr (.inl (List.mem_singleton.mp member))
        · split at member
          · exact List.mem_cons.mpr (.inl (List.mem_singleton.mp member))
          · rcases List.mem_cons.mp member with same | later
            · exact same ▸ .head _
            · exact .tail _ (inductionHypothesis later)

theorem report_before_result {report : Phase} {releaseRoot : String}
    (member : report ∈ (run runner world releaseRoot).reports) :
    2 * report.position ≤ concluded := by
  unfold run at member
  cases resolved : runner.resolveRoot world.files releaseRoot with
  | none =>
      simp only [resolved] at member
      cases member
  | some root =>
      cases located : runner.resolveComposeFile root with
      | none =>
          simp only [resolved, located] at member
          cases member
      | some composeFile =>
          simp only [resolved, located] at member
          have listed : report ∈ phases world composeFile root := by
            split at member <;> exact mem_reports_runPhases member
          have before := position_le listed
          unfold returned at before
          unfold concluded
          omega

/-- When the result arrives, so does every frame before it. -/
theorem receivedFrames_of_arrives (arrives : world.arrives concluded = true) :
    receivedFrames runner world request =
      (progressFrames request.jobId 1 (run runner world request.releaseRoot).reports).map Prod.snd ++
        [.result ⟨request.jobId, (run runner world request.releaseRoot).reports.length + 1,
          reportedStatus runner world request.releaseRoot,
          (run runner world request.releaseRoot).checks⟩] := by
  have all : (executeDiagnostics runner world request).filter
      (fun sent => world.arrives sent.1) = executeDiagnostics runner world request := by
    refine List.filter_eq_self.mpr fun sent member => ?_
    rcases List.mem_append.mp member with progress | result
    · rcases mem_progressFrames progress with ⟨_, report, listed, instant⟩
      rw [instant]
      exact World.arrives_of_arrives (report_before_result listed) arrives
    · rw [List.mem_singleton.mp result]
      exact arrives
  unfold receivedFrames arrivals
  rw [all]
  unfold executeDiagnostics
  rw [List.map_append, yielded_progressFrames, Nat.add_comm 1]
  congr 1
  simp only [List.map_cons, List.map_nil, yielded, Agent.resultFrame, AgentFrame.sequence,
    AgentFrame.event?, Option.map_some, Option.getD_some, ne_eq, not_true_eq_false, if_false,
    AgentFrame.isTerminal, if_true]

/-- When the result is lost, the stream ends with a frame of the gateway. -/
theorem receivedFrames_of_lost (lost : world.arrives concluded = false) :
    Exists fun passed : List AgentFrame => Exists fun number : Nat =>
      Exists fun code : FailureCode =>
        receivedFrames runner world request =
          passed ++ [failureFrame .diagnostic request.jobId number code] := by
  refine yielded_open (fun frame member => ?_) request.jobId 1
  rcases List.mem_map.mp member with ⟨sent, listed, same⟩
  rcases List.mem_filter.mp listed with ⟨made, reached⟩
  subst same
  rcases List.mem_append.mp made with progress | result
  · exact (mem_progressFrames progress).1
  · rw [List.mem_singleton.mp result, lost] at reached
    cases reached

/-- The last frame that the consumer receives: the result of the agent when it
arrives, and a failure frame of the gateway when the stream is lost first. -/
theorem receivedFrames_last (runner : Agent.DiagnosticsRunner) (world : World)
    (request : DiagnosticsRequest) :
    Exists fun passed : List AgentFrame => Exists fun event : DiagnosticsResult =>
      receivedFrames runner world request = passed ++ [.result event] ∧
        event.status ∈ ["healthy", "unhealthy", "canceled", "failed"] := by
  cases reached : world.arrives concluded with
  | true =>
      have reported := reportedStatus_cases runner world request.releaseRoot
      exact ⟨_, _, receivedFrames_of_arrives reached, List.mem_append_left ["failed"] reported⟩
  | false =>
      rcases receivedFrames_of_lost reached with
        ⟨passed, number, code, frames⟩
      exact ⟨passed, _, frames, .tail _ (.tail _ (.tail _ (.head _)))⟩

end Received

/-- What the consumer makes of every status that can reach it. -/
theorem saved_status (casing : Casing) {status : String}
    (sent : status ∈ ["healthy", "unhealthy", "canceled", "failed"]) :
    DiagnosticOperation.mapStatus status = .failed ∧
      truncate 32 (casing.upperText status) ≠ "" := by
  have ascii : forall char, char ∈ status.toList -> char.toNat < 128 := by
    have checked : (status.toList.all fun char => decide (char.toNat < 128)) = true := by
      simp only [List.mem_cons, List.not_mem_nil, or_false] at sent
      rcases sent with same | same | same | same <;> subst same <;> decide
    intro char listed
    exact of_decide_eq_true (List.all_eq_true.mp checked char listed)
  rw [casing.upperText_ascii ascii]
  simp only [List.mem_cons, List.not_mem_nil, or_false] at sent
  rcases sent with same | same | same | same <;> subst same <;> decide +kernel

/-- Whatever a job finds, an operation that is still active at its end is
recorded as failed, with an error code. -/
theorem finalOperation_failed (casing : Casing) (runner : Agent.DiagnosticsRunner)
    (world : World) (request : DiagnosticsRequest)
    (others : Nat -> DiagnosticOperation -> DiagnosticOperation)
    (operation : DiagnosticOperation)
    (active : (operation.atLastFrame casing others
      (receivedFrames runner world request)).status.active = true) :
    (finalOperation casing runner world request others operation).status = .failed ∧
      (finalOperation casing runner world request others operation).errorCode ≠ "" := by
  rcases receivedFrames_last runner world request with ⟨passed, event, frames, sent⟩
  unfold finalOperation
  rw [frames] at active ⊢
  rw [DiagnosticOperation.consume_of_result casing operation others passed event active]
  rcases saved_status casing sent with ⟨mapped, code⟩
  refine ⟨mapped, ?_⟩
  rw [mapped]
  exact code

/-- The final row says what happened to the run. -/
structure Truthful (runner : Agent.DiagnosticsRunner) (world : World)
    (request : DiagnosticsRequest) (final : DiagnosticOperation) : Prop where
  succeeded : final.status = .succeeded <-> (run runner world request.releaseRoot).status = "healthy"
  cancelled : final.status = .cancelled <->
    reportedStatus runner world request.releaseRoot = "canceled"
  disconnected : final.status = .disconnected <-> world.arrives concluded = false
  failed : final.status = .failed <->
    (run runner world request.releaseRoot).status ≠ "healthy" ∧
      reportedStatus runner world request.releaseRoot ≠ "canceled" ∧
      world.arrives concluded = true
  code : final.errorCode = "" <-> final.status = .succeeded

/-- An operation that is still active when its frames end says what happened
exactly when what happened is a plain failure: the result arrived, the context
was not cancelled before the run had returned, and some check did not pass. -/
theorem diagnostic_verdict (casing : Casing) (runner : Agent.DiagnosticsRunner)
    (world : World) (request : DiagnosticsRequest)
    (others : Nat -> DiagnosticOperation -> DiagnosticOperation)
    (operation : DiagnosticOperation)
    (active : (operation.atLastFrame casing others
      (receivedFrames runner world request)).status.active = true) :
    Truthful runner world request
        (finalOperation casing runner world request others operation) <->
      world.arrives concluded = true ∧ world.cancelledBy returned = false ∧
        everyCheckPasses runner world request.releaseRoot = false := by
  rcases finalOperation_failed casing runner world request others operation active with
    ⟨status, code⟩
  constructor
  · intro truthful
    rcases truthful.failed.mp status with ⟨unhealthy, uncancelled, arrives⟩
    have quiet : world.cancelledBy returned = false := by
      by_contra cancelled
      refine uncancelled ?_
      unfold reportedStatus Agent.diagnosticsVerdict
      rw [if_pos (Bool.eq_true_of_not_eq_false cancelled)]
    refine ⟨arrives, quiet, ?_⟩
    by_contra passes
    refine unhealthy ?_
    rw [run_status arrives quiet, if_pos (Bool.eq_true_of_not_eq_false passes)]
  · rintro ⟨arrives, quiet, fails⟩
    have unhealthy : (run runner world request.releaseRoot).status = "unhealthy" := by
      rw [run_status arrives quiet, fails]
      rfl
    have reported : reportedStatus runner world request.releaseRoot = "unhealthy" := by
      unfold reportedStatus Agent.diagnosticsVerdict
      rw [quiet]
      exact unhealthy
    have other : "unhealthy" ≠ "healthy" ∧ "unhealthy" ≠ "canceled" := by decide
    constructor
    · rw [status, unhealthy]
      exact ⟨nofun, fun impossible => absurd impossible other.1⟩
    · rw [status, reported]
      exact ⟨nofun, fun impossible => absurd impossible other.2⟩
    · rw [status, arrives]
      exact ⟨nofun, nofun⟩
    · rw [status, unhealthy, reported]
      exact ⟨fun _ => ⟨other.1, other.2, arrives⟩, fun _ => rfl⟩
    · rw [status]
      exact ⟨fun empty => absurd empty code, nofun⟩

/-! ## A project with five services -/

def sampleRunner : Agent.DiagnosticsRunner := ⟨"/srv/project", ""⟩

def sampleJob : DiagnosticsRequest := ⟨"diagnostic-1", "current"⟩

/-- Docker on a host where all services run; the last check may fail. -/
def sampleDocker (migrated : Bool) (arguments : List String) : CommandResult :=
  if "config" ∈ arguments ∨ "ps" ∈ arguments then
    ⟨"web\npostgres\nredis\ncelery\ncelery_beat\n", true⟩
  else if "migrate" ∈ arguments then ⟨"", migrated⟩
  else if arguments = ["compose", "-f", "/srv/project/current/docker-compose.yml"] ++
      Command.versions.arguments then ⟨"5.1.7|3.12.9\n", true⟩
  else ⟨"postgresql\n", true⟩

def sampleWorld (migrated : Bool) : World where
  files := { getwd := some "/", stat := fun _ => true, evalSymlinks := some }
  docker := sampleDocker migrated
  cancelAt := none
  loss := none

/-- A pending migration is reported as a failure. -/
theorem diagnostic_verdict_pending :
    Truthful sampleRunner (sampleWorld false) sampleJob
      (finalOperation .simple sampleRunner (sampleWorld false) sampleJob (fun _ row => row)
        ⟨.pending, .empty, ""⟩) :=
  (diagnostic_verdict .simple sampleRunner (sampleWorld false) sampleJob (fun _ row => row)
    ⟨.pending, .empty, ""⟩ (by decide +kernel)).mpr ⟨rfl, rfl, by decide +kernel⟩

/-- Every check passes, and the operation is recorded as failed with the error
code `HEALTHY`. -/
theorem healthy_recorded_failed :
    (run sampleRunner (sampleWorld true) sampleJob.releaseRoot).status = "healthy" ∧
      (run sampleRunner (sampleWorld true) sampleJob.releaseRoot).checks.length = 8 ∧
      (finalOperation .simple sampleRunner (sampleWorld true) sampleJob (fun _ row => row)
        ⟨.pending, .empty, ""⟩).status = .failed ∧
      (finalOperation .simple sampleRunner (sampleWorld true) sampleJob (fun _ row => row)
        ⟨.pending, .empty, ""⟩).errorCode = "HEALTHY" ∧
      ¬ Truthful sampleRunner (sampleWorld true) sampleJob
        (finalOperation .simple sampleRunner (sampleWorld true) sampleJob (fun _ row => row)
          ⟨.pending, .empty, ""⟩) := by
  have recorded : (run sampleRunner (sampleWorld true) sampleJob.releaseRoot).status = "healthy" ∧
      (run sampleRunner (sampleWorld true) sampleJob.releaseRoot).checks.length = 8 ∧
      (finalOperation .simple sampleRunner (sampleWorld true) sampleJob (fun _ row => row)
        ⟨.pending, .empty, ""⟩).status = .failed ∧
      (finalOperation .simple sampleRunner (sampleWorld true) sampleJob (fun _ row => row)
        ⟨.pending, .empty, ""⟩).errorCode = "HEALTHY" := by
    decide +kernel
  rcases recorded with ⟨healthy, checks, failed, code⟩
  refine ⟨healthy, checks, failed, code, fun truthful => ?_⟩
  have succeeded := truthful.succeeded.mpr healthy
  rw [failed] at succeeded
  cases succeeded

end ControlPlane
end DjangoOps
