import Mathlib.Data.List.Lex
import Mathlib.Data.List.Sort
import Mathlib.Data.List.Dedup
import DjangoOps.Agent.Paths
import DjangoOps.Agent.Frame

namespace DjangoOps
namespace Agent
namespace Diagnostics

open Protocol

/-!
# The diagnostics executor

`diagnostics.Runner.Run` and `executeDiagnostics` around it.  The surroundings
of a run decide what every Docker command prints and how it ends, at which
instant the job context is cancelled, and at which instant the stream is lost.
Instants are numbered along the script: the phase at position `n` reports its
progress at instant `2 * n` and looks at the context behind its commands at
instant `2 * n + 1`.  The transport layer looks at the context once more at
`returned`, and sends the result after that.
-/

/-- The instant at which `Run` has returned. -/
def returned : Nat := 12

/-- The instant at which the result is sent. -/
def concluded : Nat := 13

/-- The end of a stream.  `Send` fails from one instant on, and what was sent
shortly before it may not arrive either. -/
structure Loss where
  sendsUntil : Nat
  arrivesUntil : Nat
  within : arrivesUntil ≤ sendsUntil

/-- What a command printed, and whether it succeeded. -/
structure CommandResult where
  output : String
  succeeded : Bool

/-- The surroundings of one run: the files, what the Docker commands print, the instant of
the cancellation, and where the stream is lost, if it is. -/
structure World where
  files : FileSystem
  docker : List String -> CommandResult
  cancelAt : Option Nat
  loss : Option Loss

namespace World

/-- `ctx.Err() != nil` at an instant. -/
def cancelledBy (world : World) (instant : Nat) : Bool :=
  match world.cancelAt with
  | none => false
  | some cancelled => decide (cancelled ≤ instant)

/-- `send` returns no error at an instant. -/
def sends (world : World) (instant : Nat) : Bool :=
  match world.loss with
  | none => true
  | some loss => decide (instant < loss.sendsUntil)

/-- A frame that is sent at an instant reaches the gateway. -/
def arrives (world : World) (instant : Nat) : Bool :=
  match world.loss with
  | none => true
  | some loss => decide (instant < loss.arrivesUntil)

/-- `emit` with the callback of `executeDiagnostics`. -/
def emits (world : World) (instant : Nat) : Bool :=
  !world.cancelledBy instant && world.sends instant

end World

/-! ## Reading the output of a command -/

def maxCapturedOutput : Nat := 8192

/-- `cappedBuffer`, which counts bytes.  A character that is cut in two is no
longer valid, which none of the readers accepts. -/
def capture : Nat -> List Char -> List Char
  | _, [] => []
  | room, char :: rest =>
      if char.utf8Size ≤ room then char :: capture (room - char.utf8Size) rest
      else if room = 0 then []
      else [Char.ofNat 0xFFFD]

/-- `unicode.IsSpace` -/
def isSpace (char : Char) : Bool :=
  let code := char.toNat
  (9 ≤ code && code ≤ 13) || code == 32 || code == 0x85 || code == 0xA0 || code == 0x1680 ||
    (0x2000 ≤ code && code ≤ 0x200A) || code == 0x2028 || code == 0x2029 || code == 0x202F ||
    code == 0x205F || code == 0x3000

/-- `strings.TrimSpace` -/
def trimSpace (text : List Char) : List Char :=
  ((text.dropWhile isSpace).reverse.dropWhile isSpace).reverse

/-- `^[A-Za-z0-9_.+-]{1,80}$`. -/
def safeValue (text : List Char) : Bool :=
  decide (1 ≤ text.length) && decide (text.length ≤ 80) &&
    text.all fun char => isIdCharacter char || char == '+'

/-- `parseServices` -/
def parseServices (raw : List Char) : List (List Char) :=
  ((((raw.splitOn '\n').map trimSpace).filter safeValue).dedup).insertionSort (· ≤ ·)

/-- `controlledValue` -/
def controlledValue (raw : List Char) : List Char :=
  if safeValue (trimSpace raw) then trimSpace raw else []

/-- The two versions of the metadata line. -/
def versionParts (raw : List Char) : Option (List Char × List Char) :=
  match (trimSpace raw).splitOn '|' with
  | [django, python] => if safeValue django && safeValue python then some (django, python) else none
  | _ => none

/-! ## The checks -/

def pass (name detail : String) : DiagnosticCheck :=
  { name := name, status := "pass", detail := detail }

def fail (name detail : String) : DiagnosticCheck :=
  { name := name, status := "fail", detail := detail }

/-- One check with its details for both ways it can end. -/
def checkOf (passed : Bool) (name passDetail failDetail : String) : DiagnosticCheck :=
  if passed then pass name passDetail else fail name failDetail

/-- The Compose commands of the script, without the file. -/
inductive Command
  | config
  | running
  | deployCheck
  | connection
  | migrateCheck
  | versions
  deriving DecidableEq

def Command.arguments : Command -> List String
  | .config => ["config", "--services"]
  | .running => ["ps", "--services", "--filter", "status=running"]
  | .deployCheck => ["exec", "-T", "web", "python", "manage.py", "check", "--deploy"]
  | .connection =>
      ["exec", "-T", "web", "python", "manage.py", "shell", "-c",
        "from django.db import connection; connection.ensure_connection(); " ++
          "print(connection.vendor)"]
  | .migrateCheck =>
      ["exec", "-T", "web", "python", "manage.py", "migrate", "--check", "--noinput"]
  | .versions =>
      ["exec", "-T", "web", "python", "manage.py", "shell", "-c",
        "import django,platform; " ++
          "print(django.get_version()+'|'+platform.python_version())"]

section Checks

variable (world : World) (composeFile : String)

/-- `compose` -/
def compose (command : Command) : CommandResult :=
  world.docker (["compose", "-f", composeFile] ++ command.arguments)

/-- What `compose` returns of the output. -/
def output (command : Command) : List Char :=
  capture maxCapturedOutput (compose world composeFile command).output.toList

def expected : List (List Char) := parseServices (output world composeFile .config)

def running : List (List Char) := parseServices (output world composeFile .running)

/-- The condition of the check `compose_services`.  Lists without repetition
that are sorted are the same set exactly when they are equal. -/
def servicesRun : Bool :=
  (compose world composeFile .config).succeeded && (compose world composeFile .running).succeeded &&
    !(expected world composeFile).isEmpty &&
    decide (expected world composeFile = running world composeFile)

def databaseConnects : Bool :=
  (compose world composeFile .connection).succeeded &&
    !(controlledValue (output world composeFile .connection)).isEmpty

def versionsRead : Bool :=
  (compose world composeFile .versions).succeeded &&
    (versionParts (output world composeFile .versions)).isSome

/-- `compose_services` -/
def servicesCheck : DiagnosticCheck :=
  checkOf (servicesRun world composeFile) "compose_services"
    (toString (expected world composeFile).length ++ " declared services running")
    "declared services are not all running"

/-- `commandCheck` -/
def commandCheck (command : Command) (name passDetail failDetail : String) : DiagnosticCheck :=
  checkOf (compose world composeFile command).succeeded name passDetail failDetail

def databaseCheck : DiagnosticCheck :=
  checkOf (databaseConnects world composeFile) "database"
    ("connected backend=" ++
      String.ofList (controlledValue (output world composeFile .connection)))
    "Django database connectivity failed"

def versionsCheck : DiagnosticCheck :=
  checkOf (versionsRead world composeFile) "versions"
    (match versionParts (output world composeFile .versions) with
      | some parts => "django=" ++ String.ofList parts.1 ++ " python=" ++ String.ofList parts.2
      | none => "")
    "version metadata unavailable"

/-- The checks of the optional services. -/
def optionalChecks : List DiagnosticCheck :=
  (["celery", "celery_beat"].filter fun service =>
      decide (service.toList ∈ expected world composeFile)).map fun service =>
    checkOf (decide (service.toList ∈ running world composeFile)) service
      (service ++ " configured and running") (service ++ " configured but not running")

/-- One phase: its progress report, whether it looks at the context behind its
commands, and the check that it adds. -/
structure Phase where
  position : Nat
  name : String
  message : String
  looks : Bool
  check : DiagnosticCheck

/-- The phases in their order. -/
def phases (root : String) : List Phase :=
  [⟨0, "release", "validating active release", false, pass "active_release" (Paths.base root)⟩,
    ⟨1, "compose", "checking declared and running Compose services", true,
      servicesCheck world composeFile⟩,
    ⟨2, "django_check", "running Django deployment checks", true,
      commandCheck world composeFile .deployCheck "django_check_deploy"
        "Django deployment checks passed" "Django deployment checks failed"⟩,
    ⟨3, "database", "checking Django database connectivity", true,
      databaseCheck world composeFile⟩,
    ⟨4, "migrations", "checking pending Django migrations", true,
      commandCheck world composeFile .migrateCheck "pending_migrations"
        "no pending migrations" "pending or unevaluable migrations"⟩,
    ⟨5, "versions", "collecting Django and Python version metadata", true,
      versionsCheck world composeFile⟩]

end Checks

/-! ## `Runner.Run` -/

/-- The progress callbacks that were not refused by the context, in their
order, the checks, and whether a phase ended the run as canceled. -/
structure Progress where
  reports : List Phase
  checks : List DiagnosticCheck
  canceled : Bool

/-- The phases from a given one on. -/
def runPhases (world : World) : List Phase -> Progress
  | [] => ⟨[], [], false⟩
  | phase :: rest =>
      if world.cancelledBy (2 * phase.position) then ⟨[], [], true⟩
      else if world.sends (2 * phase.position) = false then ⟨[phase], [], true⟩
      else if phase.looks && world.cancelledBy (2 * phase.position + 1) then ⟨[phase], [], true⟩
      else
        let remaining := runPhases world rest
        ⟨phase :: remaining.reports, phase.check :: remaining.checks, remaining.canceled⟩

/-- What `Run` returns, with the reports it made. -/
structure Execution where
  reports : List Phase
  checks : List DiagnosticCheck
  status : String

/-- The status of a run that was not interrupted. -/
def summary (checks : List DiagnosticCheck) : String :=
  if checks.all fun check => decide (check.status = "pass") then "healthy" else "unhealthy"

/-- `Runner.Run` -/
def run (runner : DiagnosticsRunner) (world : World) (releaseRoot : String) : Execution :=
  match runner.resolveRoot world.files releaseRoot with
  | none => ⟨[], [fail "release_root" "release root is outside configured project"], "unhealthy"⟩
  | some root =>
      match runner.resolveComposeFile root with
      | none => ⟨[], [fail "compose_file" "Compose file path is invalid"], "unhealthy"⟩
      | some composeFile =>
          let progress := runPhases world (phases world composeFile root)
          if progress.canceled then ⟨progress.reports, progress.checks, "canceled"⟩
          else
            let checks := progress.checks ++ optionalChecks world composeFile
            ⟨progress.reports, checks, summary checks⟩

/-! ## `executeDiagnostics` -/

/-- The status that the result carries. -/
def reportedStatus (runner : DiagnosticsRunner) (world : World) (releaseRoot : String) : String :=
  diagnosticsVerdict (world.cancelledBy returned) (run runner world releaseRoot).status

/-- The progress frames, numbered from `sequence` on, with their instants. -/
def progressFrames (jobId : String) : Nat -> List Phase -> List (Nat × AgentFrame)
  | _, [] => []
  | sequence, phase :: rest =>
      (2 * phase.position, .progress ⟨jobId, sequence, phase.name, phase.message⟩) ::
        progressFrames jobId (sequence + 1) rest

/-- Every frame that `executeDiagnostics` hands to `send`. -/
def executeDiagnostics (runner : DiagnosticsRunner) (world : World)
    (request : DiagnosticsRequest) : List (Nat × AgentFrame) :=
  let execution := run runner world request.releaseRoot
  progressFrames request.jobId 1 execution.reports ++
    [(concluded, resultFrame request.jobId (execution.reports.length + 1)
      (reportedStatus runner world request.releaseRoot) execution.checks)]

/-- The frames of a job that reach the gateway. -/
def arrivals (runner : DiagnosticsRunner) (world : World) (request : DiagnosticsRequest) :
    List AgentFrame :=
  ((executeDiagnostics runner world request).filter fun sent => world.arrives sent.1).map Prod.snd

/-! ## The steps of its worker -/

/-- The visible events of actions taken one after the other. -/
def perform (config : AgentConfig) : State -> List Action -> Option (State × List Event)
  | state, [] => some (state, [])
  | state, action :: rest =>
      (step config state action).bind fun stepped =>
        (perform config stepped.1 rest).map fun last => (last.1, stepped.2 ++ last.2)

/-- While its context and its connection last, the progress steps of a worker
send the progress frames. -/
theorem progressFrames_of_steps (config : AgentConfig) {worker : Nat} {request : DiagnosticsRequest}
    (reports : List Phase) {before : State} {sequence : Nat}
    (kind : (before.workers worker).request = .diagnostics request)
    (running : (before.workers worker).phase = .running sequence)
    (context : (before.workers worker).cancelled = false) (live : before.live worker = true) :
    Exists fun after : State =>
      perform config before
          (reports.map fun report => .progress worker report.name report.message true) =
        some (after, (progressFrames request.jobId sequence reports).map fun sent =>
          .frame sent.2) ∧
        after.workers worker =
          { before.workers worker with phase := .running (sequence + reports.length) } := by
  induction reports generalizing before sequence with
  | nil =>
      refine ⟨before, rfl, ?_⟩
      rw [List.length_nil, Nat.add_zero, ← running]
  | cons report rest inductionHypothesis =>
      have own := before.workers_setPhase_self worker (.running (sequence + 1))
      have stepped : step config before (.progress worker report.name report.message true) =
          some (before.setPhase worker (.running (sequence + 1)),
            [.frame (.progress ⟨request.jobId, sequence, report.name, report.message⟩)]) := by
        simp only [step, State.progress, running, context, live, kind, State.progressFrame,
          Bool.false_eq_true, Bool.true_eq_false, and_false, if_false, if_true]
      have still : (before.setPhase worker (.running (sequence + 1))).live worker = true := by
        unfold State.live
        rw [own]
        exact live
      have sameKind : ((before.setPhase worker (.running (sequence + 1))).workers worker).request =
          .diagnostics request := by
        rw [own]
        exact kind
      have sameContext :
          ((before.setPhase worker (.running (sequence + 1))).workers worker).cancelled = false := by
        rw [own]
        exact context
      rcases inductionHypothesis sameKind (by rw [own]) sameContext still with
        ⟨after, remaining, record⟩
      refine ⟨after, ?_, ?_⟩
      · simp only [List.map_cons, perform, stepped, Option.bind_some, remaining, Option.map_some,
          progressFrames, List.cons_append, List.nil_append]
      · rw [record, own, List.length_cons, Nat.add_right_comm, Nat.add_assoc]

/-- The last two steps of a worker send the result frame. -/
theorem resultFrame_of_steps (config : AgentConfig) {runner : DiagnosticsRunner} {world : World}
    {worker : Nat} {request : DiagnosticsRequest} {before : State}
    (kind : (before.workers worker).request = .diagnostics request)
    (running : (before.workers worker).phase =
      .running ((run runner world request.releaseRoot).reports.length + 1))
    (context : (before.workers worker).cancelled = world.cancelledBy returned)
    (live : before.live worker = true) :
    Exists fun after : State =>
      perform config before
          [.finish worker (.diagnostics (run runner world request.releaseRoot).checks
              (run runner world request.releaseRoot).status),
            .send worker true] =
        some (after, [.frame (resultFrame request.jobId
          ((run runner world request.releaseRoot).reports.length + 1)
          (reportedStatus runner world request.releaseRoot)
          (run runner world request.releaseRoot).checks)]) := by
  have finished : step config before
      (.finish worker (.diagnostics (run runner world request.releaseRoot).checks
        (run runner world request.releaseRoot).status)) =
      some (before.setPhase worker (.concluded (resultFrame request.jobId
          ((run runner world request.releaseRoot).reports.length + 1)
          (reportedStatus runner world request.releaseRoot)
          (run runner world request.releaseRoot).checks)), []) := by
    simp only [step, State.finish, running, kind, context, silent, Option.map_some]
    rfl
  generalize resultFrame request.jobId _ _ _ = frame at finished ⊢
  have own := before.workers_setPhase_self worker (.concluded frame)
  have still : (before.setPhase worker (.concluded frame)).live worker = true := by
    unfold State.live
    rw [own]
    exact live
  have sent : step config (before.setPhase worker (.concluded frame)) (.send worker true) =
      some ((before.setPhase worker (.concluded frame)).setPhase worker .sent, [.frame frame]) := by
    simp only [step, State.send, own, still, Bool.true_eq_false, and_false, if_false, if_true]
  refine ⟨(before.setPhase worker (.concluded frame)).setPhase worker .sent, ?_⟩
  rw [perform, finished, Option.bind_some, perform, sent]
  rfl

/-! ## What the run finds, in terms of its surroundings -/

/-- Every check would pass: the two paths resolve, all declared services run,
both Django commands succeed, the database answers and the versions can be
read.  The optional services are among the declared ones. -/
def everyCheckPasses (runner : DiagnosticsRunner) (world : World) (releaseRoot : String) : Bool :=
  match (runner.resolveRoot world.files releaseRoot).bind runner.resolveComposeFile with
  | none => false
  | some composeFile =>
      servicesRun world composeFile && (compose world composeFile .deployCheck).succeeded &&
        databaseConnects world composeFile &&
        (compose world composeFile .migrateCheck).succeeded && versionsRead world composeFile

theorem checkOf_passes (passed : Bool) (name passDetail failDetail : String) :
    decide ((checkOf passed name passDetail failDetail).status = "pass") = passed := by
  cases passed <;> rfl

theorem World.cancelledBy_mono {world : World} {early late : Nat} (order : early ≤ late)
    (cancelled : world.cancelledBy early = true) : world.cancelledBy late = true := by
  unfold cancelledBy at cancelled ⊢
  split at cancelled
  · cases cancelled
  · exact decide_eq_true (Nat.le_trans (of_decide_eq_true cancelled) order)

theorem World.sends_of_arrives {world : World} {early late : Nat} (order : early ≤ late)
    (arrives : world.arrives late = true) : world.sends early = true := by
  unfold World.arrives at arrives
  unfold sends
  split at arrives
  · rfl
  · rename_i loss lost
    have bound := of_decide_eq_true arrives
    have within := loss.within
    exact decide_eq_true (by omega)

theorem World.arrives_of_arrives {world : World} {early late : Nat} (order : early ≤ late)
    (arrives : world.arrives late = true) : world.arrives early = true := by
  unfold World.arrives at arrives ⊢
  split at arrives
  · rfl
  · have bound := of_decide_eq_true arrives
    exact decide_eq_true (by omega)

/-- Phases that nothing interrupts are all reported and checked. -/
theorem runPhases_uninterrupted {world : World} {list : List Phase}
    (quiet : forall phase, phase ∈ list -> world.cancelledBy (2 * phase.position + 1) = false)
    (sends : forall phase, phase ∈ list -> world.sends (2 * phase.position) = true) :
    runPhases world list = ⟨list, list.map Phase.check, false⟩ := by
  induction list with
  | nil => rfl
  | cons phase rest inductionHypothesis =>
      have remaining := inductionHypothesis
        (fun other listed => quiet other (.tail _ listed))
        (fun other listed => sends other (.tail _ listed))
      have late := quiet phase (.head _)
      have early : world.cancelledBy (2 * phase.position) = false := by
        by_contra cancelled
        have later := World.cancelledBy_mono (Nat.le_succ _) (Bool.eq_true_of_not_eq_false cancelled)
        rw [late] at later
        cases later
      simp only [runPhases, early, late, sends phase (.head _), remaining, Bool.and_false,
        Bool.true_eq_false, Bool.false_eq_true, if_false, List.map_cons]

theorem position_le {world : World} {composeFile root : String} {phase : Phase}
    (listed : phase ∈ phases world composeFile root) : 2 * phase.position + 1 ≤ returned := by
  simp only [phases, List.mem_cons, List.not_mem_nil, or_false] at listed
  rcases listed with same | same | same | same | same | same <;> subst same <;>
    simp only [returned] <;> omega

/-- The optional services run when all declared services run. -/
theorem optionalChecks_pass {world : World} {composeFile : String}
    (services : servicesRun world composeFile = true) :
    ((optionalChecks world composeFile).all fun check => decide (check.status = "pass")) =
      true := by
  unfold servicesRun at services
  have same := of_decide_eq_true (Bool.and_eq_true _ _ ▸ services).2
  refine List.all_eq_true.mpr fun check listed => ?_
  rcases List.mem_map.mp listed with ⟨service, declared, made⟩
  have member := of_decide_eq_true (List.mem_filter.mp declared).2
  subst made
  rw [checkOf_passes]
  exact decide_eq_true (same ▸ member)

/-- A run whose context and stream last until its end is healthy exactly when
every check passes. -/
theorem run_status {runner : DiagnosticsRunner} {world : World} {releaseRoot : String}
    (arrives : world.arrives concluded = true) (quiet : world.cancelledBy returned = false) :
    (run runner world releaseRoot).status =
      if everyCheckPasses runner world releaseRoot then "healthy" else "unhealthy" := by
  unfold run everyCheckPasses
  cases runner.resolveRoot world.files releaseRoot with
  | none => rfl
  | some root =>
      rw [Option.bind_some]
      cases resolved : runner.resolveComposeFile root with
      | none =>
          simp only [resolved]
          rfl
      | some composeFile =>
          have complete : runPhases world (phases world composeFile root) =
              ⟨phases world composeFile root,
                (phases world composeFile root).map Phase.check, false⟩ := by
            refine runPhases_uninterrupted (fun phase listed => ?_) (fun phase listed => ?_)
            · by_contra cancelled
              have later := World.cancelledBy_mono (position_le listed)
                (Bool.eq_true_of_not_eq_false cancelled)
              rw [quiet] at later
              cases later
            · have before := position_le listed
              exact World.sends_of_arrives (by unfold returned at before; unfold concluded; omega)
                arrives
          have checks : ((phases world composeFile root).map Phase.check).all
                (fun check => decide (check.status = "pass")) =
              (servicesRun world composeFile && ((compose world composeFile .deployCheck).succeeded &&
                (databaseConnects world composeFile &&
                  ((compose world composeFile .migrateCheck).succeeded &&
                    versionsRead world composeFile)))) := by
            simp only [phases, List.map_cons, List.map_nil, List.all_cons, List.all_nil,
              servicesCheck, commandCheck, databaseCheck, versionsCheck, checkOf_passes,
              Bool.and_true]
            rfl
          simp only [resolved, complete, Bool.false_eq_true, if_false, summary, List.all_append, checks]
          by_cases services : servicesRun world composeFile = true
          · simp only [optionalChecks_pass services, services, Bool.and_true, Bool.true_and,
              Bool.and_assoc]
          · simp only [Bool.eq_false_of_not_eq_true services, Bool.false_and]

/-- The three statuses of a result. -/
theorem reportedStatus_cases (runner : DiagnosticsRunner) (world : World) (releaseRoot : String) :
    reportedStatus runner world releaseRoot ∈ ["healthy", "unhealthy", "canceled"] := by
  have summaries : forall checks, summary checks ∈ ["healthy", "unhealthy", "canceled"] := by
    intro checks
    unfold summary
    split <;> decide
  unfold reportedStatus diagnosticsVerdict
  split
  · decide
  · unfold run
    split
    · decide
    · split
      · decide
      · dsimp only
        split
        · exact .tail _ (.tail _ (.head _))
        · exact summaries _

end Diagnostics
end Agent
end DjangoOps
