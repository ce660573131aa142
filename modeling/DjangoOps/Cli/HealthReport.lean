import DjangoOps.Cli.ActiveRelease
import DjangoOps.Cli.BackupListing
import DjangoOps.Cli.Health
import DjangoOps.Foundation.JsonRoundTrip
import DjangoOps.Foundation.PrefixCode

namespace DjangoOps
namespace Cli
namespace Health

/-!
# The report of the health checks

The remote command writes a line for each of its five checks, and
`_parse_report` reads them back.  Lines that are not of this form, such as what
a login shell prints, are passed over.

An output that ends early is never read as another report: the names of the
checks are complete only with the last line, and no front of a verdict is a
verdict.
-/

/-! ## The report -/

/-- `SCHEMA_VERSION` -/
def schemaVersion : Int := 1

/-- `_CHECK_NAMES` -/
def checkNames : List String :=
  ["active_release", "compose_services", "django_deploy_check", "database_connectivity",
    "pending_migrations"]

structure HealthCheck where
  name : String
  status : String
  deriving DecidableEq

/-- `HealthCheck.healthy` -/
def HealthCheck.healthy (check : HealthCheck) : Bool := decide (check.status = "pass")

structure HealthReport where
  checks : List HealthCheck
  deriving DecidableEq

namespace HealthReport

variable (report : HealthReport)

/-- `HealthReport.healthy` -/
def healthy : Bool := report.checks.all HealthCheck.healthy

def overallStatus : String := if report.healthy then "healthy" else "unhealthy"

/-- The payload of `to_json`. -/
def payload : Json Int :=
  .object [("checks", .array (report.checks.map fun check =>
      .object [("name", .string check.name), ("status", .string check.status)])),
    ("overall_status", .string report.overallStatus), ("schema_version", .number schemaVersion)]

def toJson : String := report.payload.dumps .decimal

end HealthReport

/-! ## Reading -/

def marker : List Char := "DJANGOOPS_HEALTH".toList

/-- One round of the loop of `_parse_report`. -/
def collectLine (results : List (String × String)) (line : List Char) : List (String × String) :=
  match line.splitOn '\t' with
  | [first, name, remoteStatus] =>
      if first = marker then
        if String.ofList name ∈ checkNames ∧ String.ofList name ∉ results.map Prod.fst ∧
            (remoteStatus = "PASS".toList ∨ remoteStatus = "FAIL".toList) then
          results ++ [(String.ofList name, if remoteStatus = "PASS".toList then "pass" else "fail")]
        else results
      else results
  | _ => results

/-- `_parse_report`; the error is a `HealthTransportError`. -/
def parseReport (output : List Char) : Except String HealthReport :=
  let results := (output.splitOnP isLineBreak).foldl collectLine []
  if results.map Prod.fst = checkNames then
    .ok ⟨checkNames.map fun name => ⟨name, (Dictionary.get name results).getD ""⟩⟩
  else .error "remote health response was incomplete or invalid"

/-! ## The remote command -/

/-- `emit` -/
def emitted (check : String × Bool) : List Char :=
  marker ++ '\t' :: (check.1.toList ++ '\t' :: (if check.2 then "PASS" else "FAIL").toList)

/-- What the remote command finds.  `grep` tells whether `grep -Fx` finds a
word among lines, and `entered` whether `cd "$release"` succeeds. -/
structure Findings where
  release : List Char
  isDirectory : Bool
  entered : Bool
  grep : List Char -> List (List Char) -> Bool
  declared : CommandOutput
  running : CommandOutput
  deployCheck : Bool
  databaseProbe : Bool
  migrateCheck : Bool

namespace Findings

variable (remoteBase : String) (findings : Findings)

/-- `active`: the `case` on the release and the test of its directory. -/
def active : Bool :=
  (remoteBase ++ "/releases/").toList.isPrefixOf findings.release && findings.isDirectory

/-- The checks that the command emits, one after another. -/
def emits : List (String × Bool) :=
  ("active_release", findings.active remoteBase) ::
    if findings.active remoteBase then
      [("compose_services", findings.entered &&
          composeServices findings.grep findings.declared findings.running),
        ("django_deploy_check", findings.entered && findings.deployCheck),
        ("database_connectivity", findings.entered && findings.databaseProbe),
        ("pending_migrations", findings.entered && findings.migrateCheck)]
    else
      [("compose_services", false), ("django_deploy_check", false),
        ("database_connectivity", false), ("pending_migrations", false)]

/-- What the command writes to its standard output. -/
def output : List Char := TextLines.unlines ((findings.emits remoteBase).map emitted)

/-- The report of what was found. -/
def report : HealthReport :=
  ⟨(findings.emits remoteBase).map fun check =>
    ⟨check.1, if check.2 then "pass" else "fail"⟩⟩

end Findings

/-! ## Records -/

/-- The check that a line carries. -/
def record? (line : List Char) : Option (String × Bool) :=
  match line.splitOn '\t' with
  | [first, name, remoteStatus] =>
      if first = marker ∧ String.ofList name ∈ checkNames ∧
          (remoteStatus = "PASS".toList ∨ remoteStatus = "FAIL".toList) then
        some (String.ofList name, decide (remoteStatus = "PASS".toList))
      else none
  | _ => none

def statusText (passed : Bool) : String := if passed then "pass" else "fail"

/-- A line without a record changes nothing. -/
theorem collectLine_of_none {line : List Char} (none : record? line = none)
    (results : List (String × String)) : collectLine results line = results := by
  unfold record? at none
  unfold collectLine
  split at none
  · rename_i first name remoteStatus parts
    split at none
    · cases none
    · rename_i invalid
      split
      · rename_i marked
        rw [if_neg]
        exact fun valid => invalid ⟨marked, valid.1, valid.2.2⟩
      · rfl
  · rfl

/-- A record is added when its name is new. -/
theorem collectLine_of_some {line : List Char} {check : String × Bool}
    (found : record? line = some check) {results : List (String × String)}
    (fresh : check.1 ∉ results.map Prod.fst) :
    collectLine results line = results ++ [(check.1, statusText check.2)] := by
  unfold record? at found
  unfold collectLine
  split at found
  · rename_i first name remoteStatus parts
    split at found
    · rename_i valid
      cases found
      dsimp only
      rw [if_pos valid.1, if_pos ⟨valid.2.1, fresh, valid.2.2⟩]
      unfold statusText
      simp only [decide_eq_true_eq]
    · cases found
  · cases found

theorem foldl_collectLine_of_none {lines : List (List Char)}
    (none : forall line, line ∈ lines -> record? line = none) (results : List (String × String)) :
    lines.foldl collectLine results = results := by
  induction lines generalizing results with
  | nil => rfl
  | cons line rest inductionHypothesis =>
      rw [List.foldl_cons, collectLine_of_none (none line List.mem_cons_self)]
      exact inductionHypothesis (fun other listed => none other (List.mem_cons_of_mem _ listed)) _

/-- Records with distinct names are added in their order. -/
theorem foldl_collectLine {lines : List (List Char)} {checks : List (String × Bool)}
    (found : lines.map record? = checks.map some) {results : List (String × String)}
    (distinct : (results.map Prod.fst ++ checks.map Prod.fst).Nodup) :
    lines.foldl collectLine results =
      results ++ checks.map fun check => (check.1, statusText check.2) := by
  induction checks generalizing lines results with
  | nil =>
      rw [List.map_nil, List.map_eq_nil_iff] at found
      rw [found]
      exact (List.append_nil _).symm
  | cons check rest inductionHypothesis =>
      cases lines with
      | nil => cases found
      | cons line others =>
          rw [List.map_cons, List.map_cons] at found
          rcases List.cons.inj found with ⟨first, later⟩
          rw [List.map_cons, List.nodup_middle, List.nodup_cons, List.mem_append, not_or] at distinct
          rw [List.foldl_cons, collectLine_of_some first distinct.1.1,
            inductionHypothesis later]
          · rw [List.append_assoc]
            rfl
          · rw [List.map_append, List.append_assoc, List.map_cons, List.map_nil,
              List.singleton_append, List.nodup_middle, List.nodup_cons, List.mem_append, not_or]
            exact distinct

/-- The parts of a line with a record. -/
theorem record?_eq_some {line : List Char} {check : String × Bool}
    (found : record? line = some check) :
    '\t' ∉ check.1.toList ∧ line = emitted check := by
  unfold record? at found
  split at found
  · rename_i first name remoteStatus parts
    split at found
    · rename_i valid
      cases found
      rcases valid with ⟨rfl, _, status⟩
      have joined : ['\t'].intercalate (line.splitOn '\t') = line := List.intercalate_splitOn _
      have inner : '\t' ∉ name := by
        intro listed
        have member : name ∈ line.splitOn '\t' := by
          rw [parts]
          exact List.mem_cons_of_mem _ List.mem_cons_self
        have plain : ('\t' == '\t') = false :=
          (@Splitting.mem_splitOnP _ (fun char => char == '\t') _ _ member _ listed).2
        cases plain
      refine ⟨by rw [String.toList_ofList]; exact inner, ?_⟩
      rw [← joined, parts]
      unfold emitted
      rcases status with rfl | rfl
      · simp [List.intercalate]
      · simp [List.intercalate]
    · cases found
  · cases found

/-- What `emit` writes is a record. -/
theorem record?_emitted {check : String × Bool} (named : check.1 ∈ checkNames) :
    record? (emitted check) = some check := by
  have all : forall name, name ∈ checkNames -> forall passed,
      record? (emitted (name, passed)) = some (name, passed) := by
    decide +kernel
  exact all check.1 named check.2

/-- No record is the front of another one. -/
theorem record?_of_prefix {check : String × Bool} (named : check.1 ∈ checkNames)
    {rest : List Char} (front : rest <+: emitted check) :
    rest = emitted check ∨ record? rest = none := by
  cases found : record? rest with
  | none => exact Or.inr rfl
  | some other =>
      refine Or.inl ?_
      rcases record?_eq_some found with ⟨inner, rfl⟩
      rcases front with ⟨more, same⟩
      have tabs : forall name, name ∈ checkNames -> '\t' ∉ name.toList := by decide +kernel
      unfold emitted at same ⊢
      rw [List.append_assoc, List.cons_append, List.append_assoc, List.cons_append] at same
      have apart : forall {text : List Char}, '\t' ∉ text ->
          forall char, char ∈ text -> char ≠ '\t' :=
        fun absent char listed equal => absent (equal ▸ listed)
      rcases PrefixCode.run_cancel (apart (by decide)) (apart (by decide)) (by decide)
        (by decide) same with ⟨_, behind⟩
      rcases PrefixCode.run_cancel (apart inner) (apart (tabs check.1 named)) (by decide)
        (by decide) (List.cons.inj behind).2 with ⟨names, status⟩
      rw [names]
      have short : forall passed : Bool, (if passed then "PASS" else "FAIL").toList.length = 4 := by
        decide
      have lengths := congrArg List.length (List.cons.inj status).2
      rw [List.length_append, short, short] at lengths
      have nothing : more = [] := List.length_eq_zero_iff.mp (by omega)
      rw [nothing, List.append_nil] at status
      rw [status]

/-! ## The report of a run -/

namespace Findings

variable (remoteBase : String) (findings : Findings)

theorem names_emits : (findings.emits remoteBase).map Prod.fst = checkNames := by
  unfold emits
  split <;> rfl

theorem named_emits (check : String × Bool) (listed : check ∈ findings.emits remoteBase) :
    check.1 ∈ checkNames := by
  rw [← findings.names_emits remoteBase]
  exact List.mem_map_of_mem listed

/-- The lines of the command have no line break in them. -/
theorem solid_emitted (check : String × Bool) (listed : check ∈ findings.emits remoteBase) :
    forall char, char ∈ emitted check -> isLineBreak char = false := by
  have all : forall name, name ∈ checkNames -> forall passed,
      (emitted (name, passed)).all (fun char => !isLineBreak char) = true := by
    decide +kernel
  intro char inner
  have kept := List.all_eq_true.mp (all check.1 (findings.named_emits remoteBase check listed)
    check.2) char inner
  rwa [Bool.not_eq_true'] at kept

theorem splitOnP_emitted (checks : List (String × Bool))
    (listed : forall check, check ∈ checks -> check ∈ findings.emits remoteBase) :
    (checks.map emitted).flatMap (List.splitOnP isLineBreak) = checks.map emitted := by
  induction checks with
  | nil => rfl
  | cons check rest inductionHypothesis =>
      rw [List.map_cons, List.flatMap_cons, List.splitOnP_eq_singleton
          (findings.solid_emitted remoteBase check (listed check List.mem_cons_self)),
        inductionHypothesis fun other member => listed other (List.mem_cons_of_mem _ member)]
      rfl

end Findings

/-- The texts that a login shell prints carry no record. -/
def Quiet (noise : List (List Char)) : Prop :=
  forall text piece, text ∈ noise -> piece ∈ text.splitOnP isLineBreak -> record? piece = none

theorem foldl_quiet {noise : List (List Char)} (quiet : Quiet noise)
    (results : List (String × String)) :
    (noise.flatMap (List.splitOnP isLineBreak)).foldl collectLine results = results := by
  apply foldl_collectLine_of_none
  intro piece listed
  rcases List.mem_flatMap.mp listed with ⟨text, member, inner⟩
  exact quiet text piece member inner

section Cut

variable (remoteBase : String) (findings : Findings)

/-- The first checks of the command are collected in their order. -/
theorem foldl_emitted (complete : Nat) :
    (((findings.emits remoteBase).take complete).map emitted).foldl collectLine [] =
      ((findings.emits remoteBase).take complete).map fun check =>
        (check.1, statusText check.2) := by
  have names : checkNames.Nodup := by decide
  rw [← findings.names_emits remoteBase] at names
  refine foldl_collectLine ?_ (((List.take_sublist complete _).map Prod.fst).nodup names)
  rw [List.map_map]
  apply List.map_congr_left
  intro check listed
  exact record?_emitted (findings.named_emits remoteBase check (List.mem_of_mem_take listed))

/-- What is collected of an output that ends early. -/
theorem collected_of_cut {noise : List (List Char)} (quiet : Quiet noise) (count : Nat) :
    Exists fun complete : Nat =>
      ((TextLines.unlines noise ++ (findings.output remoteBase).take count).splitOnP
          isLineBreak).foldl collectLine [] =
        ((findings.emits remoteBase).take complete).map fun check =>
          (check.1, statusText check.2) := by
  rcases TextLines.take_unlines ((findings.emits remoteBase).map emitted) count with
    ⟨whole, rest, cut, place⟩
  have front := foldl_emitted remoteBase findings whole
  have lines := findings.splitOnP_emitted remoteBase ((findings.emits remoteBase).take whole)
    fun check listed => List.mem_of_mem_take listed
  unfold Findings.output
  rw [cut, TextLines.splitOnP_unlines_append rfl, TextLines.splitOnP_unlines_append rfl,
    List.foldl_append, foldl_quiet quiet, ← List.map_take, lines, List.foldl_append]
  rcases place with rfl | ⟨text, next, starts⟩
  · refine ⟨whole, ?_⟩
    rw [front, List.splitOnP_nil, List.foldl_cons, collectLine_of_none rfl]
    rfl
  · rw [List.getElem?_map] at next
    rcases Option.map_eq_some_iff.mp next with ⟨check, found, rfl⟩
    have listed : check ∈ findings.emits remoteBase := List.mem_of_getElem? found
    have solid := findings.solid_emitted remoteBase check listed
    rw [List.splitOnP_eq_singleton fun char inner => solid char (starts.subset inner)]
    rcases record?_of_prefix (findings.named_emits remoteBase check listed) starts with same | none
    · refine ⟨whole + 1, ?_⟩
      have complete := foldl_emitted remoteBase findings (whole + 1)
      rw [List.take_add_one, found, Option.toList_some, List.map_append, List.foldl_append] at complete
      rw [same, List.take_add_one, found, Option.toList_some]
      exact complete
    · refine ⟨whole, ?_⟩
      rw [front, List.foldl_cons, collectLine_of_none none]
      rfl

end Cut

/-! ## The command -/

/-- How the call of `ssh` ends; the output is decoded text. -/
inductive SshRun
  | notExecuted
  | exited (returncode : Int) (stdout : List Char)

inductive HealthError
  | config (error : ConfigError)
  | transport (message : String)

/-- `health_project` -/
def healthProject (composeFile : String) (ssh : SshRun) : Except HealthError HealthReport :=
  match validateComposeFile composeFile with
  | .error error => .error (.config error)
  | .ok _ =>
      match ssh with
      | .notExecuted => .error (.transport "unable to execute the system OpenSSH client")
      | .exited returncode stdout =>
          if returncode ≠ 0 then .error (.transport "health evaluation failed over SSH")
          else
            match parseReport stdout with
            | .error message => .error (.transport message)
            | .ok report => .ok report

/-- The lines that the command prints. -/
def reportLines (json : Bool) (report : HealthReport) : List String :=
  if json then [report.toJson]
  else
    (report.checks.map fun check => "[" ++ check.status.toUpper ++ "] " ++ check.name) ++
      ["Overall: " ++ report.overallStatus.toUpper]

/-- The branch of `main` for `health`: the exit code and the printed lines. -/
def healthCommand (json : Bool) (composeFile : String) (ssh : SshRun) : Nat × List String :=
  match healthProject composeFile ssh with
  | .error _ => (2, [])
  | .ok report => (if report.healthy then 0 else 1, reportLines json report)

/-! ## What the command says -/

/-- The statuses by their names are the statuses in their order. -/
theorem lookup_statuses {checks : List (String × String)}
    (distinct : (checks.map Prod.fst).Nodup) :
    ((checks.map Prod.fst).map fun name =>
        (⟨name, (Dictionary.get name checks).getD ""⟩ : HealthCheck)) =
      checks.map fun check => ⟨check.1, check.2⟩ := by
  rw [List.map_map]
  apply List.map_congr_left
  intro check listed
  dsimp only [Function.comp_apply]
  rw [Dictionary.get_of_mem distinct listed]
  rfl

/-- An output that ends early is read as the report of what was found, or not
at all. -/
theorem parseReport_cut (remoteBase : String) (findings : Findings) {noise : List (List Char)}
    (quiet : Quiet noise) (count : Nat) :
    parseReport (TextLines.unlines noise ++ (findings.output remoteBase).take count) =
        .ok (findings.report remoteBase) ∨
      parseReport (TextLines.unlines noise ++ (findings.output remoteBase).take count) =
        .error "remote health response was incomplete or invalid" := by
  rcases collected_of_cut remoteBase findings quiet count with ⟨complete, collected⟩
  have names := findings.names_emits remoteBase
  unfold parseReport
  dsimp only
  rw [collected]
  by_cases whole : (((findings.emits remoteBase).take complete).map fun check =>
      (check.1, statusText check.2)).map Prod.fst = checkNames
  · rw [if_pos whole]
    refine Or.inl (congrArg (fun checks => Except.ok (HealthReport.mk checks)) ?_)
    have lengths := congrArg List.length whole
    rw [List.length_map, List.length_map, List.length_take, ← names, List.length_map] at lengths
    have all : (findings.emits remoteBase).take complete = findings.emits remoteBase :=
      List.take_of_length_le (by omega)
    rw [all] at whole ⊢
    have distinct : checkNames.Nodup := by decide
    have looked := lookup_statuses (whole ▸ distinct)
    rw [whole] at looked
    rw [looked, List.map_map]
    rfl
  · rw [if_neg whole]
    exact Or.inr rfl

theorem parseReport_output (remoteBase : String) (findings : Findings)
    {noise : List (List Char)} (quiet : Quiet noise) :
    parseReport (TextLines.unlines noise ++ findings.output remoteBase) =
      .ok (findings.report remoteBase) := by
  have names := findings.names_emits remoteBase
  have lines := findings.splitOnP_emitted remoteBase (findings.emits remoteBase) fun _ => id
  have front := foldl_emitted remoteBase findings (findings.emits remoteBase).length
  rw [List.take_length] at front
  have collected : ((TextLines.unlines noise ++ findings.output remoteBase).splitOnP
      isLineBreak).foldl collectLine [] =
        (findings.emits remoteBase).map fun check => (check.1, statusText check.2) := by
    unfold Findings.output
    rw [TextLines.splitOnP_unlines_append rfl, TextLines.splitOnP_unlines rfl, List.foldl_append,
      foldl_quiet quiet, lines, List.foldl_append, front, List.foldl_cons, collectLine_of_none rfl]
    rfl
  have named : ((findings.emits remoteBase).map fun check =>
      (check.1, statusText check.2)).map Prod.fst = checkNames := by
    rw [List.map_map]
    exact names
  have distinct : checkNames.Nodup := by decide
  have looked := lookup_statuses (named ▸ distinct)
  rw [named] at looked
  unfold parseReport
  dsimp only
  rw [collected, if_pos named, looked, List.map_map]
  rfl

/-! ## The printed document -/

def payloadKeys : List String := ["checks", "overall_status", "schema_version"]

def checkKeys : List String := ["name", "status"]

theorem distinct_payload (report : HealthReport) : report.payload.Distinct := by
  have outer : payloadKeys.Nodup := by decide
  have inner : checkKeys.Nodup := by decide
  refine .object _ outer ?_
  intro member listed
  simp only [List.mem_cons, List.not_mem_nil, or_false] at listed
  rcases listed with rfl | rfl | rfl
  · refine .array _ ?_
    intro element member
    rcases List.mem_map.mp member with ⟨check, _, rfl⟩
    refine .object _ inner ?_
    intro entry own
    simp only [List.mem_cons, List.not_mem_nil, or_false] at own
    rcases own with rfl | rfl
    · exact .string _
    · exact .string _
  · exact .string _
  · exact .number _

/-- The payload is written with its keys in order. -/
theorem canonical_payload (report : HealthReport) : report.payload.canonical = report.payload := by
  have outer : payloadKeys.Pairwise fun left right => left ≤ right := by decide
  have inner : checkKeys.Pairwise fun left right => left ≤ right := by decide
  have checks : (report.checks.map fun check => (Json.object [("name", .string check.name),
      ("status", .string check.status)] : Json Int)).map Json.canonical =
        report.checks.map fun check => Json.object [("name", .string check.name),
          ("status", .string check.status)] := by
    rw [List.map_map]
    apply List.map_congr_left
    intro check _
    exact congrArg Json.object (Json.sortMembers_of_sorted inner)
  unfold HealthReport.payload
  rw [Json.canonical_object]
  simp only [List.map_cons, List.map_nil, Json.canonicalMember, Json.canonical_array, checks]
  exact congrArg Json.object (Json.sortMembers_of_sorted outer)

theorem loads_toJson (report : HealthReport) :
    Json.loads .decimal report.toJson = some report.payload := by
  unfold HealthReport.toJson
  rw [Json.loads_dumps .decimal (distinct_payload report), canonical_payload]

/-! ## The verdict -/

/-- Everything that the checks look at is in order. -/
structure Findings.Sound (remoteBase : String) (findings : Findings) : Prop where
  active : findings.active remoteBase = true
  entered : findings.entered = true
  services : composeServices findings.grep findings.declared findings.running = true
  deployCheck : findings.deployCheck = true
  databaseProbe : findings.databaseProbe = true
  migrateCheck : findings.migrateCheck = true

/-- A check passes exactly when it was found to hold. -/
@[simp] theorem healthy_check (name : String) (passed : Bool) :
    (HealthCheck.mk name (if passed then "pass" else "fail")).healthy = passed := by
  cases passed <;> rfl

theorem healthy_report (remoteBase : String) (findings : Findings) :
    (findings.report remoteBase).healthy = true <-> findings.Sound remoteBase := by
  have each : (findings.report remoteBase).healthy =
      (findings.emits remoteBase).all Prod.snd := by
    unfold Findings.report HealthReport.healthy
    rw [List.all_map]
    exact congrArg (fun holds => (findings.emits remoteBase).all holds)
      (funext fun check => healthy_check check.1 check.2)
  rw [each]
  unfold Findings.emits
  cases active : findings.active remoteBase with
  | false =>
      refine iff_of_false (by simp) fun sound => ?_
      exact Bool.false_ne_true (active ▸ sound.active)
  | true =>
      simp only [if_true, List.all_cons, List.all_nil, Bool.true_and, Bool.and_true,
        Bool.and_eq_true]
      constructor
      · rintro ⟨⟨entered, services⟩, ⟨_, deployCheck⟩, ⟨_, databaseProbe⟩, _, migrateCheck⟩
        exact ⟨active, entered, services, deployCheck, databaseProbe, migrateCheck⟩
      · rintro ⟨_, entered, services, deployCheck, databaseProbe, migrateCheck⟩
        exact ⟨⟨entered, services⟩, ⟨entered, deployCheck⟩, ⟨entered, databaseProbe⟩, entered,
          migrateCheck⟩

/-- The command exits with 0 exactly when the whole output has arrived and
everything was in order; a part of the output never changes what it says: it is
either read like the whole, or refused with the code 2.  What login scripts print
in front does no harm, and the report is read back from its JSON as it was. -/
theorem health_verdict (remoteBase composeFile normal : String) (findings : Findings)
    (noise : List (List Char)) (json : Bool)
    (accepted : validateComposeFile composeFile = .ok normal) (quiet : Quiet noise) :
    (((healthCommand json composeFile
          (.exited 0 (TextLines.unlines noise ++ findings.output remoteBase))).1 = 0 <->
        findings.Sound remoteBase) ∧
      (healthCommand json composeFile
          (.exited 0 (TextLines.unlines noise ++ findings.output remoteBase))).2 =
        reportLines json (findings.report remoteBase)) ∧
      (forall count,
        healthCommand json composeFile (.exited 0
            (TextLines.unlines noise ++ (findings.output remoteBase).take count)) =
          healthCommand json composeFile
            (.exited 0 (TextLines.unlines noise ++ findings.output remoteBase)) ∨
        healthCommand json composeFile (.exited 0
            (TextLines.unlines noise ++ (findings.output remoteBase).take count)) = (2, [])) ∧
      Json.loads .decimal (findings.report remoteBase).toJson =
        some (findings.report remoteBase).payload := by
  have command : forall stdout : List Char, healthCommand json composeFile (.exited 0 stdout) =
      match parseReport stdout with
      | .error _ => (2, [])
      | .ok report => (if report.healthy then 0 else 1, reportLines json report) := by
    intro stdout
    unfold healthCommand healthProject
    rw [accepted]
    dsimp only
    rw [if_neg (not_not_intro rfl)]
    cases parseReport stdout <;> rfl
  have whole := parseReport_output remoteBase findings quiet
  refine ⟨⟨?_, ?_⟩, ?_, loads_toJson _⟩
  · rw [command, whole, ← healthy_report]
    dsimp only
    split
    · rename_i healthy
      exact ⟨fun _ => healthy, fun _ => rfl⟩
    · rename_i unhealthy
      exact ⟨fun impossible => absurd impossible Nat.one_ne_zero, fun healthy =>
        absurd healthy unhealthy⟩
  · rw [command, whole]
  · intro count
    rw [command, command, whole]
    rcases parseReport_cut remoteBase findings quiet count with same | lost
    · rw [same]
      exact Or.inl rfl
    · rw [lost]
      exact Or.inr rfl

/-- Two services run, and every check of the deployment passes. -/
def soundFindings : Findings where
  release := "/srv/shop/releases/42".toList
  isDirectory := true
  entered := true
  grep := fun word lines => lines.any fun line => decide (line = word)
  declared := ⟨"traefik\nweb\n".toList, true⟩
  running := ⟨"web\ntraefik\n".toList, true⟩
  deployCheck := true
  databaseProbe := true
  migrateCheck := true

/-- The complete output is healthy, and nothing is said about a half of it. -/
theorem health_verdict_sample :
    (healthCommand false "compose.yaml" (.exited 0
      (TextLines.unlines ["Welcome".toList] ++ soundFindings.output "/srv/shop"))).1 = 0 ∧
    (healthCommand false "compose.yaml" (.exited 0
      (TextLines.unlines ["Welcome".toList] ++
        (soundFindings.output "/srv/shop").take 70))).1 = 2 ∧
    Json.loads .decimal (soundFindings.report "/srv/shop").toJson =
      some (soundFindings.report "/srv/shop").payload := by
  have quiet : Quiet ["Welcome".toList] := by
    intro text piece listed inner
    rw [List.mem_singleton] at listed
    subst listed
    have pieces : ("Welcome".toList).splitOnP isLineBreak = ["Welcome".toList] := by decide +kernel
    rw [pieces, List.mem_singleton] at inner
    rw [inner]
    decide +kernel
  have verdict := health_verdict "/srv/shop" "compose.yaml" "compose.yaml" soundFindings
    ["Welcome".toList] false (by decide +kernel) quiet
  refine ⟨verdict.1.1.mpr ?_, by decide +kernel, verdict.2.2⟩
  exact ⟨by decide +kernel, rfl, by decide +kernel, rfl, rfl, rfl⟩

end Health
end Cli
end DjangoOps
