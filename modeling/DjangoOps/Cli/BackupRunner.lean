import DjangoOps.Cli.Alphabets
import DjangoOps.Cli.BackupListing
import DjangoOps.Cli.ConfigUpgrade
import DjangoOps.Cli.Health
import DjangoOps.Foundation.HereDocument

namespace DjangoOps
namespace Cli

open ShellWord (quote)
open TextLines

/-!
# The installed backup runner

`install_backup_schedule` sends the generated script as a here-document inside a
remote command.  The values of the script are quoted for the shell that runs
the script; nothing quotes them for the here-document.
-/

/-- `_aws_env_prefix` -/
def awsEnvPrefix (config : DjangoOpsConfig) : List Char :=
  let region :=
    match config.storage.region with
    | none => []
    | some region => " AWS_DEFAULT_REGION=".toList ++ quote region.toList
  "AWS_ENDPOINT_URL=".toList ++ (quote config.storage.endpointUrl.toList ++ region)

/-- `_compose_prefix` -/
def composePrefix (config : DjangoOpsConfig) (composeFile : String) :
    Except ConfigError (List Char) := do
  let validated <- validateComposeFile composeFile
  .ok ("docker compose -p ".toList ++ (quote config.project.name.toList ++
    (" -f ".toList ++ quote validated.toList)))

/-- The lines of `_backup_script`; the newlines of the formats of `printf` are
newlines of the script. -/
def backupScriptLines (config : DjangoOpsConfig) (target : DeploymentTarget)
    (compose : List Char) : List (List Char) :=
  let aws := awsEnvPrefix config
  let bucket := config.backup.bucket.toList
  let media := config.storage.mediaBucket.toList
  ["#!/bin/sh".toList, "set -eu".toList, "umask 077".toList,
    "backup_id=\"$\x7b1:-b$(date -u +%Y%m%dT%H%M%SZ)\x7d\"".toList,
    "printf '%s".toList,
    "' \"$backup_id\" | grep -Eq '^b[0-9]\x7b8\x7dT[0-9]\x7b6\x7dZ$' || exit 2".toList,
    "command -v docker >/dev/null".toList, "command -v aws >/dev/null".toList,
    "cd ".toList ++ quote (target.remoteBase ++ "/current").toList,
    "set -a".toList,
    ". ".toList ++ (quote target.remoteBase.toList ++ "/shared/.env".toList),
    "set +a".toList, "test -n \"$\x7bPOSTGRES_PASSWORD:-\x7d\"".toList,
    "test -n \"$\x7bAWS_ACCESS_KEY_ID:-\x7d\"".toList,
    "test -n \"$\x7bAWS_SECRET_ACCESS_KEY:-\x7d\"".toList,
    "work=$(mktemp -d)".toList, "trap 'rm -rf \"$work\"' EXIT".toList,
    compose ++ " config --services | grep -Fx postgres >/dev/null".toList,
    compose ++ (" exec -T postgres sh -c   'pg_dump -U \"$POSTGRES_USER\" \"$POSTGRES_DB\"'" ++
      " | gzip -c > \"$work/database.sql.gz\"").toList,
    "printf 'backup_id=%s".toList, "project=%s".toList, "database=database.sql.gz".toList,
    "media=media/".toList,
    "'   \"$backup_id\" ".toList ++ (quote config.project.name.toList ++
      " > \"$work/metadata.txt\"".toList),
    "dest=\"s3://".toList ++ (bucket ++ '/' :: (objectPrefix config ++ "/$backup_id\"".toList)),
    aws ++ " aws s3 cp \"$work/database.sql.gz\" \"$dest/database.sql.gz\" >/dev/null".toList,
    aws ++ (" aws s3 sync \"s3://".toList ++ (media ++ "/\" \"$dest/media/\" >/dev/null".toList)),
    ": > \"$work/media.ready\"".toList,
    aws ++ " aws s3 cp \"$work/media.ready\" \"$dest/media.ready\" >/dev/null".toList,
    aws ++ " aws s3 cp \"$work/metadata.txt\" \"$dest/metadata.txt\" >/dev/null".toList]

/-- `_backup_script` -/
def backupScript (config : DjangoOpsConfig) (target : DeploymentTarget) (composeFile : String) :
    Except ConfigError (List Char) := do
  let compose <- composePrefix config composeFile
  .ok (unlines (backupScriptLines config target compose))

/-! ## The command -/

def heredocDelimiter : List Char := "DJANGOOPS_BACKUP".toList

/-- The command line in front of the here-document. -/
def installLine (target : DeploymentTarget) : List Char :=
  ("set -eu; umask 077; command -v crontab >/dev/null; command -v docker >/dev/null; " ++
    "command -v aws >/dev/null; mkdir -p ").toList ++ (quote target.remoteBase.toList ++
      ("/shared; cat > ".toList ++ (quote (backupRunner target) ++ " ".toList)))

/-- The commands behind the here-document. -/
def installTail (config : DjangoOpsConfig) (target : DeploymentTarget) : List Char :=
  "chmod 700 ".toList ++ (quote (backupRunner target) ++
    (("; current=$(crontab -l 2>/dev/null || true); " ++
      "filtered=$(printf '%s\\n' \"$current\" | grep -Fv -- ").toList ++
      (quote (scheduleMarker config) ++
        (" || true); \x7b printf '%s\\n' \"$filtered\"; printf '%s\\n' ".toList ++
          (quote (cronLine config target) ++ "; \x7d | sed '/^$/d' | crontab -".toList)))))

/-- `command` -/
def installCommand (config : DjangoOpsConfig) (target : DeploymentTarget) (composeFile : String) :
    Except ConfigError (List Char) := do
  let validated <- validateComposeFile composeFile
  let script <- backupScript config target validated
  .ok (installLine target ++ ("<<'".toList ++ (heredocDelimiter ++ ("'\n".toList ++
    (script ++ '\n' :: (heredocDelimiter ++ '\n' :: installTail config target))))))

/-- What the shell makes of the command: the file behind the redirection, what
it writes there, and the commands that it goes on with. -/
structure Installation where
  file : List Char
  content : List Char
  commands : List Char

def readInstallation (target : DeploymentTarget) (command : List Char) : Option Installation :=
  (ShellWord.read .plain (quote (backupRunner target))).bind fun file =>
    (HereDocument.readCommand command).map fun document => ⟨file, document.1, document.2⟩

/-! ## Lines of the script -/

def NoNewline (text : List Char) : Prop := forall char, char ∈ text -> isNewline char = false

theorem NoNewline.append {front back : List Char} (first : NoNewline front)
    (second : NoNewline back) : NoNewline (front ++ back) := by
  intro char listed
  rcases List.mem_append.mp listed with inner | behind
  · exact first char inner
  · exact second char behind

theorem NoNewline.cons {char : Char} {text : List Char} (first : isNewline char = false)
    (rest : NoNewline text) : NoNewline (char :: text) := by
  intro letter listed
  rcases List.mem_cons.mp listed with rfl | inner
  · exact first
  · exact rest letter inner

theorem noNewline_of_all {text : List Char} (all : text.all (fun char => !isNewline char) = true) :
    NoNewline text :=
  fun char listed => Bool.not_eq_true' _ ▸ List.all_eq_true.mp all char listed

theorem NoNewline.quote {text : List Char} (solid : NoNewline text) :
    NoNewline (ShellWord.quote text) := by
  intro char listed
  rcases ShellWord.mem_quote listed with inner | rfl | rfl
  · exact solid char inner
  · rfl
  · rfl

theorem IsPlain.noNewline {text : String} (plain : IsPlain text) : NoNewline text.toList :=
  fun _ listed => isNewline_of_plain rfl (plain _ listed)

theorem noNewline_of_printable {text : String} (printable : text.toList.any isControl = false) :
    NoNewline text.toList := by
  intro char listed
  have visible := List.any_eq_false.mp printable char listed
  cases newline : isNewline char with
  | false => rfl
  | true =>
      rw [beq_iff_eq.mp newline] at visible
      exact absurd rfl visible

/-- The normal form of a Compose path is accepted again and has no newline. -/
theorem validateComposeFile_again {value normal : String}
    (valid : validateComposeFile value = .ok normal) :
    validateComposeFile normal = .ok normal ∧ NoNewline normal.toList := by
  rcases validateComposeFile_iff.mp valid with ⟨path, rfl⟩
  have named : forall piece, piece ∈ PosixPath.names value.toList ->
      PosixPath.isName piece = true ∧ '/' ∉ piece := by
    intro piece listed
    have found := PosixPath.mem_names.mp listed
    exact ⟨PosixPath.isName_iff.mpr found.2, PosixPath.slash_not_mem found.1⟩
  rw [PurePosixPath.parse_relative path.relative]
  by_cases none : PosixPath.names value.toList = []
  · rw [none]
    exact ⟨by decide, noNewline_of_all (by decide)⟩
  · have shape : (PurePosixPath.mk [] (PosixPath.names value.toList)).asPosix =
        PosixPath.join (PosixPath.names value.toList) := by
      unfold PurePosixPath.asPosix
      rw [if_neg fun both => none both.2]
      rfl
    have again := PosixPath.names_join (fun piece listed => (named piece listed).1)
      fun piece listed => (named piece listed).2
    have letters : forall char, char ∈ PosixPath.join (PosixPath.names value.toList) ->
        char = '/' ∨ char ∈ value.toList := by
      intro char listed
      rcases Splitting.mem_intercalate listed with slash | ⟨piece, found, inner⟩
      · exact Or.inl slash
      · have segment := (PosixPath.mem_names.mp found).1
        exact Or.inr (PosixPath.mem_of_mem_segments segment inner).1
    rw [shape]
    generalize names : PosixPath.names value.toList = pieces at *
    have written : PosixPath.join pieces ≠ [] := by
      intro empty
      rw [empty] at again
      exact none again.symm
    have relative : (PosixPath.join pieces).head? ≠ some '/' := by
      cases pieces with
      | nil => exact absurd rfl none
      | cons first rest =>
          have facts := named first List.mem_cons_self
          have front : Exists fun tail : List Char =>
              PosixPath.join (first :: rest) = first ++ tail := by
            cases rest with
            | nil => exact ⟨[], (List.intercalate_singleton).trans (List.append_nil _).symm⟩
            | cons next others =>
                exact ⟨'/' :: PosixPath.join (next :: others),
                  List.intercalate_cons_cons.trans (List.append_assoc _ _ _)⟩
          rcases front with ⟨tail, shaped⟩
          rw [shaped, List.head?_append_of_ne_nil _ (PosixPath.isName_iff.mp facts.1).1]
          intro slash
          exact facts.2 (List.mem_of_mem_head? slash)
    constructor
    · apply validateComposeFile_iff.mpr
      rw [String.toList_ofList, PurePosixPath.parse_relative relative, again, shape]
      refine ⟨⟨?_, ?_, ?_, ?_⟩, rfl⟩
      · intro empty
        have texts := congrArg String.toList empty
        rw [String.toList_ofList] at texts
        exact written texts
      · rw [String.toList_ofList]
        apply List.any_eq_false.mpr
        intro char listed
        rcases letters char listed with rfl | inner
        · decide
        · exact List.any_eq_false.mp path.printable char inner
      · rw [String.toList_ofList]
        exact relative
      · rw [String.toList_ofList, PosixPath.segments_join none fun piece listed =>
          (named piece listed).2, ← names]
        exact fun listed => path.moves (PosixPath.mem_names.mp listed).1
    · rw [String.toList_ofList]
      intro char listed
      rcases letters char listed with rfl | inner
      · rfl
      · exact noNewline_of_printable path.printable char inner

variable {config : DjangoOpsConfig} {target : DeploymentTarget}

/-- A line of its own that begins with another letter is not the delimiter. -/
theorem delimiter_not_mem {line : List Char} (solid : NoNewline line)
    (other : line.head? ≠ some 'D') : heredocDelimiter ∉ line.splitOnP isNewline := by
  rw [List.splitOnP_eq_singleton solid, List.mem_singleton]
  rintro rfl
  exact other rfl

theorem delimiter_literal {text : String}
    (solid : text.toList.all (fun char => !isNewline char) = true)
    (other : text.toList.head? ≠ some 'D') :
    heredocDelimiter ∉ text.toList.splitOnP isNewline :=
  delimiter_not_mem (noNewline_of_all solid) other

theorem delimiter_behind {text : String} {rest : List Char}
    (solid : text.toList.all (fun char => !isNewline char) = true)
    (other : text.toList.head?.map (· == 'D') = some false) (tail : NoNewline rest) :
    heredocDelimiter ∉ (text.toList ++ rest).splitOnP isNewline := by
  apply delimiter_not_mem ((noNewline_of_all solid).append tail)
  rcases Option.map_eq_some_iff.mp other with ⟨first, head, different⟩
  have written : text.toList ≠ [] := by
    intro empty
    rw [empty] at head
    cases head
  rw [List.head?_append_of_ne_nil _ written, head]
  rintro same
  exact beq_eq_false_iff_ne.mp different (Option.some.inj same)

/-- What the values of the script have been checked for. -/
structure Checked (config : DjangoOpsConfig) (target : DeploymentTarget) (compose : List Char) :
    Prop where
  base : NoNewline target.remoteBase.toList
  command : NoNewline compose
  docker : compose.head? = some 'd'
  name : NoNewline config.project.name.toList
  bucket : NoNewline config.backup.bucket.toList
  media : NoNewline config.storage.mediaBucket.toList
  backupPrefix : NoNewline config.backup.backupPrefix.toList
  region : forall region, region ∈ config.storage.region -> NoNewline region.toList

/-- In a call of `aws` only the endpoint can contain the delimiter. -/
theorem delimiter_aws (region : forall region, region ∈ config.storage.region ->
    NoNewline region.toList) {command : List Char} (solid : NoNewline command) :
    heredocDelimiter ∈ (awsEnvPrefix config ++ command).splitOnP isNewline <->
      '\n' :: (heredocDelimiter ++ ['\n']) <:+: config.storage.endpointUrl.toList := by
  unfold awsEnvPrefix
  dsimp only
  rw [List.append_assoc, List.append_assoc]
  apply HereDocument.mem_quoted
  · exact noNewline_of_all (by decide)
  · apply NoNewline.append
    · cases known : config.storage.region with
      | none => exact noNewline_of_all rfl
      | some text =>
          exact NoNewline.append (noNewline_of_all (by decide)) (region text known).quote
    · exact solid
  · decide
  · decide
  · decide

theorem delimiter_compose {compose command : List Char} (checked : Checked config target compose)
    (solid : NoNewline command) :
    heredocDelimiter ∉ (compose ++ command).splitOnP isNewline := by
  apply delimiter_not_mem (checked.command.append solid)
  have written : compose ≠ [] := by
    rintro rfl
    exact absurd checked.docker (by decide)
  rw [List.head?_append_of_ne_nil _ written, checked.docker]
  decide

/-- The delimiter is a line of the script exactly when it is one of the endpoint,
between two newlines. -/
theorem delimiter_mem_script {compose : List Char} (checked : Checked config target compose) :
    heredocDelimiter ∈ (unlines (backupScriptLines config target compose)).splitOnP isNewline <->
      '\n' :: (heredocDelimiter ++ ['\n']) <:+: config.storage.endpointUrl.toList := by
  have call {command : List Char} (solid : NoNewline command) :=
    delimiter_aws checked.region solid
  have literal : forall {text : List Char},
      text.all (fun char => !isNewline char) = true -> NoNewline text := noNewline_of_all
  rw [splitOnP_unlines rfl, List.mem_append, List.mem_flatMap]
  constructor
  · rintro (⟨line, listed, found⟩ | empty)
    · unfold backupScriptLines at listed
      simp only [List.mem_cons, List.not_mem_nil, or_false] at listed
      rcases listed with rfl | rfl | rfl | rfl | rfl | rfl | rfl | rfl | rfl | rfl | rfl | rfl |
        rfl | rfl | rfl | rfl | rfl | rfl | rfl | rfl | rfl | rfl | rfl | rfl | rfl | rfl | rfl |
        rfl | rfl | rfl
      all_goals
        first
        | exact absurd found (delimiter_literal (by decide +kernel) (by decide +kernel))
        | skip
      · have current : NoNewline (target.remoteBase ++ "/current").toList := by
          rw [String.toList_append]
          exact checked.base.append (literal (by decide +kernel))
        exact absurd found (delimiter_behind (by decide +kernel) (by decide +kernel) current.quote)
      · have shared : NoNewline "/shared/.env".toList := literal (by decide +kernel)
        exact absurd found
          (delimiter_behind (by decide) (by decide) (checked.base.quote.append shared))
      · exact absurd found (delimiter_compose checked (literal (by decide +kernel)))
      · exact absurd found (delimiter_compose checked (literal (by decide +kernel)))
      · have work : NoNewline " > \"$work/metadata.txt\"".toList := literal (by decide +kernel)
        exact absurd found
          (delimiter_behind (by decide) (by decide) (checked.name.quote.append work))
      · have id : NoNewline "/$backup_id\"".toList := literal (by decide +kernel)
        have folder : NoNewline (objectPrefix config) :=
          checked.backupPrefix.append (NoNewline.cons rfl checked.name)
        exact absurd found (delimiter_behind (by decide +kernel) (by decide +kernel)
          (checked.bucket.append (NoNewline.cons rfl (folder.append id))))
      · exact (call (literal (by decide +kernel))).mp found
      · have media : NoNewline "/\" \"$dest/media/\" >/dev/null".toList := literal (by decide)
        have sync : NoNewline " aws s3 sync \"s3://".toList := literal (by decide +kernel)
        exact (call (sync.append (checked.media.append media))).mp found
      · exact (call (literal (by decide +kernel))).mp found
      · exact (call (literal (by decide +kernel))).mp found
    · exact absurd (List.mem_singleton.mp empty) (by decide)
  · intro inside
    left
    refine ⟨awsEnvPrefix config ++
      " aws s3 cp \"$work/metadata.txt\" \"$dest/metadata.txt\" >/dev/null".toList, ?_,
      (call (noNewline_of_all (by decide))).mpr inside⟩
    unfold backupScriptLines
    simp only [List.mem_cons, true_or, or_true]

/-! ## The installation -/

variable {Other : Type} {python : Python Other}

theorem checked_of_validated (valid : Validated python config.arguments config)
    (base : validateRemoteBase target.remoteBase = .ok ()) {normal : String}
    (solid : NoNewline normal.toList) :
    Checked config target ("docker compose -p ".toList ++ (quote config.project.name.toList ++
      (" -f ".toList ++ quote normal.toList))) where
  base := noNewline_of_printable (validateRemoteBase_ok base).1
  command := (noNewline_of_all (by decide)).append
    ((isPlain_projectName valid.name).noNewline.quote.append
      ((noNewline_of_all (by decide)).append solid.quote))
  docker := rfl
  name := (isPlain_projectName valid.name).noNewline
  bucket := (isPlain_bucket valid.bucket).noNewline
  media := (isPlain_bucket valid.mediaBucket).noNewline
  backupPrefix := (isPlain_backupPrefix valid.backupPrefix).noNewline
  region := by
    intro region named
    have known := valid.region
    change validateRegion config.storage.region = .ok config.storage.region at known
    rw [Option.mem_def.mp named] at known
    exact (isPlain_region known).noNewline

/-- The shell finds the here-document behind the command line. -/
theorem readCommand_install (script : List Char) :
    HereDocument.readCommand (installLine target ++ ("<<'".toList ++ (heredocDelimiter ++
      ("'\n".toList ++ (script ++ '\n' :: (heredocDelimiter ++ '\n' ::
        installTail config target)))))) =
      HereDocument.cut heredocDelimiter
        (script ++ '\n' :: (heredocDelimiter ++ '\n' :: installTail config target)) := by
  unfold HereDocument.readCommand installLine
  simp only [List.append_assoc]
  rw [HereDocument.scan_neutral (by decide +kernel), HereDocument.scan_quote,
    HereDocument.scan_neutral (by decide), HereDocument.scan_quote,
    HereDocument.scan_neutral (by decide)]
  change (HereDocument.scan .plain ('<' :: '<' :: ShellWord.singleQuote :: (heredocDelimiter ++
    ShellWord.singleQuote :: '\n' :: _))).bind _ = _
  rw [HereDocument.scan_operator (by decide)]
  rfl

/-- The script, the command and what the shell reads of it, once the values have
been checked. -/
theorem installation_read (valid : Validated python config.arguments config)
    (base : validateRemoteBase target.remoteBase = .ok ()) {composeFile normal : String}
    (validCompose : validateComposeFile composeFile = .ok normal) :
    Exists fun script : List Char => Exists fun command : List Char =>
      backupScript config target normal = .ok script ∧
        installCommand config target composeFile = .ok command ∧
        (heredocDelimiter ∈ script.splitOnP isNewline <->
          '\n' :: (heredocDelimiter ++ ['\n']) <:+: config.storage.endpointUrl.toList) ∧
        forall document, HereDocument.cut heredocDelimiter (script ++ '\n' ::
            (heredocDelimiter ++ '\n' :: installTail config target)) = some document ->
          readInstallation target command =
            some ⟨backupRunner target, document.1, document.2⟩ := by
  have again := validateComposeFile_again validCompose
  have checked := checked_of_validated valid base again.2
  generalize compose : "docker compose -p ".toList ++ (quote config.project.name.toList ++
    (" -f ".toList ++ quote normal.toList)) = prefixed at checked
  have generated : backupScript config target normal =
      .ok (unlines (backupScriptLines config target prefixed)) := by
    unfold backupScript composePrefix
    rw [again.1, ← compose]
    rfl
  have listed := delimiter_mem_script checked
  generalize unlines (backupScriptLines config target prefixed) = script at *
  refine ⟨script, installLine target ++ ("<<'".toList ++ (heredocDelimiter ++ ("'\n".toList ++
    (script ++ '\n' :: (heredocDelimiter ++ '\n' :: installTail config target))))), generated,
    ?_, listed, ?_⟩
  · unfold installCommand
    rw [validCompose]
    change (backupScript config target normal >>= _) = _
    rw [generated]
    rfl
  · intro document found
    unfold readInstallation
    rw [readCommand_install, found, ShellWord.read_quote]
    rfl

/-- The runner is installed as it was generated, with the newline that ends the
here-document, exactly when the delimiter is no inner line of the endpoint.
Without that newline it never is. -/
theorem runner_installed {value : Yaml Other} {isFile : String -> Bool} {host user : String}
    {port : Int} {remoteBase : String} {identityFile : Option String} {composeFile normal : String}
    (made : DjangoOpsConfig.fromMapping python value = .ok config)
    (created : DeploymentTarget.create isFile host user port remoteBase identityFile = .ok target)
    (validCompose : validateComposeFile composeFile = .ok normal) :
    Exists fun script : List Char => Exists fun command : List Char =>
      Exists fun installation : Installation =>
        backupScript config target normal = .ok script ∧
          installCommand config target composeFile = .ok command ∧
          readInstallation target command = some installation ∧
          installation.file = backupRunner target ∧
          (installation.content = script ++ ['\n'] ∧
              installation.commands = installTail config target <->
            ¬ '\n' :: (heredocDelimiter ++ ['\n']) <:+: config.storage.endpointUrl.toList) ∧
          installation.content ≠ script := by
  have valid := (Produced.fromMapping value made).validated
  have base := DeploymentTarget.create_ok created
  rw [← base.1] at base
  have solid : NoNewline heredocDelimiter := noNewline_of_all (by decide)
  rcases installation_read valid base.2 validCompose with
    ⟨script, command, generated, sent, listed, done⟩
  refine ⟨script, command, ?_⟩
  by_cases inner : heredocDelimiter ∈ script.splitOnP isNewline
  · rcases HereDocument.cut_early solid (by decide) inner with ⟨body, rest, found, short, -⟩
    refine ⟨_, generated, sent, done _ found, rfl, ?_, ?_⟩
    · refine iff_of_false ?_ (not_not_intro (listed.mp inner))
      rintro ⟨same, -⟩
      have length := congrArg List.length same
      rw [List.length_append] at length
      dsimp only at length
      omega
    · rintro same
      exact Nat.lt_irrefl _ (same ▸ short)
  · refine ⟨_, generated, sent, done _ (HereDocument.cut_whole solid inner), rfl, ?_, ?_⟩
    · exact iff_of_true ⟨rfl, rfl⟩ fun inside => inner (listed.mpr inside)
    · intro same
      have length := congrArg List.length same
      rw [List.length_append, List.length_singleton] at length
      omega

/-- A configuration whose endpoint ends the here-document. -/
def brokenConfig : DjangoOpsConfig :=
  { sampleConfig with
    storage := { sampleConfig.storage with
      endpointUrl := "https://s3.example.com\nDJANGOOPS_BACKUP\ntouch unasked" } }

/-- It is accepted, and the shell goes on with the rest of the script. -/
theorem endpoint_ends_document :
    DjangoOpsConfig.fromMapping samplePython (.dict (Yaml.record brokenConfig.toMapping)) =
        .ok brokenConfig ∧
      DeploymentTarget.create (fun _ => false) shopHost.host shopHost.user shopHost.port
        shopHost.remoteBase none = .ok shopHost ∧
      Exists fun script : List Char => Exists fun command : List Char =>
        Exists fun installation : Installation =>
          backupScript brokenConfig shopHost "docker-compose.yml" = .ok script ∧
            installCommand brokenConfig shopHost "docker-compose.yml" = .ok command ∧
            readInstallation shopHost command = some installation ∧
            installation.content.length < script.length ∧
            installation.commands ≠ installTail brokenConfig shopHost := by
  have made : DjangoOpsConfig.fromMapping samplePython
      (.dict (Yaml.record brokenConfig.toMapping)) = .ok brokenConfig := by
    rfl
  have valid := (Produced.fromMapping _ made).validated
  have inside : '\n' :: (heredocDelimiter ++ ['\n']) <:+:
      brokenConfig.storage.endpointUrl.toList :=
    ⟨"https://s3.example.com".toList, "touch unasked".toList, by decide⟩
  have base : validateRemoteBase shopHost.remoteBase = .ok () := by decide
  have compose : validateComposeFile "docker-compose.yml" = .ok "docker-compose.yml" := by decide
  rcases installation_read valid base compose with ⟨script, command, generated, sent, listed, done⟩
  rcases HereDocument.cut_early (noNewline_of_all (by decide)) (by decide)
    (listed.mpr inside) with ⟨body, rest, found, short, long⟩
  refine ⟨made, by rfl, script, command, _, generated, sent, done _ found, short, ?_⟩
  rintro same
  exact Nat.lt_irrefl _ (same ▸ long)

/-- The runner of the sample project. -/
theorem runner_installed_sample :
    Exists fun script : List Char => Exists fun command : List Char =>
      Exists fun installation : Installation =>
        backupScript sampleConfig shopHost "docker-compose.yml" = .ok script ∧
          installCommand sampleConfig shopHost "docker-compose.yml" = .ok command ∧
          readInstallation shopHost command = some installation ∧
          installation.content = script ++ ['\n'] ∧
          installation.commands = installTail sampleConfig shopHost := by
  have made : DjangoOpsConfig.fromMapping samplePython
      (.dict (Yaml.record sampleConfig.toMapping)) = .ok sampleConfig :=
    fromMapping_toMapping (Produced.create _ sampleConfig_created).validated
  have created : DeploymentTarget.create (fun _ => false) shopHost.host shopHost.user
      shopHost.port shopHost.remoteBase none = .ok shopHost := by
    rfl
  have compose : validateComposeFile "docker-compose.yml" = .ok "docker-compose.yml" := by decide
  rcases runner_installed made created compose with
    ⟨script, command, installation, generated, sent, found, -, exact, -⟩
  have whole := exact.mpr fun inside => absurd (inside.subset List.mem_cons_self) (by decide)
  exact ⟨script, command, installation, generated, sent, found, whole.1, whole.2⟩

end Cli
end DjangoOps
