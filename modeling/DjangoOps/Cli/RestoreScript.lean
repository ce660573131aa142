import DjangoOps.Cli.BackupObjects
import DjangoOps.Cli.BackupRunner
import DjangoOps.Foundation.Errexit

namespace DjangoOps
namespace Cli
namespace Restore

open Backup (Media MetadataLine Objects Tools grepFx)
open Errexit (Outcome Precedes Setting)
open ShellWord (quote)

universe u v

/-!
# The remote script of a restore

`restore_backup` sends one script, which looks at the selected backup, saves what
is there and replaces it.  The script ends at its first command that fails, but
a pipeline fails only with its last command.  While it runs, the application
goes on writing until its services are stopped.
-/

/-- The commands that look and prepare, and leave all data as they are. -/
inductive Look
  | docker
  | aws
  | environmentFile
  | startExport
  | environment
  | stopExport
  | password
  | accessKey
  | secretKey
  | projectName
  | gzip
  | currentLink
  | current
  | service (name : String)
  | recoveryId
  | recovery
  | deployCheck
  deriving DecidableEq

/-- The commands of the script in their order.  Those up to the stop of the writers leave
the database and the media as they are. -/
inductive Command
  | look (look : Look)
  | copyMetadata
  | grep (line : MetadataLine)
  | copyDatabase
  | testDatabase
  | copyMediaReady
  | dump
  | saveDump
  | saveMedia
  | stop
  | dropdb
  | psql
  | syncMedia
  | up
  deriving DecidableEq

/-! ## The script -/

/-- `_writer_services` -/
def writerServices (config : DjangoOpsConfig) : List String :=
  "web" :: ((if config.services.celery then ["celery"] else []) ++
    (if config.services.celeryBeat then ["celery_beat"] else []))

/-- `_runtime_preflight` -/
def runtimePreflight : List Look :=
  [.docker, .aws, .environmentFile, .startExport, .environment, .stopExport, .password,
    .accessKey, .secretKey, .projectName]

/-- The commands that look, in front of the first copy. -/
def preflight (config : DjangoOpsConfig) : List Look :=
  List.append runtimePreflight (.gzip :: .currentLink :: .current ::
    ("postgres" :: writerServices config).map Look.service)

/-- The commands of `restore_backup`, behind the options of the shell. -/
def script (config : DjangoOpsConfig) : List Command :=
  List.append ((preflight config).map .look)
    [.copyMetadata, .grep .backupId, .grep .project, .grep .database, .grep .media, .copyDatabase,
      .testDatabase, .copyMediaReady, .look .recoveryId, .look .recovery, .dump, .saveDump,
      .saveMedia, .stop, .dropdb, .psql, .syncMedia, .up, .look .deployCheck]

/-! ### Its text -/

section Text

variable (config : DjangoOpsConfig) (target : DeploymentTarget) (id compose : List Char)

/-- `bucket_path` -/
def bucketPath : List Char :=
  "s3://".toList ++ (config.backup.bucket.toList ++ '/' :: (objectPrefix config ++ '/' :: id))

/-- `recovery_root` -/
def recoveryRoot : List Char :=
  "s3://".toList ++ (config.backup.bucket.toList ++ '/' ::
    (objectPrefix config ++ "/recovery".toList))

def mediaBucket : List Char :=
  "s3://".toList ++ (config.storage.mediaBucket.toList ++ ['/'])

def preRestorePath : List Char :=
  quote target.remoteBase.toList ++ ("/shared/pre-restore-".toList ++ (id ++ ".sql.gz".toList))

/-- `aws s3 cp` or `aws s3 sync` -/
def s3 (operation : String) (source destination : List Char) : List Char :=
  awsEnvPrefix config ++ (" aws s3 ".toList ++ (operation.toList ++ ' ' ::
    (source ++ ' ' :: (destination ++ " >/dev/null".toList))))

def writerArgs : List Char :=
  [' '].intercalate ((writerServices config).map fun service => quote service.toList)

def lookText : Look -> List Char
  | .docker => "command -v docker >/dev/null".toList
  | .aws => "command -v aws >/dev/null".toList
  | .environmentFile => "test -f ".toList ++ quote (target.remoteBase ++ "/shared/.env").toList
  | .startExport => "set -a".toList
  | .environment => ". ".toList ++ quote (target.remoteBase ++ "/shared/.env").toList
  | .stopExport => "set +a".toList
  | .password => "test -n \"$\x7bPOSTGRES_PASSWORD:-\x7d\"".toList
  | .accessKey => "test -n \"$\x7bAWS_ACCESS_KEY_ID:-\x7d\"".toList
  | .secretKey => "test -n \"$\x7bAWS_SECRET_ACCESS_KEY:-\x7d\"".toList
  | .projectName => "test -n ".toList ++ quote config.project.name.toList
  | .gzip => "command -v gzip >/dev/null".toList
  | .currentLink => "test -L ".toList ++ quote (target.remoteBase ++ "/current").toList
  | .current => "cd ".toList ++ quote (target.remoteBase ++ "/current").toList
  | .service name =>
      compose ++ (" config --services | grep -Fx ".toList ++
        (quote name.toList ++ " >/dev/null".toList))
  | .recoveryId => "recovery_id=pre-restore-$(date -u +%Y%m%dT%H%M%SZ)".toList
  | .recovery => "recovery=".toList ++ (quote (recoveryRoot config) ++ "/$recovery_id".toList)
  | .deployCheck => compose ++ " exec -T web python manage.py check --deploy".toList

def commandText : Command -> List Char
  | .look look => lookText config target compose look
  | .copyMetadata =>
      s3 config "cp" (quote (bucketPath config id ++ "/metadata.txt".toList))
        "/tmp/djangoops-restore-meta".toList
  | .grep line =>
      let pattern :=
        match line with
        | .backupId | .project => quote (line.text config id)
        | .database | .media => '\'' :: (line.text config id ++ ['\''])
      "grep -Fx ".toList ++ (pattern ++ " /tmp/djangoops-restore-meta >/dev/null".toList)
  | .copyDatabase =>
      s3 config "cp" (quote (bucketPath config id ++ "/database.sql.gz".toList))
        "/tmp/djangoops-restore-db.sql.gz".toList
  | .testDatabase => "gzip -t /tmp/djangoops-restore-db.sql.gz".toList
  | .copyMediaReady =>
      s3 config "cp" (quote (bucketPath config id ++ "/media.ready".toList))
        "/tmp/djangoops-restore-media-ready".toList
  | .dump =>
      compose ++ (" exec -T postgres sh -c 'pg_dump -U \"$POSTGRES_USER\" \"$POSTGRES_DB\"' ".toList
        ++ ("| gzip -c > ".toList ++ preRestorePath target id))
  | .saveDump => s3 config "cp" (preRestorePath target id) "\"$recovery/database.sql.gz\"".toList
  | .saveMedia => s3 config "sync" (quote (mediaBucket config)) "\"$recovery/media/\"".toList
  | .stop => compose ++ (" stop ".toList ++ writerArgs config)
  | .dropdb =>
      compose ++ (" exec -T postgres sh -c 'dropdb -U \"$POSTGRES_USER\" --if-exists " ++
        "\"$POSTGRES_DB\" && createdb -U \"$POSTGRES_USER\" \"$POSTGRES_DB\"'").toList
  | .psql =>
      "gzip -dc /tmp/djangoops-restore-db.sql.gz | ".toList ++ (compose ++
        (" exec -T postgres sh -c 'psql -v ON_ERROR_STOP=1 -U \"$POSTGRES_USER\" " ++
          "\"$POSTGRES_DB\"'").toList)
  | .syncMedia =>
      s3 config "sync --delete" (quote (bucketPath config id ++ "/media/".toList))
        (quote (mediaBucket config))
  | .up => compose ++ (" up -d ".toList ++ writerArgs config)

end Text

/-- `validate_backup_id` -/
def validateBackupId (value : String) : Except ConfigError String :=
  accept (isBackupId value.toList) "backup identifier must match bYYYYMMDDTHHMMSSZ" value

/-- The command of `restore_backup` -/
def restoreCommand (config : DjangoOpsConfig) (target : DeploymentTarget)
    (backupId composeFile : String) : Except ConfigError (List Char) := do
  let selected <- validateBackupId backupId
  let validated <- validateComposeFile composeFile
  let compose <- composePrefix config validated
  .ok ("; ".toList.intercalate ("set -eu".toList :: "umask 077".toList ::
    (script config).map (commandText config target selected.toList compose)))

/-! ## What the commands do -/

variable {Content Stream Archive Object : Type u}

/-- What the script reads and writes: the database and the media bucket, the
objects of the selected backup and those below `$recovery`, and the files
`djangoops-restore-meta`, `djangoops-restore-db.sql.gz`,
`djangoops-restore-media-ready` and the local pre-restore dump. -/
structure World (Content Archive Object : Type u) where
  database : Content
  media : Media Object
  writing : Bool
  backup : Objects Archive Object
  recovery : Objects Archive Object
  metadata : Option (List Char)
  archive : Option Archive
  mediaReady : Bool
  preRestore : Option Archive

/-- What the writers have made of the database and of the media. -/
structure Commit (Content Object : Type u) where
  database : Content
  media : Media Object

/-- A command that stores something, when there is something to store. -/
def store {Value : Type v} (value : Option Value) (into : Value -> World Content Archive Object)
    (world : World Content Archive Object) : World Content Archive Object × Bool :=
  match value with
  | none => (world, false)
  | some value => (into value, true)

/-- A command that does not fail by itself.  `broken` is the output of the first
command of its pipeline, if that one has failed. -/
def perform (tools : Tools Content Stream Archive) (config : DjangoOpsConfig) (id : List Char)
    (broken : Option Stream) (world : World Content Archive Object) :
    Command -> World Content Archive Object × Bool
  | .look _ => (world, true)
  | .copyMetadata =>
      store world.backup.metadata (fun text => { world with metadata := some text }) world
  | .grep line => (world, grepFx (line.text config id) (world.metadata.getD []))
  | .copyDatabase =>
      store world.backup.database (fun archive => { world with archive := some archive }) world
  | .testDatabase => (world, (world.archive.bind tools.gunzip).isSome)
  | .copyMediaReady =>
      if world.backup.mediaReady then ({ world with mediaReady := true }, true) else (world, false)
  | .dump =>
      let output := broken.getD (tools.pgDump world.database)
      ({ world with preRestore := some (tools.gzip output) }, true)
  | .saveDump =>
      store world.preRestore
        (fun archive => { world with recovery := { world.recovery with database := some archive } })
        world
  | .saveMedia =>
      let media := world.media.sync world.recovery.media
      ({ world with recovery := { world.recovery with media, synced := true } }, true)
  | .stop => ({ world with writing := false }, true)
  | .dropdb => ({ world with database := tools.created }, true)
  | .psql =>
      let output := broken.or (world.archive.bind tools.gunzip)
      store (output.bind tools.psql) (fun content => { world with database := content }) world
  | .syncMedia => ({ world with media := world.backup.media }, true)
  | .up => ({ world with writing := true }, true)

/-- Behind a command that fails anything may be left. -/
def execute (tools : Tools Content Stream Archive) (config : DjangoOpsConfig) (id : List Char)
    (command : Command) (outcome : Outcome Stream (World Content Archive Object))
    (world : World Content Archive Object) : World Content Archive Object × Bool :=
  outcome.run (fun broken => perform tools config id broken world command) fun left => left

/-- The writers commit as long as they run. -/
def commit (change : Commit Content Object) (world : World Content Archive Object) :
    Option (World Content Archive Object) :=
  if world.writing then some { world with database := change.database, media := change.media }
  else none

/-- The script of `restore_backup`, and the writers of the application. -/
def setting (tools : Tools Content Stream Archive) (config : DjangoOpsConfig) (id : List Char) :
    Setting Unit (World Content Archive Object) Command
      (Outcome Stream (World Content Archive Object)) (Commit Content Object) where
  script := fun _ => script config
  execute := fun _ => execute tools config id
  disturb := commit

abbrev State (Content Archive Object : Type u) :=
  Errexit.State Unit Command (World Content Archive Object)

abbrev Action (Content Stream Archive Object : Type u) :=
  Errexit.Action Unit (Outcome Stream (World Content Archive Object)) (Commit Content Object)

/-- From any world. -/
def machine (tools : Tools Content Stream Archive) (config : DjangoOpsConfig) (id : List Char) :
    Transition.Machine (State Content Archive Object) (Action Content Stream Archive Object) :=
  (setting tools config id).machine fun _ => True

/-- What a restore needs before it drops the database: the selected metadata and the
archive have been copied and verified, the media are complete, and a dump of the
database as it is now is stored on the host and in the bucket. -/
structure Saved (tools : Tools Content Stream Archive) (config : DjangoOpsConfig) (id : List Char)
    (world : World Content Archive Object) : Prop where
  metadata : world.metadata = world.backup.metadata ∧ forall line : MetadataLine,
    grepFx (line.text config id) (world.backup.metadata.getD []) = true
  archive : world.archive = world.backup.database ∧
    (world.backup.database.bind tools.gunzip).isSome = true
  mediaReady : world.backup.mediaReady = true
  stored : world.preRestore = some (tools.gzip (tools.pgDump world.database))
  recovered : world.recovery.database = some (tools.gzip (tools.pgDump world.database))

/-- The `pg_dump` of the pre-restore dump succeeds or has written everything, and
no writer changes the database between this dump and its drop. -/
def DumpsExactly (tools : Tools Content Stream Archive) (state : State Content Archive Object) :
    Action Content Stream Archive Object -> Prop
  | .run _ (.breaks output) =>
      (state.rest ()).head? = some .dump -> output = tools.pgDump state.world.database
  | .run _ _ => True
  | .disturb change =>
      .dump ∈ state.rest () ∨ .dropdb ∉ state.rest () ∨ change.database = state.world.database

instance [DecidableEq Content] [DecidableEq Stream] (tools : Tools Content Stream Archive)
    (state : State Content Archive Object) (action : Action Content Stream Archive Object) :
    Decidable (DumpsExactly tools state action) := by
  unfold DumpsExactly
  split <;> infer_instance

/-! ## What the commands leave alone -/

/-- What a command changes of what matters for the drop. -/
structure Leaves (command : Command) (before after : World Content Archive Object) : Prop where
  backup : after.backup = before.backup
  metadata : .copyMetadata ≠ command -> after.metadata = before.metadata
  archive : .copyDatabase ≠ command -> after.archive = before.archive
  preRestore : .dump ≠ command -> after.preRestore = before.preRestore
  recovery : .saveDump ≠ command -> after.recovery.database = before.recovery.database
  database : .dropdb ≠ command -> .psql ≠ command -> after.database = before.database

theorem Leaves.refl (command : Command) (world : World Content Archive Object) :
    Leaves command world world :=
  ⟨rfl, fun _ => rfl, fun _ => rfl, fun _ => rfl, fun _ => rfl, fun _ _ => rfl⟩

variable {tools : Tools Content Stream Archive} {config : DjangoOpsConfig} {id : List Char}

theorem store_passed {Value : Type v} {value : Option Value}
    {into : Value -> World Content Archive Object} {world after : World Content Archive Object}
    (passed : store value into world = (after, true)) :
    Exists fun stored : Value => value = some stored ∧ after = into stored := by
  cases value with
  | none => cases (Prod.mk.inj passed).2
  | some stored => exact ⟨stored, rfl, (Prod.mk.inj passed).1.symm⟩

theorem store_leaves {Value : Type v} {value : Option Value}
    {into : Value -> World Content Archive Object} {command : Command}
    {world : World Content Archive Object}
    (leaves : forall value, Leaves command world (into value)) :
    Leaves command world (store value into world).1 := by
  cases value with
  | none => exact .refl command world
  | some value => exact leaves value

theorem perform_leaves (command : Command) (broken : Option Stream)
    (world : World Content Archive Object) :
    Leaves command world (perform tools config id broken world command).1 := by
  cases command with
  | look | grep | testDatabase => exact .refl _ world
  | copyMetadata =>
      apply store_leaves
      intro text
      exact { Leaves.refl _ world with metadata := fun other => absurd rfl other }
  | copyDatabase =>
      apply store_leaves
      intro archive
      exact { Leaves.refl _ world with archive := fun other => absurd rfl other }
  | copyMediaReady =>
      unfold perform
      dsimp only
      split
      · exact { Leaves.refl _ world with }
      · exact .refl _ world
  | dump => exact { Leaves.refl _ world with preRestore := fun other => absurd rfl other }
  | saveDump =>
      apply store_leaves
      intro archive
      exact { Leaves.refl _ world with recovery := fun other => absurd rfl other }
  | saveMedia | stop | syncMedia | up => exact { Leaves.refl _ world with }
  | dropdb => exact { Leaves.refl _ world with database := fun other => absurd rfl other }
  | psql =>
      apply store_leaves
      intro content
      exact { Leaves.refl _ world with database := fun _ other => absurd rfl other }

theorem leaves_of_perform {command : Command} {broken : Option Stream}
    {before after : World Content Archive Object} {passed : Bool}
    (performed : perform tools config id broken before command = (after, passed)) :
    Leaves command before after := by
  have leaves := @perform_leaves _ _ _ _ tools config id command broken before
  rw [performed] at leaves
  exact leaves

theorem execute_passed {command : Command} {outcome : Outcome Stream (World Content Archive Object)}
    {before after : World Content Archive Object}
    (passed : execute tools config id command outcome before = (after, true)) :
    Exists fun broken : Option Stream =>
      perform tools config id broken before command = (after, true) ∧
        forall output, broken = some output -> outcome = .breaks output :=
  Outcome.run_passed passed

theorem commit_eq_some {change : Commit Content Object}
    {before after : World Content Archive Object}
    (committed : commit change before = some after) :
    after = { before with database := change.database, media := change.media } := by
  unfold commit at committed
  split at committed
  · exact (Option.some.inj committed).symm
  · cases committed

/-! ## The order of the commands -/

/-- What is behind the script when it has come to the second command. -/
def order : List (Command × Command) :=
  List.append
    [(.copyMetadata, .grep .backupId), (.copyMetadata, .grep .project),
      (.copyMetadata, .grep .database), (.copyMetadata, .grep .media),
      (.copyDatabase, .testDatabase), (.dump, .dump), (.dump, .saveDump), (.dropdb, .psql),
      (.dropdb, .dropdb)]
    (List.map (fun command => (command, .dropdb))
      [.copyMetadata, .grep .backupId, .grep .project, .grep .database, .grep .media, .copyDatabase,
        .testDatabase, .copyMediaReady, .dump, .saveDump])

theorem script_order (config : DjangoOpsConfig) : forall pair, pair ∈ order ->
    pair.1 ∈ script config ∧ Precedes (script config) pair.1 pair.2 := by
  unfold script preflight writerServices
  generalize config.services.celery = celery
  generalize config.services.celeryBeat = celeryBeat
  revert celery celeryBeat
  decide +kernel

/-! ## What holds behind the commands -/

/-- The states of the runs in which the dump is exact. -/
def Exactly (tools : Tools Content Stream Archive) (config : DjangoOpsConfig) (id : List Char)
    (state : State Content Archive Object) : Prop :=
  (machine tools config id).ReachableUnder (DumpsExactly tools) state

theorem Exactly.not_mem {state : State Content Archive Object}
    (reached : Exactly tools config id state) {first second : Command} {later : List Command}
    (listed : (first, second) ∈ order) (come : state.rest () = second :: later) :
    first ∉ later :=
  Errexit.Setting.not_mem_of_precedes (script_order config _ listed).2 reached come

theorem Exactly.behind {state : State Content Archive Object}
    (reached : Exactly tools config id state) {first second : Command} {later : List Command}
    (listed : (first, second) ∈ order) (different : first ≠ second)
    (come : state.rest () = second :: later) : state.rest () ≠ [] ∧ first ∉ state.rest () := by
  rw [come]
  exact ⟨List.cons_ne_nil _ _,
    List.not_mem_cons_of_ne_of_not_mem different (Exactly.not_mem reached listed come)⟩

/-- A step that leaves the script where it is is a commit. -/
theorem step_waits {before after : State Content Archive Object}
    {action : Action Content Stream Archive Object}
    (stepped : (setting tools config id).step before action = some after)
    (same : after.rest () = before.rest ()) :
    Exists fun change : Commit Content Object => action = .disturb change ∧
      after.world =
        { before.world with database := change.database, media := change.media } := by
  rcases Errexit.Setting.step_cases stepped with
    ⟨⟨⟩, _, _, _, rfl, _, _⟩ | ⟨change, world, rfl, disturbed, rfl⟩
  · exact absurd rfl (Errexit.Setting.other_of_waits stepped same)
  · exact ⟨change, rfl, commit_eq_some disturbed⟩

/-- The rule of the commands behind, for a fact that no commit changes. -/
theorem holds_behind {command : Command} {fact : World Content Archive Object -> Prop}
    (listed : (command, .dropdb) ∈ order)
    (established : forall (before : State Content Archive Object) (later : List Command)
        (broken : Option Stream) (after : World Content Archive Object),
      Exactly tools config id before -> before.rest () = command :: later ->
        perform tools config id broken before.world command = (after, true) -> fact after)
    (passing : forall (other : Command) (before after : World Content Archive Object),
      command ≠ other -> Leaves other before after -> fact before -> fact after)
    (committed : forall (world : World Content Archive Object) (change : Commit Content Object),
      fact world -> fact { world with database := change.database, media := change.media })
    {state : State Content Archive Object} (reached : Exactly tools config id state)
    (inside : state.rest () ≠ []) (passed : command ∉ state.rest ()) : fact state.world := by
  refine @Errexit.Setting.behind _ _ _ _ _ _ (setting tools config id) _ _ () command
    (fun state => fact state.world) (script_order config _ listed).1 ?_ ?_ ?_ state reached inside
    passed
  · intro before outcome after earlier _ front executed
    rcases execute_passed executed with ⟨broken, performed, _⟩
    exact established before _ broken after.world earlier front performed
  · intro before outcome other after _ known _ different _ executed
    rcases execute_passed executed with ⟨broken, performed, _⟩
    exact passing other before.world after.world different (leaves_of_perform performed) known
  · intro before action after _ known _ stepped same
    rcases step_waits stepped same with ⟨change, _, changed⟩
    rw [changed]
    exact committed before.world change known

/-- The rule of the commands behind, for a fact on the selected backup, which the
script only reads. -/
theorem backup_behind {command : Command} {fact : Objects Archive Object -> Prop}
    (listed : (command, .dropdb) ∈ order)
    (established : forall (before : State Content Archive Object) (later : List Command)
        (broken : Option Stream) (after : World Content Archive Object),
      Exactly tools config id before -> before.rest () = command :: later ->
        perform tools config id broken before.world command = (after, true) ->
          fact before.world.backup)
    {state : State Content Archive Object} (reached : Exactly tools config id state)
    (inside : state.rest () ≠ []) (passed : command ∉ state.rest ()) : fact state.world.backup := by
  refine @holds_behind _ _ _ _ tools config id command (fun world => fact world.backup) listed
    ?_ ?_ ?_ state reached inside passed
  · intro before later broken after earlier front performed
    rw [(leaves_of_perform performed).backup]
    exact established before later broken after earlier front performed
  · intro other before after _ leaves known
    rw [leaves.backup]
    exact known
  · intro world change known
    exact known

/-- The rule of the commands behind, for a copy of the dump: it is exact until
the database is dropped. -/
theorem copy_behind {command : Command} {copy : World Content Archive Object -> Option Archive}
    (listed : (command, .dropdb) ∈ order)
    (established : forall (before after : State Content Archive Object)
        (outcome : Outcome Stream (World Content Archive Object)),
      Exactly tools config id before -> DumpsExactly tools before (.run () outcome) ->
        before.rest () = command :: after.rest () -> .dropdb ∈ after.rest () ->
          execute tools config id command outcome before.world = (after.world, true) ->
            .dump ∉ after.rest () ∧
              copy after.world = some (tools.gzip (tools.pgDump after.world.database)))
    (frame : forall (other : Command) (before after : World Content Archive Object),
      command ≠ other -> .dump ≠ other -> Leaves other before after -> copy after = copy before)
    (committed : forall (world : World Content Archive Object) (change : Commit Content Object),
      copy { world with database := change.database, media := change.media } = copy world)
    {state : State Content Archive Object} (reached : Exactly tools config id state)
    (ahead : .dropdb ∈ state.rest ()) (passed : command ∉ state.rest ()) :
    copy state.world = some (tools.gzip (tools.pgDump state.world.database)) := by
  have saved : .dropdb ∈ state.rest () -> .dump ∉ state.rest () ∧
      copy state.world = some (tools.gzip (tools.pgDump state.world.database)) := by
    refine @Errexit.Setting.behind _ _ _ _ _ _ (setting tools config id) _ _ () command
      (fun state => .dropdb ∈ state.rest () -> .dump ∉ state.rest () ∧
        copy state.world = some (tools.gzip (tools.pgDump state.world.database)))
      (script_order config _ listed).1 ?_ ?_ ?_ state reached (List.ne_nil_of_mem ahead) passed
    · intro before outcome after earlier allowed front executed ahead
      exact established before after outcome earlier allowed front ahead executed
    · intro before outcome other after earlier known _ different front executed ahead
      rcases execute_passed executed with ⟨broken, performed, _⟩
      have leaves := leaves_of_perform performed
      have exact := known (front ▸ List.mem_cons_of_mem other ahead)
      rw [front, List.mem_cons, not_or] at exact
      have kept : .dropdb ≠ other := by
        rintro rfl
        exact Exactly.not_mem earlier (by decide) front ahead
      have unread : .psql ≠ other := by
        rintro rfl
        exact Exactly.not_mem earlier (by decide) front ahead
      refine ⟨exact.1.2, ?_⟩
      rw [frame other _ _ different exact.1.1 leaves, leaves.database kept unread]
      exact exact.2
    · intro before action after earlier known allowed stepped same ahead
      rw [same] at ahead
      rcases step_waits stepped same with ⟨change, rfl, changed⟩
      rcases allowed with undone | done | idle
      · exact absurd undone (known ahead).1
      · exact absurd ahead done
      · rw [same, changed, committed, idle]
        exact known ahead
  exact (saved ahead).2

section Reached

variable {state : State Content Archive Object} (reached : Exactly tools config id state)

include reached

theorem metadata_behind (inside : state.rest () ≠ []) (passed : .copyMetadata ∉ state.rest ()) :
    state.world.metadata = state.world.backup.metadata := by
  refine @holds_behind _ _ _ _ tools config id .copyMetadata
    (fun world => world.metadata = world.backup.metadata) (by decide) ?_ ?_ ?_ state reached inside
    passed
  · intro before later broken after _ _ performed
    rcases store_passed performed with ⟨text, there, rfl⟩
    exact there.symm
  · intro other before after different leaves known
    rw [leaves.metadata different, leaves.backup, known]
  · intro world change known
    exact known

theorem archive_behind (inside : state.rest () ≠ []) (passed : .copyDatabase ∉ state.rest ()) :
    state.world.archive = state.world.backup.database := by
  refine @holds_behind _ _ _ _ tools config id .copyDatabase
    (fun world => world.archive = world.backup.database) (by decide) ?_ ?_ ?_ state reached inside
    passed
  · intro before later broken after _ _ performed
    rcases store_passed performed with ⟨archive, there, rfl⟩
    exact there.symm
  · intro other before after different leaves known
    rw [leaves.archive different, leaves.backup, known]
  · intro world change known
    exact known

theorem grep_behind {line : MetadataLine} (inside : state.rest () ≠ [])
    (passed : .grep line ∉ state.rest ()) :
    grepFx (line.text config id) (state.world.backup.metadata.getD []) = true := by
  have listed : (.copyMetadata, .grep line) ∈ order ∧ (.grep line, .dropdb) ∈ order := by
    cases line with
    | backupId | project | database | media => decide
  refine @backup_behind _ _ _ _ tools config id (.grep line)
    (fun backup => grepFx (line.text config id) (backup.metadata.getD []) = true) listed.2 ?_ state
    reached inside passed
  intro before later broken after earlier front performed
  have past := Exactly.behind earlier listed.1 (fun same => Command.noConfusion same) front
  rw [← metadata_behind earlier past.1 past.2]
  exact (Prod.mk.inj performed).2

theorem gunzip_behind (inside : state.rest () ≠ []) (passed : .testDatabase ∉ state.rest ()) :
    (state.world.backup.database.bind tools.gunzip).isSome = true := by
  refine @backup_behind _ _ _ _ tools config id .testDatabase
    (fun backup => (backup.database.bind tools.gunzip).isSome = true) (by decide) ?_ state reached
    inside passed
  intro before later broken after earlier front performed
  have past : before.rest () ≠ [] ∧ .copyDatabase ∉ before.rest () :=
    Exactly.behind earlier (by decide) (by decide) front
  rw [← archive_behind earlier past.1 past.2]
  exact (Prod.mk.inj performed).2

theorem mediaReady_behind (inside : state.rest () ≠ []) (passed : .copyMediaReady ∉ state.rest ()) :
    state.world.backup.mediaReady = true := by
  refine @backup_behind _ _ _ _ tools config id .copyMediaReady
    (fun backup => backup.mediaReady = true) (by decide) ?_ state reached inside passed
  intro before later broken after _ _ performed
  rw [perform] at performed
  split at performed
  · assumption
  · cases (Prod.mk.inj performed).2

/-- The local copy of the dump. -/
theorem dump_behind (ahead : .dropdb ∈ state.rest ()) (passed : .dump ∉ state.rest ()) :
    state.world.preRestore = some (tools.gzip (tools.pgDump state.world.database)) := by
  refine @copy_behind _ _ _ _ tools config id .dump (fun world => world.preRestore)
    (by decide) ?_ ?_ (fun _ _ => rfl) state reached ahead passed
  · intro before after outcome earlier allowed front _ executed
    refine ⟨Exactly.not_mem earlier (by decide) front, ?_⟩
    rcases execute_passed executed with ⟨broken, performed, failed⟩
    rw [← (Prod.mk.inj performed).1]
    cases broken with
    | none => rfl
    | some output =>
        rw [failed output rfl] at allowed
        have whole : output = tools.pgDump before.world.database := by
          apply allowed
          rw [front]
          rfl
        rw [whole]
        rfl
  · intro other before after different _ leaves
    exact leaves.preRestore different

/-- The copy below `$recovery`. -/
theorem saveDump_behind (ahead : .dropdb ∈ state.rest ()) (passed : .saveDump ∉ state.rest ()) :
    state.world.recovery.database = some (tools.gzip (tools.pgDump state.world.database)) := by
  refine @copy_behind _ _ _ _ tools config id .saveDump (fun world => world.recovery.database)
    (by decide) ?_ ?_ (fun _ _ => rfl) state reached ahead passed
  · intro before after outcome earlier allowed front ahead executed
    refine ⟨Exactly.not_mem earlier (by decide) front, ?_⟩
    rcases execute_passed executed with ⟨broken, performed, _⟩
    have stored := dump_behind earlier (front ▸ List.mem_cons_of_mem _ ahead)
      (Exactly.behind earlier (by decide) (by decide) front).2
    rcases store_passed performed with ⟨archive, there, moved⟩
    rw [moved]
    exact there.symm.trans stored
  · intro other before after different _ leaves
    exact leaves.recovery different

end Reached

/-- When the script has come to the drop of the database, the selected backup has
been verified and the database has been saved.  This holds in every run whose
dumps are exact: the dump goes through a pipeline that ends with the status of
`gzip`, and the writers are stopped behind it only. -/
theorem restore_saved {state : State Content Archive Object} {later : List Command}
    (reached : (machine tools config id).ReachableUnder (DumpsExactly tools) state)
    (come : state.rest () = .dropdb :: later) : Saved tools config id state.world := by
  have inside : state.rest () ≠ [] := by
    rw [come]
    exact List.cons_ne_nil _ _
  have ahead : .dropdb ∈ state.rest () := by
    rw [come]
    exact List.mem_cons_self
  have past {command : Command} (listed : (command, .dropdb) ∈ order)
      (other : command ≠ .dropdb) : command ∉ state.rest () :=
    (Exactly.behind reached listed other come).2
  constructor
  · refine ⟨metadata_behind reached inside (past (by decide) (by decide)), fun line => ?_⟩
    apply grep_behind reached inside
    cases line with
    | backupId | project | database | media => exact past (by decide) (by decide)
  · exact ⟨archive_behind reached inside (past (by decide) (by decide)),
      gunzip_behind reached inside (past (by decide) (by decide))⟩
  · exact mediaReady_behind reached inside (past (by decide) (by decide))
  · exact dump_behind reached ahead (past (by decide) (by decide))
  · exact saveDump_behind reached ahead (past (by decide) (by decide))

/-! ## Restores of a table -/

open Backup (metadataText tableTools)

/-- The application of the host, and a complete backup. -/
def shopWorld : World (List Nat) (Option (List (Option Nat))) Unit where
  database := [1, 2]
  media := fun _ => none
  writing := true
  backup :=
    { database := some (some [some 1, none]), synced := true, mediaReady := true
      metadata := some (metadataText (shopConfig "shop") backupId) }
  recovery := {}
  metadata := none
  archive := none
  mediaReady := false
  preRestore := none

abbrev ShopAction := Action (List Nat) (List (Option Nat)) (Option (List (Option Nat))) Unit

def shopMachine := @machine _ _ _ Unit tableTools (shopConfig "shop") backupId

/-- The script up to the drop of the database. -/
def wholeRun : List ShopAction := List.replicate 31 (.run () .passes)

/-- The `pg_dump` of the pre-restore dump fails behind one row; `gzip` hides it. -/
def truncatedRun : List ShopAction :=
  List.append (List.replicate 27 (.run () .passes)) (.run () (.breaks [some 1]) ::
    List.replicate 3 (.run () .passes))

/-- A writer commits between the dump and `docker compose stop`. -/
def lateRun : List ShopAction :=
  List.append (List.replicate 28 (.run () .passes)) (.disturb ⟨[1, 2, 3], fun _ => none⟩ ::
    List.replicate 3 (.run () .passes))

def shopStart : State (List Nat) (Option (List (Option Nat))) Unit :=
  ⟨fun _ => script (shopConfig "shop"), shopWorld⟩

/-- The script comes to the drop of a database, and the local dump is another. -/
def losesDatabase (state : State (List Nat) (Option (List (Option Nat))) Unit) : Bool :=
  decide ((state.rest ()).head? = some .dropdb) &&
    decide (state.world.preRestore ≠
      some (tableTools.gzip (tableTools.pgDump state.world.database)))

/-- The run leads to the drop of a database that has not been saved. -/
def DropsUnsaved (actions : List ShopAction) : Prop :=
  Exists fun state => shopMachine.replay (fun _ _ => True) shopStart actions = some state ∧
    shopMachine.Reachable state ∧ (state.rest ()).head? = some .dropdb ∧
      ¬ Saved tableTools (shopConfig "shop") backupId state.world

theorem dropsUnsaved_of_test {actions : List ShopAction} (lost :
    (shopMachine.replay (fun _ _ => True) shopStart actions).map losesDatabase = some true) :
    DropsUnsaved actions := by
  rcases Option.map_eq_some_iff.mp lost with ⟨state, replayed, loses⟩
  unfold losesDatabase at loses
  rw [Bool.and_eq_true, decide_eq_true_eq, decide_eq_true_eq] at loses
  refine ⟨state, replayed, ?_, loses.1, fun saved => loses.2 saved.stored⟩
  exact Transition.Machine.reachableUnder_of_replay actions (.start ⟨rfl, trivial⟩) replayed

theorem restore_loses : DropsUnsaved truncatedRun ∧ DropsUnsaved lateRun :=
  ⟨dropsUnsaved_of_test (by decide +kernel), dropsUnsaved_of_test (by decide +kernel)⟩

/-- A run in which the dump is exact comes to the drop, with everything saved. -/
theorem restore_saved_whole : Exists fun state =>
    shopMachine.ReachableUnder (DumpsExactly tableTools) state ∧
      state.rest () = [.dropdb, .psql, .syncMedia, .up, .look .deployCheck] ∧
        Saved tableTools (shopConfig "shop") backupId state.world := by
  rcases Transition.Machine.exists_reachableUnder_of_replay shopMachine
    (DumpsExactly tableTools) wholeRun shopStart ⟨rfl, trivial⟩
    (fun state => decide (state.rest () = [.dropdb, .psql, .syncMedia, .up, .look .deployCheck]))
    (by decide +kernel) with ⟨state, reached, come⟩
  exact ⟨state, reached, of_decide_eq_true come, restore_saved reached (of_decide_eq_true come)⟩

end Restore
end Cli
end DjangoOps
