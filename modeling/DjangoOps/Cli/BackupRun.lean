import DjangoOps.Cli.RestoreScript

namespace DjangoOps
namespace Cli
namespace BackupRun

open Backup (Media MetadataLine Objects Tools metadataText)
open Errexit (Outcome Precedes Setting)
open ShellWord (quote)
open TextLines

universe u v

/-!
# The runs of the backup runner

Any number of runs of the generated script, each with an id and a directory of
its own, put objects into one bucket, while the application goes on writing.  The
metadata of an id are put there last.
-/

/-- The lines of the script that leave all data as they are. -/
inductive Setup
  | backupId
  | checkId
  | docker
  | aws
  | current
  | startExport
  | environment
  | stopExport
  | password
  | accessKey
  | secretKey
  | work
  | trap
  | service
  | dest
  deriving DecidableEq

/-- The commands of the script behind its checks, in their order.  The metadata are the
last object that is copied. -/
inductive Command
  | setup (setup : Setup)
  | dump
  | writeMetadata
  | copyDatabase
  | syncMedia
  | writeMediaReady
  | copyMediaReady
  | copyMetadata
  deriving DecidableEq

/-- The commands of `_backup_script`, behind the options of the shell. -/
def script : List Command :=
  List.append
    (List.map .setup
      [.backupId, .checkId, .docker, .aws, .current, .startExport, .environment, .stopExport,
        .password, .accessKey, .secretKey, .work, .trap, .service])
    [.dump, .writeMetadata, .setup .dest, .copyDatabase, .syncMedia, .writeMediaReady,
      .copyMediaReady, .copyMetadata]

/-! ### Its text -/

section Text

variable (config : DjangoOpsConfig) (target : DeploymentTarget) (compose : List Char)

def setupLines : Setup -> List (List Char)
  | .backupId => ["backup_id=\"$\x7b1:-b$(date -u +%Y%m%dT%H%M%SZ)\x7d\"".toList]
  | .checkId =>
      ["printf '%s".toList,
        "' \"$backup_id\" | grep -Eq '^b[0-9]\x7b8\x7dT[0-9]\x7b6\x7dZ$' || exit 2".toList]
  | .docker => ["command -v docker >/dev/null".toList]
  | .aws => ["command -v aws >/dev/null".toList]
  | .current => ["cd ".toList ++ quote (target.remoteBase ++ "/current").toList]
  | .startExport => ["set -a".toList]
  | .environment => [". ".toList ++ (quote target.remoteBase.toList ++ "/shared/.env".toList)]
  | .stopExport => ["set +a".toList]
  | .password => ["test -n \"$\x7bPOSTGRES_PASSWORD:-\x7d\"".toList]
  | .accessKey => ["test -n \"$\x7bAWS_ACCESS_KEY_ID:-\x7d\"".toList]
  | .secretKey => ["test -n \"$\x7bAWS_SECRET_ACCESS_KEY:-\x7d\"".toList]
  | .work => ["work=$(mktemp -d)".toList]
  | .trap => ["trap 'rm -rf \"$work\"' EXIT".toList]
  | .service => [compose ++ " config --services | grep -Fx postgres >/dev/null".toList]
  | .dest =>
      ["dest=\"s3://".toList ++ (config.backup.bucket.toList ++ '/' ::
        (objectPrefix config ++ "/$backup_id\"".toList))]

def commandLines : Command -> List (List Char)
  | .setup setup => setupLines config target compose setup
  | .dump =>
      [compose ++ (" exec -T postgres sh -c   'pg_dump -U \"$POSTGRES_USER\" \"$POSTGRES_DB\"'" ++
        " | gzip -c > \"$work/database.sql.gz\"").toList]
  | .writeMetadata =>
      ["printf 'backup_id=%s".toList, "project=%s".toList, "database=database.sql.gz".toList,
        "media=media/".toList,
        "'   \"$backup_id\" ".toList ++ (quote config.project.name.toList ++
          " > \"$work/metadata.txt\"".toList)]
  | .copyDatabase =>
      [awsEnvPrefix config ++
        " aws s3 cp \"$work/database.sql.gz\" \"$dest/database.sql.gz\" >/dev/null".toList]
  | .syncMedia =>
      [awsEnvPrefix config ++ (" aws s3 sync \"s3://".toList ++
        (config.storage.mediaBucket.toList ++ "/\" \"$dest/media/\" >/dev/null".toList))]
  | .writeMediaReady => [": > \"$work/media.ready\"".toList]
  | .copyMediaReady =>
      [awsEnvPrefix config ++
        " aws s3 cp \"$work/media.ready\" \"$dest/media.ready\" >/dev/null".toList]
  | .copyMetadata =>
      [awsEnvPrefix config ++
        " aws s3 cp \"$work/metadata.txt\" \"$dest/metadata.txt\" >/dev/null".toList]

/-- These are the commands of the installed script. -/
theorem backupScriptLines_eq :
    backupScriptLines config target compose =
      "#!/bin/sh".toList :: "set -eu".toList :: "umask 077".toList ::
        script.flatMap (commandLines config target compose) := rfl

end Text

/-! ## What the commands do -/

variable {Run : Type v} [DecidableEq Run] {Content Stream Archive Object : Type u}

/-- The files below `$work` -/
structure Work (Archive : Type u) where
  database : Option Archive := none
  metadata : Option (List Char) := none
  mediaReady : Bool := false

/-- The database and the media bucket, with what the database has held, the
directories of the runs, and the bucket with the objects of every id. -/
structure World (Run : Type v) (Content Archive Object : Type u) where
  database : Content
  held : List Content
  media : Media Object
  work : Run -> Work Archive
  bucket : List Char -> Objects Archive Object

/-- What a command that fails leaves: anything in the directory of its run, any
part of a copy of the media, and possibly the object that it should put. -/
structure Leftover (Archive Object : Type u) where
  work : Work Archive
  media : Media Object
  put : Bool

/-- What the application has made of the database and of the media. -/
structure Commit (Content Object : Type u) where
  database : Content
  media : Media Object

namespace World

variable (world : World Run Content Archive Object)

def setWork (run : Run) (work : Work Archive) : World Run Content Archive Object :=
  { world with work := Function.update world.work run work }

def setObjects (id : List Char) (objects : Objects Archive Object) :
    World Run Content Archive Object :=
  { world with bucket := Function.update world.bucket id objects }

def commit (change : Commit Content Object) : World Run Content Archive Object :=
  { world with
    database := change.database
    held := change.database :: world.held
    media := change.media }

@[simp] theorem setWork_work (run : Run) (work : Work Archive) :
    (world.setWork run work).work run = work := Function.update_self _ _ _

omit [DecidableEq Run] in
@[simp] theorem setObjects_bucket (id : List Char) (objects : Objects Archive Object) :
    (world.setObjects id objects).bucket id = objects := Function.update_self _ _ _

end World

/-- `aws s3 cp` of a file below `$work` -/
def upload (work : Work Archive) (objects : Objects Archive Object) :
    Command -> Option (Objects Archive Object)
  | .copyDatabase =>
      work.database.map fun archive => { objects with database := some archive }
  | .copyMediaReady => if work.mediaReady then some { objects with mediaReady := true } else none
  | .copyMetadata => work.metadata.map fun text => { objects with metadata := some text }
  | _ => none

def put (ids : Run -> List Char) (run : Run) (world : World Run Content Archive Object)
    (command : Command) : World Run Content Archive Object × Bool :=
  match upload (world.work run) (world.bucket (ids run)) command with
  | none => (world, false)
  | some objects => (world.setObjects (ids run) objects, true)

/-- A command that does not fail by itself.  `broken` is the output of the first
command of its pipeline, if that one has failed. -/
def perform (tools : Tools Content Stream Archive) (config : DjangoOpsConfig)
    (ids : Run -> List Char) (run : Run) (broken : Option Stream)
    (world : World Run Content Archive Object) :
    Command -> World Run Content Archive Object × Bool
  | .setup .checkId => (world, (TextLines.lines (ids run ++ ['\n'])).any isBackupId)
  | .setup _ => (world, true)
  | .dump =>
      let output := broken.getD (tools.pgDump world.database)
      (world.setWork run { world.work run with database := some (tools.gzip output) }, true)
  | .writeMetadata =>
      let text := metadataText config (ids run)
      (world.setWork run { world.work run with metadata := some text }, true)
  | .writeMediaReady => (world.setWork run { world.work run with mediaReady := true }, true)
  | .syncMedia =>
      let objects := world.bucket (ids run)
      let media := world.media.sync objects.media
      (world.setObjects (ids run) { objects with media, synced := true }, true)
  | command => put ids run world command

/-- What a command leaves that fails. -/
def spoil (ids : Run -> List Char) (run : Run) (left : Leftover Archive Object)
    (world : World Run Content Archive Object) : Command -> World Run Content Archive Object
  | .syncMedia => world.setObjects (ids run) { world.bucket (ids run) with media := left.media }
  | command => (if left.put then (put ids run world command).1 else world).setWork run left.work

def execute (tools : Tools Content Stream Archive) (config : DjangoOpsConfig)
    (ids : Run -> List Char) (run : Run) (command : Command)
    (outcome : Outcome Stream (Leftover Archive Object))
    (world : World Run Content Archive Object) : World Run Content Archive Object × Bool :=
  outcome.run (fun broken => perform tools config ids run broken world command) fun left =>
    spoil ids run left world command

/-- The runs, and the application. -/
def setting (tools : Tools Content Stream Archive) (config : DjangoOpsConfig)
    (ids : Run -> List Char) :
    Setting Run (World Run Content Archive Object) Command
      (Outcome Stream (Leftover Archive Object)) (Commit Content Object) where
  script := fun _ => script
  execute := execute tools config ids
  disturb := fun change world => some (world.commit change)

/-- How far every script has come, and what the database, the bucket and the working
directories hold. -/
abbrev State (Run : Type v) (Content Archive Object : Type u) :=
  Errexit.State Run Command (World Run Content Archive Object)

/-- A step of one of the scripts, with how its command ends, or a commit of a writer to
the database or the media files between two steps. -/
abbrev Action (Run : Type v) (Content Stream Archive Object : Type u) :=
  Errexit.Action Run (Outcome Stream (Leftover Archive Object)) (Commit Content Object)

/-- From a bucket without backups. -/
def machine (tools : Tools Content Stream Archive) (config : DjangoOpsConfig)
    (ids : Run -> List Char) :
    Transition.Machine (State Run Content Archive Object)
      (Action Run Content Stream Archive Object) :=
  (setting tools config ids).machine fun world =>
    world.held = [world.database] ∧ world.bucket = fun _ => {}

/-- The `pg_dump` of a run succeeds or has written everything. -/
def DumpsWhole (tools : Tools Content Stream Archive) (state : State Run Content Archive Object) :
    Action Run Content Stream Archive Object -> Prop
  | .run run (.breaks output) =>
      (state.rest run).head? = some .dump -> output = tools.pgDump state.world.database
  | _ => True

instance [DecidableEq Stream] (tools : Tools Content Stream Archive)
    (state : State Run Content Archive Object) (action : Action Run Content Stream Archive Object) :
    Decidable (DumpsWhole tools state action) := by
  unfold DumpsWhole
  split <;> infer_instance

/-! ## Backups -/

/-- The file is a whole dump of something that the database has held. -/
def Dumped (tools : Tools Content Stream Archive) (held : List Content) (file : Option Archive) :
    Prop :=
  Exists fun content : Content => content ∈ held ∧
    file = some (tools.gzip (tools.pgDump content))

/-- The backup has a whole dump, and a copy of the media that has been completed
and marked. -/
structure Complete (tools : Tools Content Stream Archive) (held : List Content)
    (objects : Objects Archive Object) : Prop where
  database : Dumped tools held objects.database
  synced : objects.synced = true
  mediaReady : objects.mediaReady = true

/-- The listing shows the metadata that the bucket has, and no others. -/
def Shows (config : DjangoOpsConfig) (bucket : List Char -> Objects Archive Object)
    (listing : List S3Object) : Prop :=
  forall id : List Char, (Exists fun object : S3Object => object ∈ listing ∧
    object.key = metadataKey config id) <-> (bucket id).metadata.isSome = true

/-- Every id that is read of a key of the listing has its own metadata there. -/
def ReadsOwn (config : DjangoOpsConfig) (listing : List S3Object) : Prop :=
  forall object : S3Object, object ∈ listing ->
    (objectPrefix config ++ ['/']).isPrefixOf object.key = true ->
      forall reading : List Char, reading ∈ readings object.key ->
        forall id : List Char, readId reading = some id ->
          Exists fun other : S3Object => other ∈ listing ∧ other.key = metadataKey config id

/-- `restore_backup` passes with these objects, if none of its commands fails by
itself, and leaves a database that has been held. -/
def Restorable (tools : Tools Content Stream Archive) (config : DjangoOpsConfig) (id : List Char)
    (held : List Content) (objects : Objects Archive Object) : Prop :=
  Exists fun content : Content => content ∈ held ∧
    forall world : Restore.World Content Archive Object, world.backup = objects ->
      Exists fun after : Restore.World Content Archive Object =>
        (Restore.setting tools config id).follow () .passes (Restore.script config) world =
            some after ∧
          after.database = content ∧ after.media = objects.media

/-! ## What a command changes -/

/-- What a command makes of the objects of its id. -/
inductive Change (work : Work Archive) (objects : Objects Archive Object) :
    Command -> Objects Archive Object -> Prop
  | kept (command : Command) : Change work objects command objects
  | database {archive : Archive} (written : work.database = some archive) :
      Change work objects .copyDatabase { objects with database := some archive }
  | media {media : Media Object} {synced : Bool} (grown : objects.synced = true -> synced = true) :
      Change work objects .syncMedia { objects with media, synced }
  | mediaReady : Change work objects .copyMediaReady { objects with mediaReady := true }
  | metadata {text : List Char} (written : work.metadata = some text) :
      Change work objects .copyMetadata { objects with metadata := some text }

/-- A command touches its own directory and the objects of its id. -/
structure Touches (ids : Run -> List Char) (run : Run) (command : Command)
    (before after : World Run Content Archive Object) : Prop where
  database : after.database = before.database
  held : after.held = before.held
  work : forall other : Run, other ≠ run -> after.work other = before.work other
  bucket : forall id : List Char, id ≠ ids run -> after.bucket id = before.bucket id
  objects : Change (before.work run) (before.bucket (ids run)) command (after.bucket (ids run))

variable {tools : Tools Content Stream Archive} {config : DjangoOpsConfig} {ids : Run -> List Char}

theorem upload_change {work : Work Archive} {before after : Objects Archive Object}
    {command : Command} (uploaded : upload work before command = some after) :
    Change work before command after := by
  cases command with
  | setup | dump | writeMetadata | syncMedia | writeMediaReady => cases uploaded
  | copyDatabase =>
      rcases Option.map_eq_some_iff.mp uploaded with ⟨archive, written, rfl⟩
      exact .database written
  | copyMediaReady =>
      rw [upload] at uploaded
      split at uploaded
      · cases uploaded
        exact .mediaReady
      · cases uploaded
  | copyMetadata =>
      rcases Option.map_eq_some_iff.mp uploaded with ⟨text, written, rfl⟩
      exact .metadata written

omit [DecidableEq Run] in
theorem Touches.refl (run : Run) (command : Command) (world : World Run Content Archive Object) :
    Touches ids run command world world :=
  ⟨rfl, rfl, fun _ _ => rfl, fun _ _ => rfl, .kept command⟩

theorem Touches.setWork {run : Run} {command : Command}
    {before after : World Run Content Archive Object}
    (touches : Touches ids run command before after) (work : Work Archive) :
    Touches ids run command before (after.setWork run work) where
  database := touches.database
  held := touches.held
  work other different := (Function.update_of_ne different _ _).trans (touches.work other different)
  bucket := touches.bucket
  objects := touches.objects

omit [DecidableEq Run] in
theorem touches_setObjects {run : Run} {command : Command}
    {world : World Run Content Archive Object} {objects : Objects Archive Object}
    (change : Change (world.work run) (world.bucket (ids run)) command objects) :
    Touches ids run command world (world.setObjects (ids run) objects) := by
  refine ⟨rfl, rfl, fun _ _ => rfl, fun _ other => Function.update_of_ne other _ _, ?_⟩
  rw [World.setObjects_bucket]
  exact change

omit [DecidableEq Run] in
/-- A command that puts an object, or fails. -/
theorem put_touches (run : Run) (world : World Run Content Archive Object) (command : Command) :
    Touches ids run command world (put ids run world command).1 ∧
      (put ids run world command).1.work = world.work := by
  unfold put
  cases uploaded : upload (world.work run) (world.bucket (ids run)) command with
  | none => exact ⟨.refl run command world, rfl⟩
  | some objects => exact ⟨touches_setObjects (upload_change uploaded), rfl⟩

theorem perform_touches (run : Run) (broken : Option Stream)
    (world : World Run Content Archive Object) (command : Command) :
    Touches ids run command world (perform tools config ids run broken world command).1 := by
  cases command with
  | setup setup =>
      cases setup with
      | _ => exact .refl run _ world
  | dump | writeMetadata | writeMediaReady => exact (Touches.refl run _ world).setWork _
  | syncMedia => exact touches_setObjects (.media fun _ => rfl)
  | copyDatabase | copyMediaReady | copyMetadata => exact (put_touches run world _).1

theorem touches_of_perform {run : Run} {broken : Option Stream}
    {before after : World Run Content Archive Object} {command : Command} {passed : Bool}
    (performed : perform tools config ids run broken before command = (after, passed)) :
    Touches ids run command before after := by
  have touches := @perform_touches _ _ _ _ _ _ tools config ids run broken before command
  rw [performed] at touches
  exact touches

theorem spoil_touches (run : Run) (left : Leftover Archive Object)
    (world : World Run Content Archive Object) (command : Command) :
    Touches ids run command world (spoil ids run left world command) := by
  have spoiled : Touches ids run command world
      ((if left.put then (put ids run world command).1 else world).setWork run left.work) := by
    apply Touches.setWork
    split
    · exact (put_touches run world command).1
    · exact .refl run command world
  cases command with
  | syncMedia => exact touches_setObjects (.media fun synced => synced)
  | setup | dump | writeMetadata | writeMediaReady | copyDatabase | copyMediaReady
  | copyMetadata => exact spoiled

theorem execute_touches (run : Run) (command : Command)
    (outcome : Outcome Stream (Leftover Archive Object))
    (world : World Run Content Archive Object) :
    Touches ids run command world (execute tools config ids run command outcome world).1 := by
  cases outcome with
  | passes => exact perform_touches run none world command
  | breaks output => exact perform_touches run (some output) world command
  | fails left => exact spoil_touches run left world command

/-- The files of a run are written by their own commands. -/
theorem perform_work (run : Run) (broken : Option Stream) (world : World Run Content Archive Object)
    (command : Command) :
    let after := (perform tools config ids run broken world command).1.work run
    (.dump ≠ command -> after.database = (world.work run).database) ∧
      (.writeMetadata ≠ command -> after.metadata = (world.work run).metadata) := by
  cases command with
  | setup setup =>
      cases setup with
      | _ => exact ⟨fun _ => rfl, fun _ => rfl⟩
  | dump =>
      refine ⟨fun other => absurd rfl other, fun _ => ?_⟩
      rw [perform, World.setWork_work]
  | writeMetadata =>
      refine ⟨fun _ => ?_, fun other => absurd rfl other⟩
      rw [perform, World.setWork_work]
  | writeMediaReady =>
      refine ⟨fun _ => ?_, fun _ => ?_⟩
      · rw [perform, World.setWork_work]
      · rw [perform, World.setWork_work]
  | syncMedia => exact ⟨fun _ => rfl, fun _ => rfl⟩
  | copyDatabase | copyMediaReady | copyMetadata =>
      exact ⟨fun _ => congrArg (fun work => (work run).database) (put_touches run world _).2,
        fun _ => congrArg (fun work => (work run).metadata) (put_touches run world _).2⟩

omit [DecidableEq Run] in
theorem put_passed {run : Run} {before after : World Run Content Archive Object} {command : Command}
    (passed : put ids run before command = (after, true)) :
    upload (before.work run) (before.bucket (ids run)) command =
        some (after.bucket (ids run)) ∧ after.held = before.held := by
  unfold put at passed
  cases uploaded : upload (before.work run) (before.bucket (ids run)) command with
  | none =>
      rw [uploaded] at passed
      cases (Prod.mk.inj passed).2
  | some objects =>
      rw [uploaded] at passed
      rw [← (Prod.mk.inj passed).1]
      exact ⟨congrArg some (World.setObjects_bucket _ _ _).symm, rfl⟩

theorem execute_passed {run : Run} {command : Command}
    {outcome : Outcome Stream (Leftover Archive Object)}
    {before after : World Run Content Archive Object}
    (passed : execute tools config ids run command outcome before = (after, true)) :
    Exists fun broken : Option Stream =>
      perform tools config ids run broken before command = (after, true) ∧
        forall output, broken = some output -> outcome = .breaks output :=
  Outcome.run_passed passed

/-- What a step can do. -/
theorem step_touches {before after : State Run Content Archive Object}
    {action : Action Run Content Stream Archive Object}
    (stepped : (setting tools config ids).step before action = some after) :
    (Exists fun change : Commit Content Object =>
      action = .disturb change ∧ after.world = before.world.commit change) ∨
      Exists fun run : Run => Exists fun outcome : Outcome Stream (Leftover Archive Object) =>
        Exists fun command : Command => Exists fun later : List Command =>
          action = .run run outcome ∧ before.rest run = command :: later ∧
            Touches ids run command before.world after.world := by
  rcases Errexit.Setting.step_cases stepped with
    ⟨run, outcome, command, later, rfl, front, rfl⟩ | ⟨change, world, rfl, disturbed, rfl⟩
  · exact .inr ⟨run, outcome, command, later, rfl, front,
      execute_touches run command outcome before.world⟩
  · exact .inl ⟨change, rfl, (Option.some.inj disturbed).symm⟩

/-! ## What holds behind the commands -/

def order : List (Command × Command) :=
  [(.dump, .copyDatabase), (.writeMetadata, .copyMetadata), (.copyDatabase, .copyMetadata),
    (.syncMedia, .copyMetadata), (.copyMediaReady, .copyMetadata)]

theorem script_order : forall pair, pair ∈ order ->
    pair.1 ∈ script ∧ Precedes script pair.1 pair.2 ∧ pair.1 ≠ pair.2 := by
  decide +kernel

/-- The states of the runs with whole dumps. -/
def Wholly (tools : Tools Content Stream Archive) (config : DjangoOpsConfig)
    (ids : Run -> List Char) (state : State Run Content Archive Object) : Prop :=
  (machine tools config ids).ReachableUnder (DumpsWhole tools) state

theorem Wholly.behind {state : State Run Content Archive Object}
    (reached : Wholly tools config ids state) {first second : Command} {run : Run}
    {later : List Command} (listed : (first, second) ∈ order)
    (come : state.rest run = second :: later) :
    state.rest run ≠ [] ∧ first ∉ state.rest run := by
  have facts := script_order _ listed
  have gone : first ∉ later := Errexit.Setting.not_mem_of_precedes facts.2.1 reached come
  rw [come]
  exact ⟨List.cons_ne_nil _ _, List.not_mem_cons_of_ne_of_not_mem facts.2.2 gone⟩

/-- What the database holds has been held. -/
theorem current_held {state : State Run Content Archive Object}
    (reached : Wholly tools config ids state) : state.world.database ∈ state.world.held := by
  refine @Transition.Machine.ReachableUnder.invariant _ _ _ _
    (fun state => state.world.database ∈ state.world.held) ?_ ?_ state reached
  · intro start begun
    rw [begun.2.1]
    exact List.mem_singleton_self _
  · intro before action after _ inductionHypothesis _ stepped
    rcases step_touches stepped with ⟨change, _, changed⟩ | ⟨run, _, command, _, _, _, touches⟩
    · rw [changed]
      exact List.mem_cons_self
    · rw [touches.database, touches.held]
      exact inductionHypothesis

/-- The rule of the commands behind, for a file of a run. -/
theorem work_behind {run : Run} {command : Command} {fact : List Content -> Work Archive -> Prop}
    (member : command ∈ script)
    (established : forall (before : State Run Content Archive Object) (broken : Option Stream)
        (after : World Run Content Archive Object),
      Wholly tools config ids before ->
        (forall output, broken = some output -> (before.rest run).head? = some .dump ->
          output = tools.pgDump before.world.database) ->
          (before.rest run).head? = some command ->
            perform tools config ids run broken before.world command = (after, true) ->
              fact after.held (after.work run))
    (frame : forall (held : List Content) (broken : Option Stream)
        (world : World Run Content Archive Object) (other : Command),
      command ≠ other -> fact held (world.work run) ->
        fact held ((perform tools config ids run broken world other).1.work run))
    (grown : forall (held : List Content) (content : Content) (work : Work Archive),
      fact held work -> fact (content :: held) work)
    {state : State Run Content Archive Object} (reached : Wholly tools config ids state)
    (inside : state.rest run ≠ []) (passed : command ∉ state.rest run) :
    fact state.world.held (state.world.work run) := by
  refine @Errexit.Setting.behind Run _ _ _ _ _ (setting tools config ids) _ _ run command
    (fun state => fact state.world.held (state.world.work run)) member ?_ ?_ ?_ state reached inside
    passed
  · intro before outcome after earlier allowed front executed
    rcases execute_passed executed with ⟨broken, performed, failed⟩
    refine established before broken after.world earlier ?_ (congrArg List.head? front) performed
    intro output same
    rw [failed output same] at allowed
    exact allowed
  · intro before outcome other after _ known _ different _ executed
    rcases execute_passed executed with ⟨broken, performed, _⟩
    have kept := frame before.world.held broken before.world other different known
    rw [performed] at kept
    rw [(touches_of_perform performed).held]
    exact kept
  · intro before action after _ known _ stepped same
    rcases step_touches stepped with
      ⟨change, _, changed⟩ | ⟨runner, _, command, _, rfl, _, touches⟩
    · rw [changed]
      exact grown _ _ _ known
    · rw [touches.held, touches.work run (Errexit.Setting.other_of_waits stepped same)]
      exact known

theorem Dumped.grow {held : List Content} {file : Option Archive} (dumped : Dumped tools held file)
    (content : Content) : Dumped tools (content :: held) file := by
  rcases dumped with ⟨old, listed, same⟩
  exact ⟨old, List.mem_cons_of_mem content listed, same⟩

section Reached

variable {state : State Run Content Archive Object} (reached : Wholly tools config ids state)
  {run : Run}

include reached

theorem dump_behind (inside : state.rest run ≠ []) (passed : .dump ∉ state.rest run) :
    Dumped tools state.world.held (state.world.work run).database := by
  refine @work_behind _ _ _ _ _ _ tools config ids run .dump
    (fun held work => Dumped tools held work.database)
    (script_order (.dump, .copyDatabase) (by decide)).1 ?_ ?_ ?_ state reached inside passed
  · intro before broken after earlier whole front performed
    rw [← (Prod.mk.inj performed).1, World.setWork_work]
    refine ⟨before.world.database, current_held earlier, ?_⟩
    cases broken with
    | none => rfl
    | some output =>
        rw [← whole output rfl front]
        rfl
  · intro held broken world other different known
    rw [(perform_work run broken world other).1 different]
    exact known
  · intro held content work known
    exact known.grow content

theorem writeMetadata_behind (inside : state.rest run ≠ [])
    (passed : .writeMetadata ∉ state.rest run) :
    (state.world.work run).metadata = some (metadataText config (ids run)) := by
  refine @work_behind _ _ _ _ _ _ tools config ids run .writeMetadata
    (fun _ work => work.metadata = some (metadataText config (ids run)))
    (script_order (.writeMetadata, .copyMetadata) (by decide)).1 ?_ ?_ ?_ state reached inside
    passed
  · intro before broken after _ _ _ performed
    rw [← (Prod.mk.inj performed).1, World.setWork_work]
  · intro held broken world other different known
    rw [(perform_work run broken world other).2 different]
    exact known
  · intro held content work known
    exact known

end Reached

/-! ## The objects of an id -/

/-- A fact on the objects of an id that the commands of all runs keep. -/
structure Stable (tools : Tools Content Stream Archive) (config : DjangoOpsConfig)
    (ids : Run -> List Char) (fact : List Content -> Objects Archive Object -> Prop) : Prop where
  changes : forall (before : State Run Content Archive Object) (run : Run) (command : Command)
      (later : List Command) (objects changed : Objects Archive Object),
    Wholly tools config ids before -> before.rest run = command :: later ->
      Change (before.world.work run) objects command changed ->
        fact before.world.held objects -> fact before.world.held changed
  grown : forall (held : List Content) (content : Content) (objects : Objects Archive Object),
    fact held objects -> fact (content :: held) objects

theorem Stable.touches {fact : List Content -> Objects Archive Object -> Prop}
    (stable : Stable tools config ids fact) {before : State Run Content Archive Object}
    (earlier : Wholly tools config ids before) {run : Run} {command : Command}
    {later : List Command} (front : before.rest run = command :: later)
    {after : World Run Content Archive Object}
    (touches : Touches ids run command before.world after) {id : List Char}
    (known : fact before.world.held (before.world.bucket id)) :
    fact after.held (after.bucket id) := by
  rw [touches.held]
  by_cases own : id = ids run
  · subst own
    exact stable.changes before run command later _ _ earlier front touches.objects known
  · rw [touches.bucket id own]
    exact known

theorem Stable.step {fact : List Content -> Objects Archive Object -> Prop}
    (stable : Stable tools config ids fact) {before after : State Run Content Archive Object}
    (earlier : Wholly tools config ids before) {action : Action Run Content Stream Archive Object}
    (stepped : (setting tools config ids).step before action = some after) {id : List Char}
    (known : fact before.world.held (before.world.bucket id)) :
    fact after.world.held (after.world.bucket id) := by
  rcases step_touches stepped with ⟨change, _, changed⟩ | ⟨run, _, command, _, _, front, touches⟩
  · rw [changed]
    exact stable.grown _ _ _ known
  · exact stable.touches earlier front touches known

/-- The rule of the commands behind, for the objects of a run. -/
theorem objects_behind {command : Command} {fact : List Content -> Objects Archive Object -> Prop}
    {run : Run} (member : command ∈ script) (stable : Stable tools config ids fact)
    (established : forall (before : State Run Content Archive Object) (later : List Command)
        (broken : Option Stream) (after : World Run Content Archive Object),
      Wholly tools config ids before -> before.rest run = command :: later ->
        perform tools config ids run broken before.world command = (after, true) ->
          fact after.held (after.bucket (ids run)))
    {state : State Run Content Archive Object} (reached : Wholly tools config ids state)
    (inside : state.rest run ≠ []) (passed : command ∉ state.rest run) :
    fact state.world.held (state.world.bucket (ids run)) := by
  refine @Errexit.Setting.behind Run _ _ _ _ _ (setting tools config ids) _ _ run command
    (fun state => fact state.world.held (state.world.bucket (ids run))) member ?_ ?_ ?_ state
    reached inside passed
  · intro before outcome after earlier _ front executed
    rcases execute_passed executed with ⟨broken, performed, _⟩
    exact established before _ broken after.world earlier front performed
  · intro before outcome other after earlier known _ _ front executed
    rcases execute_passed executed with ⟨broken, performed, _⟩
    exact stable.touches earlier front (touches_of_perform performed) known
  · intro before action after earlier known _ stepped _
    exact stable.step earlier stepped known

theorem stable_dumped : @Stable Run _ Content Stream Archive Object tools config ids
    fun held objects => Dumped tools held objects.database where
  changes before run command later objects changed earlier front change known := by
    cases change with
    | kept | media | mediaReady | metadata => exact known
    | database written =>
        have past := Wholly.behind earlier (by decide : (.dump, .copyDatabase) ∈ order) front
        have dumped := dump_behind earlier past.1 past.2
        rw [written] at dumped
        exact dumped
  grown held content objects known := known.grow content

theorem stable_synced : @Stable Run _ Content Stream Archive Object tools config ids
    fun _ objects => objects.synced = true where
  changes before run command later objects changed earlier front change known := by
    cases change with
    | kept | database | mediaReady | metadata => exact known
    | media grown => exact grown known
  grown held content objects known := known

theorem stable_mediaReady : @Stable Run _ Content Stream Archive Object tools config ids
    fun _ objects => objects.mediaReady = true where
  changes before run command later objects changed earlier front change known := by
    cases change with
    | kept | database | media | metadata => exact known
    | mediaReady => rfl
  grown held content objects known := known

section Reached

variable {state : State Run Content Archive Object} (reached : Wholly tools config ids state)
  {run : Run} {later : List Command}

include reached

/-- In front of the metadata the backup is complete. -/
theorem complete_behind (come : state.rest run = .copyMetadata :: later) :
    Complete tools state.world.held (state.world.bucket (ids run)) := by
  have past {first : Command} (listed : (first, .copyMetadata) ∈ order) :=
    Wholly.behind reached listed come
  constructor
  · have gone := past (by decide : (.copyDatabase, .copyMetadata) ∈ order)
    refine objects_behind (script_order (.copyDatabase, .copyMetadata) (by decide)).1 stable_dumped
      ?_ reached gone.1 gone.2
    intro before later broken after earlier front performed
    have past := Wholly.behind earlier (by decide : (.dump, .copyDatabase) ∈ order) front
    have dumped := dump_behind earlier past.1 past.2
    rcases put_passed performed with ⟨uploaded, held⟩
    rcases Option.map_eq_some_iff.mp uploaded with ⟨archive, written, same⟩
    rw [held, ← same]
    rw [written] at dumped
    exact dumped
  · have gone := past (by decide : (.syncMedia, .copyMetadata) ∈ order)
    refine objects_behind (script_order (.syncMedia, .copyMetadata) (by decide)).1 stable_synced
      ?_ reached gone.1 gone.2
    intro before later broken after _ _ performed
    rw [← (Prod.mk.inj performed).1, World.setObjects_bucket]
  · have gone := past (by decide : (.copyMediaReady, .copyMetadata) ∈ order)
    refine objects_behind (script_order (.copyMediaReady, .copyMetadata) (by decide)).1
      stable_mediaReady ?_ reached gone.1 gone.2
    intro before later broken after _ _ performed
    rcases put_passed performed with ⟨uploaded, _⟩
    rw [upload] at uploaded
    split at uploaded
    · rw [← Option.some.inj uploaded]
    · cases uploaded

end Reached

/-- The metadata of an id are its own, and its backup is complete. -/
def Committed (tools : Tools Content Stream Archive) (config : DjangoOpsConfig) (id : List Char)
    (held : List Content) (objects : Objects Archive Object) : Prop :=
  forall text : List Char, objects.metadata = some text ->
    text = metadataText config id ∧ Complete tools held objects

theorem stable_complete : @Stable Run _ Content Stream Archive Object tools config ids
    (Complete tools) where
  changes before run command later objects changed earlier front change known :=
    ⟨stable_dumped.changes before run command later objects changed earlier front change
        known.database,
      stable_synced.changes before run command later objects changed earlier front change
        known.synced,
      stable_mediaReady.changes before run command later objects changed earlier front change
        known.mediaReady⟩
  grown _ content _ known :=
    ⟨known.database.grow content, known.synced, known.mediaReady⟩

/-- In every run with whole dumps, metadata stand for a complete backup. -/
theorem committed {state : State Run Content Archive Object}
    (reached : Wholly tools config ids state) (id : List Char) :
    Committed tools config id state.world.held (state.world.bucket id) := by
  refine @Transition.Machine.ReachableUnder.invariant _ _ _ _
    (fun state => Committed tools config id state.world.held (state.world.bucket id))
    ?_ ?_ state reached
  · intro start begun text there
    rw [begun.2.2] at there
    cases there
  · intro before action after earlier known _ stepped text there
    rcases step_touches stepped with ⟨change, _, changed⟩ | ⟨run, _, command, _, _, front, touches⟩
    · rw [changed] at there ⊢
      rcases known text there with ⟨own, complete⟩
      exact ⟨own, complete.database.grow _, complete.synced, complete.mediaReady⟩
    · by_cases same : id = ids run
      · subst same
        rw [touches.held]
        have change := touches.objects
        revert there
        generalize after.world.bucket (ids run) = objects at change
        intro there
        have kept (unchanged : (before.world.bucket (ids run)).metadata = objects.metadata) :
            text = metadataText config (ids run) ∧ Complete tools before.world.held objects := by
          rcases known text (unchanged.trans there) with ⟨own, complete⟩
          exact ⟨own, stable_complete.changes _ _ _ _ _ _ earlier front change complete⟩
        cases change with
        | kept | database | media | mediaReady => exact kept rfl
        | metadata written =>
            have past := Wholly.behind earlier
              (by decide : (.writeMetadata, .copyMetadata) ∈ order) front
            rw [writeMetadata_behind earlier past.1 past.2] at written
            cases written
            have complete := complete_behind earlier front
            refine ⟨(Option.some.inj there).symm, complete.database, complete.synced,
              complete.mediaReady⟩
      · rw [touches.bucket id same] at there ⊢
        rw [touches.held]
        exact known text there

/-! ## The restore of a backup -/

/-- Commands that look let everything pass. -/
theorem follow_looks (id : List Char) (looks : List Restore.Look) (behind : List Restore.Command)
    (world : Restore.World Content Archive Object) :
    (Restore.setting tools config id).follow () .passes (looks.map .look ++ behind) world =
      (Restore.setting tools config id).follow () .passes behind world := by
  induction looks with
  | nil => rfl
  | cons first rest inductionHypothesis => exact inductionHypothesis

theorem restorable {id : List Char} {held : List Content} {objects : Objects Archive Object}
    (named : forall char, char ∈ config.project.name.toList -> isNewline char = false)
    (plain : forall char, char ∈ id -> isNewline char = false)
    (there : objects.metadata = some (metadataText config id))
    (complete : Complete tools held objects) : Restorable tools config id held objects := by
  rcases complete.database with ⟨content, listed, stored⟩
  refine ⟨content, listed, ?_⟩
  rintro world rfl
  have found (line : MetadataLine) := Backup.grepFx_metadataText named plain line
  unfold Restore.script
  rw [List.append_eq, follow_looks]
  simp only [Errexit.Setting.follow, Outcome.run, Restore.setting, Restore.execute, Restore.perform,
    Restore.store, there, stored, complete.mediaReady, found, Option.getD_some, Option.bind_some,
    Option.or, tools.gunzip_gzip, tools.psql_pgDump, Option.isSome_some, if_true]
  exact ⟨_, rfl, rfl, rfl⟩

/-- The keys of metadata are those of their ids. -/
theorem metadataKey_inj {left right : List Char}
    (same : metadataKey config left = metadataKey config right) : left = right := by
  unfold metadataKey at same
  exact List.append_cancel_right (List.cons.inj (List.append_cancel_left same)).2

/-- An id without a run has no objects. -/
theorem bucket_untouched {state : State Run Content Archive Object}
    (reached : Wholly tools config ids state) {id : List Char}
    (foreign : forall run, id ≠ ids run) :
    state.world.bucket id = {} := by
  refine @Transition.Machine.ReachableUnder.invariant _ _ _ _
    (fun state => state.world.bucket id = {}) ?_ ?_ state reached
  · intro start begun
    rw [begun.2.2]
  · intro before action after _ known _ stepped
    rcases step_touches stepped with ⟨change, _, changed⟩ | ⟨run, _, _, _, _, _, touches⟩
    · rw [changed]
      exact known
    · rw [touches.bucket id (foreign run)]
      exact known

/-- In every run with whole dumps, metadata stand for a complete backup; and if
every id that is read of a key has its own metadata, every listed backup can be
restored.  The runs of several scripts may overlap, each under an id of its own,
and end at any of their commands: the metadata are written last. -/
theorem backups_commit
    (named : validateProjectName config.project.name = .ok config.project.name)
    {state : State Run Content Archive Object}
    (reached : (machine tools config ids).ReachableUnder (DumpsWhole tools) state) :
    (forall id : List Char, (state.world.bucket id).metadata.isSome = true ->
        Complete tools state.world.held (state.world.bucket id)) ∧
      forall listing : List S3Object, Shows config state.world.bucket listing ->
        ReadsOwn config listing -> forall id : List Char,
          String.ofList id ∈ listBackups config listing ->
            Restorable tools config id state.world.held (state.world.bucket id) := by
  constructor
  · intro id there
    rcases Option.isSome_iff_exists.mp there with ⟨text, there⟩
    exact (committed reached id text there).2
  · intro listing shows own id listed
    rcases mem_listBackups.mp listed with ⟨object, member, dest, reading, found, read⟩
    have there := (shows id).mp (own object member dest reading found id read)
    rcases Option.isSome_iff_exists.mp there with ⟨text, there⟩
    rcases committed reached id text there with ⟨rfl, complete⟩
    refine restorable ?_ ?_ there complete
    · intro char inner
      exact (separators_of_isKeyChar (isKeyChar_of_matchesProject (accept_ok named).1 inner)).2.1
    · intro char inner
      exact (separators_of_isKeyChar (isKeyChar_of_isBackupId (readId_valid read) inner)).2.1

/-! ## A run for a table -/

open Backup (tableTools)

abbrev ShopState := State Unit (List Nat) (Option (List (Option Nat))) Unit

abbrev ShopAction := Action Unit (List Nat) (List (Option Nat)) (Option (List (Option Nat))) Unit

def shopMachine :=
  @machine Unit _ _ _ _ Unit tableTools (shopConfig "shop") fun _ => backupId

def shopStart : ShopState where
  rest := fun _ => script
  world :=
    { database := [1, 2], held := [[1, 2]], media := fun _ => none, work := fun _ => {}
      bucket := fun _ => {} }

/-- The `pg_dump` fails behind one row; `gzip` hides it. -/
def truncatedRun : List ShopAction :=
  List.append (List.replicate 14 (.run () .passes)) (.run () (.breaks [some 1]) ::
    List.replicate 7 (.run () .passes))

/-- The metadata are there for a database that has never been. -/
def commitsTruncated (state : ShopState) : Bool :=
  (state.world.bucket backupId).metadata.isSome &&
    decide ((state.world.bucket backupId).database = some (tableTools.gzip [some 1])) &&
    decide (state.world.held = [[1, 2]])

/-- The run succeeds and puts the metadata of a truncated dump, which `gzip -t`
accepts. -/
theorem truncated_commits :
    Exists fun state => shopMachine.replay (fun _ _ => True) shopStart truncatedRun = some state ∧
      shopMachine.Reachable state ∧ (state.world.bucket backupId).metadata.isSome = true ∧
        ((state.world.bucket backupId).database.bind tableTools.gunzip).isSome = true ∧
          ¬ Complete tableTools state.world.held (state.world.bucket backupId) := by
  have commits : (shopMachine.replay (fun _ _ => True) shopStart truncatedRun).map
      commitsTruncated = some true := by decide +kernel
  rcases Option.map_eq_some_iff.mp commits with ⟨state, replayed, facts⟩
  unfold commitsTruncated at facts
  rw [Bool.and_eq_true, Bool.and_eq_true, decide_eq_true_eq, decide_eq_true_eq] at facts
  rcases facts with ⟨⟨there, stored⟩, held⟩
  refine ⟨state, replayed, ?_, there, ?_, ?_⟩
  · exact Transition.Machine.reachableUnder_of_replay truncatedRun (.start ⟨rfl, rfl, rfl⟩) replayed
  · rw [stored]
    rfl
  · rintro ⟨⟨content, listed, same⟩, _, _⟩
    rw [held, List.mem_singleton] at listed
    rw [stored, listed] at same
    exact absurd same (by decide)

/-- A run in which everything passes commits a backup that is listed and can be
restored. -/
theorem backups_commit_shop : Exists fun state : ShopState =>
    shopMachine.ReachableUnder (DumpsWhole tableTools) state ∧
      Complete tableTools state.world.held (state.world.bucket backupId) ∧
        listBackups (shopConfig "shop") [backupObject] = [String.ofList backupId] ∧
          Restorable tableTools (shopConfig "shop") backupId state.world.held
            (state.world.bucket backupId) := by
  rcases Transition.Machine.exists_reachableUnder_of_replay shopMachine (DumpsWhole tableTools)
    (List.replicate 22 (.run () .passes)) shopStart ⟨rfl, rfl, rfl⟩
    (fun state => (state.world.bucket backupId).metadata.isSome) (by decide +kernel) with
    ⟨state, reached, there⟩
  have facts := backups_commit (by decide +kernel) reached
  have listed : listBackups (shopConfig "shop") [backupObject] = [String.ofList backupId] := by
    decide +kernel
  have shows : Shows (shopConfig "shop") state.world.bucket [backupObject] := by
    intro id
    by_cases own : id = backupId
    · subst own
      exact iff_of_true ⟨backupObject, List.mem_singleton_self _, rfl⟩ there
    · refine iff_of_false ?_ ?_
      · rintro ⟨object, member, same⟩
        rw [List.mem_singleton.mp member] at same
        exact own (metadataKey_inj same).symm
      · rw [bucket_untouched reached fun _ => own]
        exact Bool.false_ne_true
  refine ⟨state, reached, facts.1 backupId there, listed,
    facts.2 [backupObject] shows reads_backupObject backupId ?_⟩
  rw [listed]
  exact List.mem_singleton_self _

end BackupRun
end Cli
end DjangoOps
