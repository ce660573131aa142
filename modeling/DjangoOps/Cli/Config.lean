import DjangoOps.ControlPlane.Redaction
import DjangoOps.Foundation.Url
import DjangoOps.Foundation.Yaml

namespace DjangoOps
namespace Cli

open ControlPlane (isSpace)

/-!
# The project configuration

The core configuration of a project with its validators, the reading of
mappings of schema 1 and 3, and the upgrade of documents of schema 2.

Of Python, the YAML library, the comparison and the `repr` of values that are
not plain, the Unicode class of word characters and the checks of a network
location are parameters.
-/

inductive ConfigError
  | valueError (message : String)
  | integrationError (code message : String)
  deriving DecidableEq

/-- What the configuration takes from Python and its libraries: the YAML library, how a
value of another kind compares with an integer and is shown, which characters are
letters of a word, and the checks of `urlsplit`. -/
structure Python (Other : Type) where
  yaml : Yaml.Library Other
  equals : Other -> Int -> Bool
  repr : Yaml Other -> String
  isWord : Char -> Bool
  url : Url.Checks ConfigError

variable {Other : Type}

/-- `value == number`, of which a Boolean is one too. -/
def Python.equalsInt (python : Python Other) : Yaml Other -> Int -> Bool
  | .bool value, number => decide ((if value then 1 else 0) = number)
  | .int value, number => decide (value = number)
  | .other value, number => python.equals value number
  | _, _ => false

def schemaVersion : Int := 3

/-- `_LEGACY_SCHEMA_1_KEYS` -/
def legacySchema1Keys : List String :=
  ["schema_version", "project", "django", "services", "tls", "storage"]

/-- `_SCHEMA_3_KEYS` -/
def schema3Keys : List String := legacySchema1Keys ++ ["backup"]

/-! ## Patterns -/

/-- A character of one class and up to `limit` of another. -/
def matchesRun (first rest : Char -> Bool) (limit : Nat) : List Char -> Bool
  | [] => false
  | char :: more => first char && decide (more.length ≤ limit) && more.all rest

/-- Between `least` and `most` characters of one class, the outer ones of
another. -/
def matchesEnclosed (outer inner : Char -> Bool) (least most : Nat) (text : List Char) : Bool :=
  decide (least ≤ text.length) && decide (text.length ≤ most) &&
    (text.head?.map outer).getD false && (text.getLast?.map outer).getD false && text.all inner

/-- `_PROJECT_RE.fullmatch` -/
def matchesProject (text : List Char) : Bool :=
  matchesRun Char.isAlpha (fun char => char.isAlphanum || char == '_' || char == '-') 62 text

/-- `_MODULE_RE.fullmatch` -/
def matchesModule (isWord : Char -> Bool) (text : List Char) : Bool :=
  (text.splitOn '.').all fun part =>
    matchesRun (fun char => char.isAlpha || char == '_') isWord part.length part

/-- `_HOST_LABEL_RE.fullmatch` -/
def matchesHostLabel (text : List Char) : Bool :=
  matchesEnclosed Char.isAlphanum (fun char => char.isAlphanum || char == '-') 1 63 text

/-- `_EMAIL_RE.fullmatch`: one `@`, and behind it a dot with something on
either side. -/
def matchesEmail (text : List Char) : Bool :=
  match text.splitOn '@' with
  | [user, domain] =>
      !user.isEmpty && text.all (fun char => !isSpace char) &&
        decide ('.' ∈ (domain.drop 1).dropLast)
  | _ => false

/-- `_BUCKET_RE.fullmatch` -/
def matchesBucket (text : List Char) : Bool :=
  let plain := fun char : Char => char.isLower || char.isDigit
  matchesEnclosed plain (fun char => plain char || char == '.' || char == '-') 3 63 text

/-- A character of `_CRON_RE`. -/
def isCron (char : Char) : Bool :=
  char.isDigit || char == '*' || char == '/' || char == '?' || char == ',' || char == ' ' ||
    char == '-'

/-- `str.split` at blanks. -/
def words (text : List Char) : List (List Char) :=
  (text.splitOnP isSpace).filter fun word => !word.isEmpty

/-- `word in text` -/
def contains (word text : List Char) : Bool := text.tails.any fun rest => word.isPrefixOf rest

/-! ## Validators -/

/-- The value itself, when it is valid. -/
def accept {Value : Type} (valid : Bool) (message : String) (value : Value) :
    Except ConfigError Value :=
  if valid then .ok value else .error (.valueError message)

def validateProjectName (value : String) : Except ConfigError String :=
  accept (matchesProject value.toList)
    "project name must start with a letter and contain only letters, numbers, '-' or '_'" value

def validateDjangoModule (python : Python Other) (value : String) : Except ConfigError String :=
  accept (matchesModule python.isWord value.toList)
    "Django module must be a dotted Python identifier, for example 'config'" value

def validateHostname (value : String) : Except ConfigError String :=
  let candidate := value.toList.rdropWhile fun char => char == '.'
  let labelsValid := (candidate.splitOn '.').all matchesHostLabel
  accept (decide (candidate.length ≤ 253) && decide ('.' ∈ candidate) && labelsValid)
    "hostname must be a valid public DNS hostname" (String.ofList (candidate.map Char.toLower))

def validateEmail (value : String) : Except ConfigError String :=
  accept (decide (value.length ≤ 254) && matchesEmail value.toList)
    "ACME email must be a valid email address" value

/-- Without slashes at the end. -/
def stripSlashes (value : String) : String :=
  String.ofList (value.toList.rdropWhile fun char => char == '/')

/-- The parts that `any` finds in the URL of a storage endpoint. -/
def hasForbiddenPart (parts : Url.Split) : Bool :=
  decide (parts.username.getD [] ≠ [] ∨ parts.password.getD [] ≠ [] ∨ parts.query ≠ [] ∨
    parts.fragment ≠ [])

def validateStorageEndpoint (python : Python Other) (value : String) :
    Except ConfigError String := do
  let parts <- Url.split python.url value.toList
  if (parts.scheme ≠ "http".toList ∧ parts.scheme ≠ "https".toList) ∨ parts.hostname = none ∨
      hasForbiddenPart parts = true then
    .error (.valueError
      "storage endpoint must be an http(s) URL without credentials, query, or fragment")
  else
    accept (decide (parts.path = [] ∨ parts.path = ['/']))
      "storage endpoint must not contain a path" (stripSlashes value)

def validateRegion (value : Option String) : Except ConfigError (Option String) :=
  match value with
  | none => .ok none
  | some region =>
      accept (decide (region ≠ "") && decide (region.length ≤ 63) &&
          region.toList.all fun char => char.isAlphanum || char == '-')
        "storage region must contain only letters, numbers, and '-' or be null" (some region)

def validateBucket (value field : String) : Except ConfigError String :=
  let separatorsValid := ["..", ".-", "-."].all fun pair => !contains pair.toList value.toList
  accept (matchesBucket value.toList && separatorsValid)
    (field ++ " must be a valid S3-compatible bucket name") value

def validateBackupSchedule (value : String) : Except ConfigError String :=
  let fields := words value.toList
  let fieldsAreShort := fields.all fun field => decide (field.length ≤ 32)
  accept (decide (fields.length = 5) && (decide (value ≠ "") && value.toList.all isCron) &&
      fieldsAreShort)
    "backup schedule must be a five-field cron expression"
    (String.ofList ([' '].intercalate fields))

def validateBackupPrefix (value : String) : Except ConfigError String :=
  let safeChars := matchesRun Char.isAlphanum
    (fun char => char.isAlphanum || char == '/' || char == '_' || char == '-') value.length
      value.toList
  accept (decide (value.length ≤ 128) && decide (value.toList.head? ≠ some '/') &&
      decide (value.toList.getLast? ≠ some '/') && !contains "..".toList value.toList &&
      safeChars)
    "backup prefix must be a safe relative object prefix" value

/-! ## Configurations -/

structure ServiceConfig where
  postgres : Bool := true
  redis : Bool := true
  celery : Bool := true
  celeryBeat : Bool := true
  deriving DecidableEq

structure DjangoConfig where
  module : String
  deriving DecidableEq

structure ProjectConfig where
  name : String
  deriving DecidableEq

structure TLSConfig where
  hostname : String
  acmeEmail : String
  deriving DecidableEq

structure StorageConfig where
  endpointUrl : String
  region : Option String
  staticBucket : String
  mediaBucket : String
  deriving DecidableEq

structure BackupConfig where
  schedule : String
  bucket : String
  backupPrefix : String := "djangoops-backups"
  deriving DecidableEq

structure DjangoOpsConfig where
  schemaVersion : Int
  project : ProjectConfig
  django : DjangoConfig
  services : ServiceConfig
  tls : TLSConfig
  storage : StorageConfig
  backup : BackupConfig
  deriving DecidableEq

/-- The arguments of `create`. -/
structure Arguments where
  projectName : String
  djangoModule : String
  hostname : String := "example.com"
  acmeEmail : String := "ops@example.com"
  storageEndpointUrl : String := "https://s3.example.com"
  storageRegion : Option String := none
  staticBucket : String := "djangoops-static"
  mediaBucket : String := "djangoops-media"
  backupSchedule : String := "17 2 * * *"
  backupBucket : String := "djangoops-backups"
  backupPrefix : String := "djangoops-backups"

/-- The call of the class with which `create` and `from_mapping` end. -/
def DjangoOpsConfig.make (python : Python Other) (services : ServiceConfig)
    (arguments : Arguments) : Except ConfigError DjangoOpsConfig := do
  let name <- validateProjectName arguments.projectName
  let module <- validateDjangoModule python arguments.djangoModule
  let hostname <- validateHostname arguments.hostname
  let acmeEmail <- validateEmail arguments.acmeEmail
  let endpointUrl <- validateStorageEndpoint python arguments.storageEndpointUrl
  let region <- validateRegion arguments.storageRegion
  let staticBucket <- validateBucket arguments.staticBucket "static bucket"
  let mediaBucket <- validateBucket arguments.mediaBucket "media bucket"
  let schedule <- validateBackupSchedule arguments.backupSchedule
  let bucket <- validateBucket arguments.backupBucket "backup bucket"
  let backupPrefix <- validateBackupPrefix arguments.backupPrefix
  .ok { schemaVersion := Cli.schemaVersion
        project := { name }, django := { module }, services
        tls := { hostname, acmeEmail }
        storage := { endpointUrl, region, staticBucket, mediaBucket }
        backup := { schedule, bucket, backupPrefix } }

def DjangoOpsConfig.create (python : Python Other) (arguments : Arguments) :
    Except ConfigError DjangoOpsConfig :=
  DjangoOpsConfig.make python {} arguments

/-! ## Mappings -/

/-- `value[key]`, of a key that is there. -/
def item (key : String) (members : List (Yaml Other × Yaml Other)) : Yaml Other :=
  (Yaml.get key members).getD .null

def requireMapping (field : String) :
    Yaml Other -> Except ConfigError (List (Yaml Other × Yaml Other))
  | .dict members => accept (Yaml.stringKeys members) (field ++ " must be a mapping") members
  | _ => .error (.valueError (field ++ " must be a mapping"))

def requireString (field : String) : Yaml Other -> Except ConfigError String
  | .str text => .ok text
  | _ => .error (.valueError (field ++ " must be a string"))

/-- One of the flags under `services`. -/
def serviceValue (key : String) (services : List (Yaml Other × Yaml Other)) :
    Except ConfigError Bool :=
  match item key services with
  | .bool value => .ok value
  | _ => .error (.valueError ("services." ++ key ++ " must be a boolean"))

def regionValue : Yaml Other -> Except ConfigError (Option String)
  | .null => .ok none
  | .str region => .ok (some region)
  | _ => .error (.valueError "storage.region must be a string or null")

/-- The keys of the sections, checked in the order of the source. -/
def checkSections (project django services tls storage backup : List (Yaml Other × Yaml Other)) :
    Except ConfigError Unit :=
  if (Yaml.keysAre ["name"] project && Yaml.keysAre ["module"] django) = false then
    .error (.valueError "project or django configuration keys are invalid")
  else if Yaml.keysAre ["postgres", "redis", "celery", "celery_beat"] services = false then
    .error (.valueError "service configuration keys are invalid")
  else if Yaml.keysAre ["hostname", "acme_email"] tls = false then
    .error (.valueError "TLS configuration keys are invalid")
  else if Yaml.keysAre ["endpoint_url", "region", "static_bucket", "media_bucket"] storage = false
      then .error (.valueError "storage configuration keys are invalid")
  else if Yaml.keysAre ["schedule", "bucket", "prefix"] backup = false then
    .error (.valueError "backup configuration keys are invalid")
  else .ok ()

/-- What `from_mapping` reads of a mapping before it validates the strings. -/
def readMapping (members : List (Yaml Other × Yaml Other)) :
    Except ConfigError (ServiceConfig × Arguments) := do
  let project <- requireMapping "project" (item "project" members)
  let django <- requireMapping "django" (item "django" members)
  let services <- requireMapping "services" (item "services" members)
  let tls <- requireMapping "tls" (item "tls" members)
  let storage <- requireMapping "storage" (item "storage" members)
  let backup <- requireMapping "backup" (item "backup" members)
  checkSections project django services tls storage backup
  let postgres <- serviceValue "postgres" services
  let redis <- serviceValue "redis" services
  let celery <- serviceValue "celery" services
  let celeryBeat <- serviceValue "celery_beat" services
  let storageRegion <- regionValue (item "region" storage)
  let projectName <- requireString "project.name" (item "name" project)
  let djangoModule <- requireString "django.module" (item "module" django)
  let hostname <- requireString "tls.hostname" (item "hostname" tls)
  let acmeEmail <- requireString "tls.acme_email" (item "acme_email" tls)
  let storageEndpointUrl <- requireString "storage.endpoint_url" (item "endpoint_url" storage)
  let staticBucket <- requireString "storage.static_bucket" (item "static_bucket" storage)
  let mediaBucket <- requireString "storage.media_bucket" (item "media_bucket" storage)
  let backupSchedule <- requireString "backup.schedule" (item "schedule" backup)
  let backupBucket <- requireString "backup.bucket" (item "bucket" backup)
  let backupPrefix <- requireString "backup.prefix" (item "prefix" backup)
  .ok ({ postgres, redis, celery, celeryBeat },
    { projectName, djangoModule, hostname, acmeEmail, storageEndpointUrl, storageRegion
      staticBucket, mediaBucket, backupSchedule, backupBucket, backupPrefix })

/-- `from_mapping` behind its treatment of the schema version. -/
def fromSchema3 (python : Python Other) (members : List (Yaml Other × Yaml Other)) :
    Except ConfigError DjangoOpsConfig := do
  let members <- accept (Yaml.keysAre schema3Keys members)
    "configuration keys do not match schema_version 3" members
  let read <- readMapping members
  DjangoOpsConfig.make python read.1 read.2

/-- The backup section that is given to a document of schema 1. -/
def legacyBackup : Yaml Other :=
  .dict (Yaml.record [("schedule", .str "17 2 * * *"), ("bucket", .str "djangoops-backups"),
    ("prefix", .str "djangoops-backups")])

def DjangoOpsConfig.fromMapping (python : Python Other) :
    Yaml Other -> Except ConfigError DjangoOpsConfig
  | .dict members =>
      match Yaml.get "schema_version" members with
      | none => .error (.valueError "configuration is missing schema_version")
      | some version =>
          if python.equalsInt version 1 then
            if Yaml.keysAre legacySchema1Keys members = false then
              .error (.valueError ("djangoops.yaml uses schema_version 1; recreate or upgrade it " ++
                "with the required TLS and S3 storage settings before using this release"))
            else
              fromSchema3 python (Yaml.set "backup" legacyBackup
                (Yaml.set "schema_version" (.int Cli.schemaVersion) members))
          else if python.equalsInt version 2 then
            .error (.valueError ("djangoops.yaml uses schema_version 2; run " ++
              "'djangoops config-upgrade' and review the generated backup settings before continuing"))
          else if python.equalsInt version Cli.schemaVersion = false then
            .error (.valueError ("unsupported schema_version: " ++ python.repr version))
          else fromSchema3 python members
  | _ => .error (.valueError "configuration root must be a mapping")

def ServiceConfig.toMapping (services : ServiceConfig) : Yaml Other :=
  .dict (Yaml.record [("postgres", .bool services.postgres), ("redis", .bool services.redis),
    ("celery", .bool services.celery), ("celery_beat", .bool services.celeryBeat)])

def StorageConfig.toMapping (storage : StorageConfig) : Yaml Other :=
  .dict (Yaml.record [("endpoint_url", .str storage.endpointUrl),
    ("region", (storage.region.map Yaml.str).getD .null),
    ("static_bucket", .str storage.staticBucket), ("media_bucket", .str storage.mediaBucket)])

def BackupConfig.toMapping (backup : BackupConfig) : Yaml Other :=
  .dict (Yaml.record [("schedule", .str backup.schedule), ("bucket", .str backup.bucket),
    ("prefix", .str backup.backupPrefix)])

/-- `to_mapping` -/
def DjangoOpsConfig.toMapping (config : DjangoOpsConfig) : List (String × Yaml Other) :=
  [("schema_version", .int config.schemaVersion),
    ("project", .dict (Yaml.record [("name", .str config.project.name)])),
    ("django", .dict (Yaml.record [("module", .str config.django.module)])),
    ("services", config.services.toMapping),
    ("tls", .dict (Yaml.record [("hostname", .str config.tls.hostname),
      ("acme_email", .str config.tls.acmeEmail)])),
    ("storage", config.storage.toMapping), ("backup", config.backup.toMapping)]

def renderConfig (python : Python Other) (config : DjangoOpsConfig) : String :=
  python.yaml.dump (.dict (Yaml.record config.toMapping))

def parseConfig (python : Python Other) (text : String) : Except ConfigError DjangoOpsConfig :=
  match python.yaml.load text with
  | none => .error (.valueError "invalid YAML configuration")
  | some loaded => DjangoOpsConfig.fromMapping python loaded

def upgradeConfig (python : Python Other) (text backupBucket backupSchedule : String) :
    Except ConfigError String :=
  match python.yaml.load text with
  | none => .error (.valueError "invalid YAML configuration")
  | some (.dict members) =>
      if python.equalsInt (item "schema_version" members) 2 = false then
        .error (.valueError "config-upgrade currently requires an exact schema_version 2 document")
      else if Yaml.keysAre legacySchema1Keys members = false then
        .error (.valueError "schema_version 2 configuration contains unknown or missing keys")
      else do
        let schedule <- validateBackupSchedule backupSchedule
        let bucket <- validateBucket backupBucket "backup bucket"
        let backup : BackupConfig := { schedule, bucket }
        let config <- DjangoOpsConfig.fromMapping python (.dict (Yaml.set "backup" backup.toMapping
          (Yaml.set "schema_version" (.int Cli.schemaVersion) members)))
        .ok (renderConfig python config)
  | some _ =>
      .error (.valueError "config-upgrade currently requires an exact schema_version 2 document")

end Cli
end DjangoOps
