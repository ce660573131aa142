import DjangoOps.Cli.IntegrationRoundTrip

namespace DjangoOps
namespace Cli

/-!
# Configurations as text

A configuration that has been validated is read back from its mapping, and so
is every tuple of integrations that has been parsed.  With a YAML library that
inverts its own dumper on plain data the rendered document returns both.
-/

variable {Other : Type}

/-! ## Validated configurations -/

/-- The configuration holds the arguments as the validators return them. -/
structure Validated (python : Python Other) (arguments : Arguments) (config : DjangoOpsConfig) :
    Prop where
  schema : config.schemaVersion = schemaVersion
  name : validateProjectName arguments.projectName = .ok config.project.name
  module : validateDjangoModule python arguments.djangoModule = .ok config.django.module
  hostname : validateHostname arguments.hostname = .ok config.tls.hostname
  acmeEmail : validateEmail arguments.acmeEmail = .ok config.tls.acmeEmail
  endpoint :
    validateStorageEndpoint python arguments.storageEndpointUrl = .ok config.storage.endpointUrl
  region : validateRegion arguments.storageRegion = .ok config.storage.region
  staticBucket :
    validateBucket arguments.staticBucket "static bucket" = .ok config.storage.staticBucket
  mediaBucket : validateBucket arguments.mediaBucket "media bucket" = .ok config.storage.mediaBucket
  schedule : validateBackupSchedule arguments.backupSchedule = .ok config.backup.schedule
  bucket : validateBucket arguments.backupBucket "backup bucket" = .ok config.backup.bucket
  backupPrefix : validateBackupPrefix arguments.backupPrefix = .ok config.backup.backupPrefix

theorem make_ok {python : Python Other} {services : ServiceConfig} {arguments : Arguments}
    {config : DjangoOpsConfig} (made : DjangoOpsConfig.make python services arguments = .ok config) :
    config.services = services ∧ Validated python arguments config := by
  rcases bind_ok made with ⟨name, validName, made⟩
  rcases bind_ok made with ⟨module, validModule, made⟩
  rcases bind_ok made with ⟨hostname, validHostname, made⟩
  rcases bind_ok made with ⟨acmeEmail, validEmail, made⟩
  rcases bind_ok made with ⟨endpoint, validEndpoint, made⟩
  rcases bind_ok made with ⟨region, validRegion, made⟩
  rcases bind_ok made with ⟨staticBucket, validStatic, made⟩
  rcases bind_ok made with ⟨mediaBucket, validMedia, made⟩
  rcases bind_ok made with ⟨schedule, validSchedule, made⟩
  rcases bind_ok made with ⟨bucket, validBucket, made⟩
  rcases bind_ok made with ⟨backupPrefix, validPrefix, made⟩
  have same := Except.ok.inj made
  subst same
  exact ⟨rfl, rfl, validName, validModule, validHostname, validEmail, validEndpoint, validRegion,
    validStatic, validMedia, validSchedule, validBucket, validPrefix⟩

theorem make_of_validated {python : Python Other} {arguments : Arguments}
    {config : DjangoOpsConfig} (valid : Validated python arguments config) :
    DjangoOpsConfig.make python config.services arguments = .ok config := by
  unfold DjangoOpsConfig.make
  rw [valid.name, valid.module, valid.hostname, valid.acmeEmail, valid.endpoint, valid.region,
    valid.staticBucket, valid.mediaBucket, valid.schedule, valid.bucket, valid.backupPrefix,
    ← valid.schema]
  rfl

/-- The arguments that a configuration stands for. -/
def DjangoOpsConfig.arguments (config : DjangoOpsConfig) : Arguments where
  projectName := config.project.name
  djangoModule := config.django.module
  hostname := config.tls.hostname
  acmeEmail := config.tls.acmeEmail
  storageEndpointUrl := config.storage.endpointUrl
  storageRegion := config.storage.region
  staticBucket := config.storage.staticBucket
  mediaBucket := config.storage.mediaBucket
  backupSchedule := config.backup.schedule
  backupBucket := config.backup.bucket
  backupPrefix := config.backup.backupPrefix

/-- What has been validated once is valid as it stands. -/
theorem Validated.again {python : Python Other} {arguments : Arguments} {config : DjangoOpsConfig}
    (valid : Validated python arguments config) : Validated python config.arguments config where
  schema := valid.schema
  name := validateProjectName_again valid.name
  module := validateDjangoModule_again valid.module
  hostname := validateHostname_again valid.hostname
  acmeEmail := validateEmail_again valid.acmeEmail
  endpoint := validateStorageEndpoint_again valid.endpoint
  region := validateRegion_again valid.region
  staticBucket := validateBucket_again valid.staticBucket
  mediaBucket := validateBucket_again valid.mediaBucket
  schedule := validateBackupSchedule_again valid.schedule
  bucket := validateBucket_again valid.bucket
  backupPrefix := validateBackupPrefix_again valid.backupPrefix

/-! ## Mappings -/

theorem readMapping_toMapping (config : DjangoOpsConfig) :
    readMapping (Yaml.record config.toMapping : List (Yaml Other × Yaml Other)) =
      .ok (config.services, config.arguments) := by
  rcases config with ⟨_, _, _, _, _, ⟨_, region, _, _⟩, _⟩
  cases region with
  | none => rfl
  | some region => rfl

theorem fromMapping_toMapping {python : Python Other} {config : DjangoOpsConfig}
    (valid : Validated python config.arguments config) :
    DjangoOpsConfig.fromMapping python (.dict (Yaml.record config.toMapping)) = .ok config := by
  have read := @readMapping_toMapping Other config
  have made := make_of_validated valid
  have keys : Yaml.keysAre schema3Keys
      (Yaml.record config.toMapping : List (Yaml Other × Yaml Other)) = true := rfl
  have version : Yaml.get "schema_version"
      (Yaml.record config.toMapping : List (Yaml Other × Yaml Other)) =
        some (.int schemaVersion) := by
    rw [← valid.schema]
    rfl
  simp only [DjangoOpsConfig.fromMapping, version]
  change fromSchema3 python (Yaml.record config.toMapping) = .ok config
  unfold fromSchema3
  rw [accept_of keys]
  change (readMapping (Yaml.record config.toMapping) >>= fun read =>
    DjangoOpsConfig.make python read.1 read.2) = .ok config
  rw [read]
  exact made

/-! ## Plain data -/

theorem plain_strings (fields : List (String × String)) (keys : (fields.map Prod.fst).Nodup) :
    Yaml.Plain (.dict (Yaml.record (fields.map fun field => (field.1, Yaml.str field.2))) :
      Yaml Other) := by
  refine .dict _ ?_ ?_
  · rw [List.map_map]
    exact keys
  · intro member listed
    rcases List.mem_map.mp listed with ⟨field, _, rfl⟩
    exact .str field.2

theorem plain_services (services : ServiceConfig) :
    Yaml.Plain (services.toMapping : Yaml Other) := by
  refine .dict _ ?_ ?_
  · change (["postgres", "redis", "celery", "celery_beat"] : List String).Nodup
    decide
  · simp only [List.forall_mem_cons]
    exact ⟨.bool _, .bool _, .bool _, .bool _, List.forall_mem_nil _⟩

theorem plain_storage (storage : StorageConfig) :
    Yaml.Plain (storage.toMapping : Yaml Other) := by
  have region : Yaml.Plain ((storage.region.map Yaml.str).getD .null : Yaml Other) := by
    cases storage.region with
    | none => exact .null
    | some region => exact .str region
  refine .dict _ ?_ ?_
  · change (["endpoint_url", "region", "static_bucket", "media_bucket"] : List String).Nodup
    decide
  · simp only [List.forall_mem_cons]
    exact ⟨.str _, region, .str _, .str _, List.forall_mem_nil _⟩

theorem plain_toMapping (config : DjangoOpsConfig) : forall member,
    member ∈ (config.toMapping : List (String × Yaml Other)) -> Yaml.Plain member.2 := by
  unfold DjangoOpsConfig.toMapping
  simp only [List.forall_mem_cons]
  refine ⟨.int _, plain_strings [("name", _)] ?_, plain_strings [("module", _)] ?_,
    plain_services _, plain_strings [("hostname", _), ("acme_email", _)] ?_, plain_storage _,
    plain_strings [("schedule", _), ("bucket", _), ("prefix", _)] ?_, List.forall_mem_nil _⟩
  · exact List.nodup_singleton _
  · exact List.nodup_singleton _
  · change (["hostname", "acme_email"] : List String).Nodup
    decide
  · change (["schedule", "bucket", "prefix"] : List String).Nodup
    decide

theorem plain_integration {integration : IntegrationConfig}
    (keys : (integration.config.map Prod.fst).Nodup) :
    Yaml.Plain (integration.toMapping : Yaml Other) := by
  refine .dict _ ?_ ?_
  · change entryKeys.Nodup
    decide
  · simp only [List.forall_mem_cons]
    refine ⟨.str _, .str _, .bool _, .list _ ?_, plain_strings _ keys, List.forall_mem_nil _⟩
    intro element member
    rcases List.mem_map.mp member with ⟨name, _, rfl⟩
    exact .str name

theorem plain_projectMapping (config : DjangoOpsConfig) {integrations : List IntegrationConfig}
    (keys : forall integration, integration ∈ integrations ->
      (integration.config.map Prod.fst).Nodup) :
    Yaml.Plain (.dict (Yaml.record (projectMapping config integrations)) : Yaml Other) := by
  unfold projectMapping
  by_cases none : integrations = []
  · rw [if_pos none]
    refine .dict _ ?_ (plain_toMapping config)
    change schema3Keys.Nodup
    decide
  · rw [if_neg none]
    refine .dict _ ?_ ?_
    · change (schema3Keys ++ ["integrations"]).Nodup
      decide
    · intro member listed
      rcases List.mem_append.mp listed with core | extra
      · exact plain_toMapping config member core
      · rw [List.mem_singleton.mp extra]
        refine .list _ ?_
        intro element inner
        rcases List.mem_map.mp inner with ⟨integration, parsed, rfl⟩
        exact plain_integration (keys integration parsed)

/-! ## Documents -/

theorem parseConfig_of_plain {python : Python Other} (inverts : python.yaml.Inverts)
    {config : DjangoOpsConfig} (valid : Validated python config.arguments config) :
    parseConfig python (renderConfig python config) = .ok config := by
  have plain := @plain_projectMapping Other config [] (by intro _ member; cases member)
  unfold parseConfig renderConfig
  rw [show python.yaml.load (python.yaml.dump (.dict (Yaml.record config.toMapping))) =
    some (.dict (Yaml.record config.toMapping)) from inverts _ plain]
  exact fromMapping_toMapping valid

theorem parseProjectConfig_render {python : Python Other} (inverts : python.yaml.Inverts)
    {config : DjangoOpsConfig} (valid : Validated python config.arguments config)
    {integrations : List IntegrationConfig} {value : Yaml Other}
    (parsed : parseIntegrations python value = .ok integrations) :
    parseProjectConfig python (renderProjectConfig python config integrations) =
      .ok (config, integrations) := by
  have plain := @plain_projectMapping Other config integrations (keys_parseIntegrations parsed)
  have core := parseConfig_of_plain inverts valid
  have parsedAgain : parseIntegrations python
      (item "integrations" (Yaml.record (projectMapping config integrations))) =
        .ok integrations := by
    cases integrations with
    | nil => rfl
    | cons first others => exact parseIntegrations_again parsed
  have erased : Yaml.erase "integrations" (Yaml.record (projectMapping config integrations)) =
      (Yaml.record config.toMapping : List (Yaml Other × Yaml Other)) := by
    cases integrations with
    | nil => rfl
    | cons first others => rfl
  have strings := Yaml.stringKeys_record
    (projectMapping config integrations : List (String × Yaml Other))
  unfold parseProjectConfig renderProjectConfig
  rw [inverts _ plain]
  dsimp only
  rw [strings, if_neg Bool.true_eq_false.mp, bind_of parsedAgain, erased]
  exact bind_of core

end Cli
end DjangoOps
