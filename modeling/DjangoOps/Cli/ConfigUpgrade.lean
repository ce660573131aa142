import DjangoOps.Cli.ConfigRoundTrip

namespace DjangoOps
namespace Cli

/-!
# Upgraded configurations

What `from_mapping` reads of a document is what the document holds, so an
upgraded document holds the flags and the validated strings of the old one.
Every configuration that the program makes, an upgraded one among them, is read
back from its text.
-/

variable {Other : Type}

/-! ## What a mapping holds -/

/-- The sections of schema 2 hold these flags and these strings. -/
structure Holds (document : Yaml Other) (services : ServiceConfig) (arguments : Arguments) :
    Prop where
  name : Yaml.at? ["project", "name"] document = some (.str arguments.projectName)
  module : Yaml.at? ["django", "module"] document = some (.str arguments.djangoModule)
  postgres : Yaml.at? ["services", "postgres"] document = some (.bool services.postgres)
  redis : Yaml.at? ["services", "redis"] document = some (.bool services.redis)
  celery : Yaml.at? ["services", "celery"] document = some (.bool services.celery)
  celeryBeat : Yaml.at? ["services", "celery_beat"] document = some (.bool services.celeryBeat)
  hostname : Yaml.at? ["tls", "hostname"] document = some (.str arguments.hostname)
  acmeEmail : Yaml.at? ["tls", "acme_email"] document = some (.str arguments.acmeEmail)
  endpoint :
    Yaml.at? ["storage", "endpoint_url"] document = some (.str arguments.storageEndpointUrl)
  region : (Yaml.at? ["storage", "region"] document).getD .null =
    (arguments.storageRegion.map Yaml.str).getD .null
  staticBucket : Yaml.at? ["storage", "static_bucket"] document = some (.str arguments.staticBucket)
  mediaBucket : Yaml.at? ["storage", "media_bucket"] document = some (.str arguments.mediaBucket)

theorem requireMapping_ok {key field : String} {members inner : List (Yaml Other × Yaml Other)}
    (required : requireMapping field (item key members) = .ok inner) :
    Yaml.get key members = some (.dict inner) := by
  unfold item at required
  cases found : Yaml.get key members with
  | none =>
      rw [found] at required
      cases required
  | some value =>
      rw [found, Option.getD_some] at required
      cases value with
      | dict own => rw [(accept_ok required).2]
      | _ => cases required

theorem requireString_ok {key field text : String} {members : List (Yaml Other × Yaml Other)}
    (required : requireString field (item key members) = .ok text) :
    Yaml.get key members = some (.str text) := by
  unfold item at required
  cases found : Yaml.get key members with
  | none =>
      rw [found] at required
      cases required
  | some value =>
      rw [found, Option.getD_some] at required
      cases value with
      | str own => rw [Except.ok.inj required]
      | _ => cases required

theorem serviceValue_ok {key : String} {value : Bool} {members : List (Yaml Other × Yaml Other)}
    (read : serviceValue key members = .ok value) :
    Yaml.get key members = some (.bool value) := by
  unfold serviceValue item at read
  cases found : Yaml.get key members with
  | none =>
      rw [found] at read
      cases read
  | some own =>
      rw [found, Option.getD_some] at read
      cases own with
      | bool flag => rw [Except.ok.inj read]
      | _ => cases read

theorem regionValue_ok {value : Yaml Other} {region : Option String}
    (read : regionValue value = .ok region) : value = (region.map Yaml.str).getD .null := by
  cases value with
  | null =>
      rw [← Except.ok.inj read]
      rfl
  | str text =>
      rw [← Except.ok.inj read]
      rfl
  | _ => cases read

theorem at?_pair {first second : String} {members inner : List (Yaml Other × Yaml Other)}
    (found : Yaml.get first members = some (.dict inner)) :
    Yaml.at? [first, second] (.dict members) = Yaml.get second inner := by
  simp only [Yaml.at?, found, Option.bind_some]
  cases Yaml.get second inner with
  | none => rfl
  | some value => rfl

/-- What is read of a mapping is what it holds. -/
theorem holds_of_readMapping {members : List (Yaml Other × Yaml Other)}
    {read : ServiceConfig × Arguments} (done : readMapping members = .ok read) :
    Holds (.dict members) read.1 read.2 ∧
      Exists fun backup : List (Yaml Other × Yaml Other) =>
        Yaml.get "backup" members = some (.dict backup) ∧
        Yaml.get "schedule" backup = some (.str read.2.backupSchedule) ∧
        Yaml.get "bucket" backup = some (.str read.2.backupBucket) ∧
        Yaml.get "prefix" backup = some (.str read.2.backupPrefix) := by
  rcases bind_ok done with ⟨project, hasProject, done⟩
  rcases bind_ok done with ⟨django, hasDjango, done⟩
  rcases bind_ok done with ⟨services, hasServices, done⟩
  rcases bind_ok done with ⟨tls, hasTls, done⟩
  rcases bind_ok done with ⟨storage, hasStorage, done⟩
  rcases bind_ok done with ⟨backup, hasBackup, done⟩
  rcases bind_ok done with ⟨_, _, done⟩
  rcases bind_ok done with ⟨postgres, hasPostgres, done⟩
  rcases bind_ok done with ⟨redis, hasRedis, done⟩
  rcases bind_ok done with ⟨celery, hasCelery, done⟩
  rcases bind_ok done with ⟨celeryBeat, hasCeleryBeat, done⟩
  rcases bind_ok done with ⟨region, hasRegion, done⟩
  rcases bind_ok done with ⟨name, hasName, done⟩
  rcases bind_ok done with ⟨module, hasModule, done⟩
  rcases bind_ok done with ⟨hostname, hasHostname, done⟩
  rcases bind_ok done with ⟨acmeEmail, hasEmail, done⟩
  rcases bind_ok done with ⟨endpoint, hasEndpoint, done⟩
  rcases bind_ok done with ⟨staticBucket, hasStatic, done⟩
  rcases bind_ok done with ⟨mediaBucket, hasMedia, done⟩
  rcases bind_ok done with ⟨schedule, hasSchedule, done⟩
  rcases bind_ok done with ⟨bucket, hasBucket, done⟩
  rcases bind_ok done with ⟨backupPrefix, hasPrefix, done⟩
  have same := Except.ok.inj done
  subst same
  have inProject := fun key => @at?_pair Other "project" key members _ (requireMapping_ok hasProject)
  have inDjango := fun key => @at?_pair Other "django" key members _ (requireMapping_ok hasDjango)
  have inServices :=
    fun key => @at?_pair Other "services" key members _ (requireMapping_ok hasServices)
  have inTls := fun key => @at?_pair Other "tls" key members _ (requireMapping_ok hasTls)
  have inStorage := fun key => @at?_pair Other "storage" key members _ (requireMapping_ok hasStorage)
  refine ⟨?_, backup, requireMapping_ok hasBackup, requireString_ok hasSchedule,
    requireString_ok hasBucket, requireString_ok hasPrefix⟩
  exact {
    name := (inProject _).trans (requireString_ok hasName)
    module := (inDjango _).trans (requireString_ok hasModule)
    postgres := (inServices _).trans (serviceValue_ok hasPostgres)
    redis := (inServices _).trans (serviceValue_ok hasRedis)
    celery := (inServices _).trans (serviceValue_ok hasCelery)
    celeryBeat := (inServices _).trans (serviceValue_ok hasCeleryBeat)
    hostname := (inTls _).trans (requireString_ok hasHostname)
    acmeEmail := (inTls _).trans (requireString_ok hasEmail)
    endpoint := (inStorage _).trans (requireString_ok hasEndpoint)
    region := (congrArg (fun found => found.getD .null) (inStorage _)).trans
      (regionValue_ok hasRegion)
    staticBucket := (inStorage _).trans (requireString_ok hasStatic)
    mediaBucket := (inStorage _).trans (requireString_ok hasMedia) }

/-- A section is found below another key that has been written. -/
theorem at?_set {first second key : String} (different : first ≠ key) (value : Yaml Other)
    (members : List (Yaml Other × Yaml Other)) :
    Yaml.at? [first, second] (.dict (Yaml.set key value members)) =
      Yaml.at? [first, second] (.dict members) := by
  simp only [Yaml.at?, Yaml.get_set_ne different]

/-- What a document holds does not depend on its version and its backup section. -/
theorem Holds.of_set {key : String} {value : Yaml Other}
    {members : List (Yaml Other × Yaml Other)} {services : ServiceConfig} {arguments : Arguments}
    (fresh : forall name, name ∈ ["project", "django", "services", "tls", "storage"] -> name ≠ key)
    (holds : Holds (.dict (Yaml.set key value members)) services arguments) :
    Holds (.dict members) services arguments := by
  have below := fun first second (listed : first ∈ _) =>
    @at?_set Other first second key (fresh first listed) value members
  exact {
    name := (below _ _ (by decide)).symm.trans holds.name
    module := (below _ _ (by decide)).symm.trans holds.module
    postgres := (below _ _ (by decide)).symm.trans holds.postgres
    redis := (below _ _ (by decide)).symm.trans holds.redis
    celery := (below _ _ (by decide)).symm.trans holds.celery
    celeryBeat := (below _ _ (by decide)).symm.trans holds.celeryBeat
    hostname := (below _ _ (by decide)).symm.trans holds.hostname
    acmeEmail := (below _ _ (by decide)).symm.trans holds.acmeEmail
    endpoint := (below _ _ (by decide)).symm.trans holds.endpoint
    region := by
      rw [← below _ _ (by decide)]
      exact holds.region
    staticBucket := (below _ _ (by decide)).symm.trans holds.staticBucket
    mediaBucket := (below _ _ (by decide)).symm.trans holds.mediaBucket }

/-! ## Where configurations come from -/

theorem fromSchema3_ok {python : Python Other} {members : List (Yaml Other × Yaml Other)}
    {config : DjangoOpsConfig} (made : fromSchema3 python members = .ok config) :
    Exists fun read : ServiceConfig × Arguments => readMapping members = .ok read ∧
      DjangoOpsConfig.make python read.1 read.2 = .ok config := by
  rcases bind_ok made with ⟨checked, kept, made⟩
  have same := (accept_ok kept).2
  subst same
  exact bind_ok made

theorem fromMapping_ok {python : Python Other} {value : Yaml Other} {config : DjangoOpsConfig}
    (made : DjangoOpsConfig.fromMapping python value = .ok config) :
    Exists fun members : List (Yaml Other × Yaml Other) =>
      fromSchema3 python members = .ok config := by
  cases value with
  | dict members =>
      rw [DjangoOpsConfig.fromMapping] at made
      split at made
      · cases made
      · split at made
        · split at made
          · cases made
          · exact ⟨_, made⟩
        · split at made
          · cases made
          · split at made
            · cases made
            · exact ⟨_, made⟩
  | _ => cases made

/-- The configurations that the program makes: of its arguments, of a document that it
reads, or of the text of an upgrade. -/
inductive Produced (python : Python Other) (config : DjangoOpsConfig) : Prop
  | create (arguments : Arguments)
      (made : DjangoOpsConfig.create python arguments = .ok config) : Produced python config
  | fromMapping (value : Yaml Other)
      (made : DjangoOpsConfig.fromMapping python value = .ok config) : Produced python config
  | upgrade (text backupBucket backupSchedule rendered : String)
      (upgraded : upgradeConfig python text backupBucket backupSchedule = .ok rendered)
      (parsed : parseConfig python rendered = .ok config) : Produced python config

theorem Produced.validated {python : Python Other} {config : DjangoOpsConfig}
    (produced : Produced python config) : Validated python config.arguments config := by
  have ofMapping : forall value : Yaml Other,
      DjangoOpsConfig.fromMapping python value = .ok config ->
        Validated python config.arguments config := by
    intro value made
    rcases fromMapping_ok made with ⟨members, read⟩
    rcases fromSchema3_ok read with ⟨_, _, finished⟩
    exact (make_ok finished).2.again
  cases produced with
  | create arguments made => exact (make_ok made).2.again
  | fromMapping value made => exact ofMapping value made
  | upgrade text backupBucket backupSchedule rendered upgraded parsed =>
      unfold parseConfig at parsed
      split at parsed
      · cases parsed
      · exact ofMapping _ parsed

/-- The configuration that an upgrade writes: the flags and the validated
strings of the old document, and the backup section of the arguments. -/
structure Upgraded (python : Python Other) (document : Yaml Other)
    (backupBucket backupSchedule : String) (config : DjangoOpsConfig) : Prop where
  kept : Exists fun arguments : Arguments => Holds document config.services arguments ∧
    Validated python arguments config
  schedule : validateBackupSchedule backupSchedule = .ok config.backup.schedule
  bucket : validateBucket backupBucket "backup bucket" = .ok config.backup.bucket
  backupPrefix : config.backup.backupPrefix = "djangoops-backups"

theorem upgraded_of_upgradeConfig {python : Python Other} (inverts : python.yaml.Inverts)
    {text backupBucket backupSchedule rendered : String}
    (upgraded : upgradeConfig python text backupBucket backupSchedule = .ok rendered) :
    Exists fun document : Yaml Other => Exists fun config : DjangoOpsConfig =>
      python.yaml.load text = some document ∧ parseConfig python rendered = .ok config ∧
        Upgraded python document backupBucket backupSchedule config := by
  unfold upgradeConfig at upgraded
  split at upgraded
  · cases upgraded
  · rename_i members loaded
    split at upgraded
    · cases upgraded
    · split at upgraded
      · cases upgraded
      · rcases bind_ok upgraded with ⟨schedule, validSchedule, upgraded⟩
        rcases bind_ok upgraded with ⟨bucket, validBucket, upgraded⟩
        rcases bind_ok upgraded with ⟨config, made, upgraded⟩
        have written := Except.ok.inj upgraded
        have version : Yaml.get "schema_version" (Yaml.set "backup"
            (BackupConfig.toMapping { schedule, bucket } : Yaml Other)
            (Yaml.set "schema_version" (.int schemaVersion) members)) =
              some (.int schemaVersion) :=
          (Yaml.get_set_ne (by decide) _ _).trans (Yaml.get_set_self _ _ _)
        simp only [DjangoOpsConfig.fromMapping, version] at made
        change fromSchema3 python _ = .ok config at made
        rcases fromSchema3_ok made with ⟨read, done, finished⟩
        have facts := make_ok finished
        rcases holds_of_readMapping done with ⟨holds, backup, stored, atSchedule, atBucket, atPrefix⟩
        rw [Yaml.get_set_self] at stored
        have sameBackup := Yaml.dict.inj (Option.some.inj stored)
        rw [← sameBackup] at atSchedule atBucket atPrefix
        have sameSchedule : schedule = read.2.backupSchedule :=
          Yaml.str.inj (Option.some.inj atSchedule)
        have sameBucket : bucket = read.2.backupBucket := Yaml.str.inj (Option.some.inj atBucket)
        have samePrefix : "djangoops-backups" = read.2.backupPrefix :=
          Yaml.str.inj (Option.some.inj atPrefix)
        refine ⟨_, config, loaded, ?_, ⟨read.2, ?_, facts.2⟩, ?_, ?_, ?_⟩
        · rw [← written]
          exact parseConfig_of_plain inverts facts.2.again
        · rw [facts.1]
          exact (holds.of_set (by decide)).of_set (by decide)
        · have again := validateBackupSchedule_again validSchedule
          rw [sameSchedule, facts.2.schedule] at again
          rw [validSchedule, sameSchedule, Except.ok.inj again]
        · have again := validateBucket_again validBucket
          rw [sameBucket, facts.2.bucket] at again
          rw [validBucket, sameBucket, Except.ok.inj again]
        · have kept := (accept_ok facts.2.backupPrefix).2
          rw [← kept, samePrefix]
  · cases upgraded

/-! ## A document of each kind -/

def lines (texts : List String) : String :=
  String.ofList (texts.flatMap fun text => text.toList ++ ['\n'])

def sampleConfig : DjangoOpsConfig where
  schemaVersion := 3
  project := { name := "sample-app" }
  django := { module := "config.settings" }
  services := {}
  tls := { hostname := "app.example.com", acmeEmail := "ops@example.com" }
  storage :=
    { endpointUrl := "https://objects.example.com", region := some "eu-west-1"
      staticBucket := "sample-static", mediaBucket := "sample-media" }
  backup := { schedule := "17 2 * * *", bucket := "sample-backups" }

def sampleIntegrations : List IntegrationConfig :=
  [{ name := "django-runtime", version := "v1", enabled := true
     capabilities := ["metadata", "health"]
     config := [("health_path", "/healthz"), ("metadata_label", "django")] }]

def sampleSections : List String :=
  ["project:", "  name: sample-app", "django:", "  module: config.settings", "services:",
    "  postgres: true", "  redis: true", "  celery: true", "  celery_beat: true", "tls:"]

/-- The configuration as the dumper writes it. -/
def sampleCore : List String :=
  ["schema_version: 3"] ++ sampleSections ++
    ["  hostname: app.example.com", "  acme_email: ops@example.com", "storage:",
      "  endpoint_url: https://objects.example.com", "  region: eu-west-1",
      "  static_bucket: sample-static", "  media_bucket: sample-media", "backup:",
      "  schedule: 17 2 * * *", "  bucket: sample-backups", "  prefix: djangoops-backups"]

def sampleSection : List String :=
  ["integrations:", "- name: django-runtime", "  version: v1", "  enabled: true",
    "  capabilities:", "  - metadata", "  - health", "  config:", "    health_path: /healthz",
    "    metadata_label: django"]

/-- A document of schema 2 whose hostname and endpoint are not normalised. -/
def sampleOld : List String :=
  ["schema_version: 2"] ++ sampleSections ++
    ["  hostname: App.Example.com.", "  acme_email: ops@example.com", "storage:",
      "  endpoint_url: https://objects.example.com/", "  region: eu-west-1",
      "  static_bucket: sample-static", "  media_bucket: sample-media"]

def sampleOldMembers : List (Yaml Empty × Yaml Empty) :=
  Yaml.record [("schema_version", .int 2),
    ("project", .dict (Yaml.record [("name", .str "sample-app")])),
    ("django", .dict (Yaml.record [("module", .str "config.settings")])),
    ("services", sampleConfig.services.toMapping),
    ("tls", .dict (Yaml.record [("hostname", .str "App.Example.com."),
      ("acme_email", .str "ops@example.com")])),
    ("storage", { sampleConfig.storage with
      endpointUrl := "https://objects.example.com/" }.toMapping)]

def sampleOldDocument : Yaml Empty := .dict sampleOldMembers

/-- Each document with its block text. -/
def sampleStyles : List (Yaml Empty × String) :=
  [(.dict (Yaml.record sampleConfig.toMapping), lines sampleCore),
    (.dict (Yaml.record (projectMapping sampleConfig sampleIntegrations)),
      lines (sampleCore ++ sampleSection)),
    (sampleOldDocument, lines sampleOld)]

/-- Python with a YAML library that writes the three documents in block style. -/
def samplePython : Python Empty where
  yaml := Yaml.Library.flow.restyled sampleStyles
  equals := fun impossible => nomatch impossible
  repr := fun _ => ""
  isWord := fun char => char.isAlphanum || char == '_'
  url :=
    { unbalanced := .valueError "Invalid IPv6 URL"
      bracketed := fun _ => .ok (), normalised := fun _ => .ok () }

theorem sampleStyles_plain : forall style, style ∈ sampleStyles -> Yaml.Plain style.1 := by
  have core := @plain_projectMapping Empty sampleConfig [] (List.forall_mem_nil _)
  have project := @plain_projectMapping Empty sampleConfig sampleIntegrations (by decide)
  have old : Yaml.Plain sampleOldDocument := by
    refine .dict _ ?_ ?_
    · change legacySchema1Keys.Nodup
      decide
    · simp only [List.forall_mem_cons]
      exact ⟨.int 2, plain_strings [("name", "sample-app")] (by decide),
        plain_strings [("module", "config.settings")] (by decide), plain_services _,
        plain_strings [("hostname", "App.Example.com."), ("acme_email", "ops@example.com")]
          (by decide), plain_storage _, List.forall_mem_nil _⟩
  unfold sampleStyles
  simp only [List.forall_mem_cons]
  exact ⟨core, project, old, List.forall_mem_nil _⟩

/-- A text that starts with the letter of a first key is no flow text. -/
theorem flow_load_letter (rest : List Char) :
    (Yaml.Library.flow : Yaml.Library Empty).load (String.ofList ('s' :: rest)) = none := by
  unfold Yaml.Library.flow Json.loads
  dsimp only
  rw [String.toList_ofList]
  rfl

theorem sampleStyles_fresh : forall style, style ∈ sampleStyles ->
    (Yaml.Library.flow : Yaml.Library Empty).load style.2 = none := by
  unfold sampleStyles
  simp only [List.forall_mem_cons]
  exact ⟨flow_load_letter _, flow_load_letter _, flow_load_letter _, List.forall_mem_nil _⟩

theorem samplePython_yaml : samplePython.yaml = Yaml.Library.flow.restyled sampleStyles := rfl

theorem samplePython_inverts : samplePython.yaml.Inverts := by
  have texts : (sampleStyles.map Prod.snd).Nodup := by
    apply List.Nodup.of_map String.length
    unfold sampleStyles lines
    simp only [List.map_cons, List.map_nil, String.length_ofList]
    decide +kernel
  rw [samplePython_yaml]
  exact Yaml.flow_inverts.restyled sampleStyles_plain texts sampleStyles_fresh

/-- The number of sections tells the sample documents apart. -/
def sampleWidth : Yaml Empty -> Nat
  | .dict members => members.length
  | _ => 0

theorem dump_sample {document : Yaml Empty} {text : String}
    (member : (document, text) ∈ sampleStyles) : samplePython.yaml.dump document = text := by
  have documents : (sampleStyles.map Prod.fst).Nodup := by
    apply List.Nodup.of_map sampleWidth
    change ([7, 8, 6] : List Nat).Nodup
    decide
  rw [samplePython_yaml]
  exact Yaml.flow_inverts.dump_restyled sampleStyles_plain documents member

theorem sampleConfig_created : DjangoOpsConfig.create samplePython
    { projectName := "sample-app", djangoModule := "config.settings", hostname := "app.example.com"
      storageEndpointUrl := "https://objects.example.com/", storageRegion := some "eu-west-1"
      staticBucket := "sample-static", mediaBucket := "sample-media"
      backupBucket := "sample-backups" } = .ok sampleConfig := by
  rfl

theorem sampleIntegrations_parsed : parseIntegrations samplePython
    (.list [.dict (Yaml.record [("name", .str "django-runtime"), ("version", .str "v1"),
      ("enabled", .bool true), ("capabilities", .list [.str "metadata", .str "health"]),
      ("config", .dict (Yaml.record []))])]) = .ok sampleIntegrations := by
  rfl

theorem load_sampleOld : samplePython.yaml.load (lines sampleOld) = some sampleOldDocument := by
  have listed : (sampleOldDocument, lines sampleOld) ∈ sampleStyles := by
    unfold sampleStyles
    exact List.mem_cons_of_mem _ (List.mem_cons_of_mem _ List.mem_cons_self)
  have text : samplePython.yaml.dump sampleOldDocument = lines sampleOld := dump_sample listed
  rw [← text]
  exact samplePython_inverts _ (sampleStyles_plain _ listed)

theorem render_sampleConfig : renderConfig samplePython sampleConfig = lines sampleCore := by
  have listed : (.dict (Yaml.record sampleConfig.toMapping), lines sampleCore) ∈ sampleStyles := by
    unfold sampleStyles
    exact List.mem_cons_self
  have text := dump_sample listed
  rw [renderConfig]
  exact text

theorem render_sampleProject : renderProjectConfig samplePython sampleConfig sampleIntegrations =
    lines (sampleCore ++ sampleSection) := by
  have listed : (.dict (Yaml.record (projectMapping sampleConfig sampleIntegrations)),
      lines (sampleCore ++ sampleSection)) ∈ sampleStyles := by
    unfold sampleStyles
    exact List.mem_cons_of_mem _ List.mem_cons_self
  have text := dump_sample listed
  rw [renderProjectConfig]
  exact text

/-- The hostname and the endpoint lose their ends, the schedule a blank. -/
theorem sampleOld_upgraded : upgradeConfig samplePython (lines sampleOld) "sample-backups"
    "17  2 * * *" = .ok (lines sampleCore) := by
  have made : DjangoOpsConfig.fromMapping samplePython (.dict (Yaml.set "backup"
      (BackupConfig.toMapping { schedule := "17 2 * * *", bucket := "sample-backups" })
      (Yaml.set "schema_version" (.int schemaVersion) sampleOldMembers))) = .ok sampleConfig := by
    rfl
  have version : samplePython.equalsInt (item "schema_version" sampleOldMembers) 2 = true := rfl
  have keys : Yaml.keysAre legacySchema1Keys sampleOldMembers = true := rfl
  have schedule : validateBackupSchedule "17  2 * * *" = .ok "17 2 * * *" := rfl
  have bucket : validateBucket "sample-backups" "backup bucket" = .ok "sample-backups" := rfl
  rw [upgradeConfig, load_sampleOld, sampleOldDocument]
  dsimp only
  rw [version, keys, if_neg Bool.true_eq_false.mp, if_neg Bool.true_eq_false.mp,
    bind_of schedule, bind_of bucket, bind_of made, render_sampleConfig]

/-! ## The round trip -/

/-- A rendered document returns its configuration and its integrations, and is
rendered alike again; an upgraded one returns the flags and the validated strings
of the document that it replaces, and the backup section that was asked for.  Of
the YAML library it is assumed that it reads back what it has written. -/
theorem config_round_trip (python : Python Other) (inverts : python.yaml.Inverts) :
    (forall (config : DjangoOpsConfig) (integrations : List IntegrationConfig) (value : Yaml Other),
      Produced python config -> parseIntegrations python value = .ok integrations ->
        parseProjectConfig python (renderProjectConfig python config integrations) =
            .ok (config, integrations) ∧
          forall again, parseProjectConfig python
              (renderProjectConfig python config integrations) = .ok again ->
            renderProjectConfig python again.1 again.2 =
              renderProjectConfig python config integrations) ∧
      forall text backupBucket backupSchedule rendered,
        upgradeConfig python text backupBucket backupSchedule = .ok rendered ->
          Exists fun document : Yaml Other => Exists fun config : DjangoOpsConfig =>
            python.yaml.load text = some document ∧ parseConfig python rendered = .ok config ∧
              Upgraded python document backupBucket backupSchedule config := by
  constructor
  · intro config integrations value produced parsed
    have back := parseProjectConfig_render inverts produced.validated parsed
    refine ⟨back, ?_⟩
    intro again same
    rw [back] at same
    rw [← Except.ok.inj same]
  · intro text backupBucket backupSchedule rendered upgraded
    exact upgraded_of_upgradeConfig inverts upgraded

theorem config_round_trip_sample :
    parseProjectConfig samplePython (lines (sampleCore ++ sampleSection)) =
        .ok (sampleConfig, sampleIntegrations) ∧
      Exists fun document : Yaml Empty => Exists fun config : DjangoOpsConfig =>
        samplePython.yaml.load (lines sampleOld) = some document ∧
          parseConfig samplePython (lines sampleCore) = .ok config ∧
            Upgraded samplePython document "sample-backups" "17  2 * * *" config := by
  have both := config_round_trip samplePython samplePython_inverts
  constructor
  · rw [← render_sampleProject]
    exact (both.1 sampleConfig sampleIntegrations _ (.create _ sampleConfig_created)
      sampleIntegrations_parsed).1
  · exact both.2 _ _ _ _ sampleOld_upgraded

end Cli
end DjangoOps
