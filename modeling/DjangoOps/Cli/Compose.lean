import DjangoOps.Cli.ConfigUpgrade
import DjangoOps.Foundation.Interpolation

namespace DjangoOps
namespace Cli

open Interpolation (Key lookup interpolate interpolateDocument inert Environment)

/-!
# The Compose file

`render_compose` builds one document out of a configuration and its
integrations.  Compose reads its strings as templates, which is how the file
refers to the runtime secrets of the host; the configured values stand in the
same strings.
-/

variable {Other : Type}

def postgresImage : String := "postgres:16"
def redisImage : String := "redis:7-alpine"
def traefikImage : String := "traefik:v3.7.1"
def restartPolicy : String := "unless-stopped"

/-- A dictionary with string keys. -/
def mapping (members : List (String × Yaml Other)) : Yaml Other := .dict (Yaml.record members)

def strings (texts : List String) : Yaml Other := .list (texts.map .str)

def appEnvFile : Yaml Other := strings [".env"]
def appBuild : Yaml Other := mapping [("context", .str ".")]

/-- A reference of the file itself to a variable of the host. -/
def hostVariable (inside : String) : String := "$\x7b" ++ inside ++ "\x7d"

/-- `config[key]`; parsing has put the keys of the integration in place. -/
def IntegrationConfig.value (integration : IntegrationConfig) (key : String) : String :=
  (Dictionary.get key integration.config).getD ""

/-- `_integration` -/
def integration? (integrations : List IntegrationConfig) (name : String) :
    Option IntegrationConfig :=
  integrations.find? fun item => decide (item.name = name)

/-- An integration that is switched on. -/
def enabled? (integrations : List IntegrationConfig) (name : String) : Option IntegrationConfig :=
  (integration? integrations name).bind fun item => if item.enabled then some item else none

section Render

variable (config : DjangoOpsConfig) (integrations : List IntegrationConfig)

/-- `_django_project_module` -/
def djangoProjectModule : String :=
  let module := config.django.module
  if ".settings".toList.isSuffixOf module.toList then
    String.ofList (module.toList.take (module.toList.length - ".settings".toList.length))
  else module

/-- `_infrastructure_dependencies`, for the key that it has when there are any. -/
def dependsOn : List (String × Yaml Other) :=
  let healthy : Yaml Other := mapping [("condition", .str "service_healthy")]
  let dependencies :=
    (if config.services.postgres then [("postgres", healthy)] else []) ++
      (if config.services.redis then [("redis", healthy)] else [])
  if dependencies.isEmpty then [] else [("depends_on", mapping dependencies)]

/-- `_storage_environment` -/
def storageEnvironment : List (String × String) :=
  [("DJANGOOPS_S3_ENDPOINT_URL", config.storage.endpointUrl),
    ("DJANGOOPS_S3_STATIC_BUCKET", config.storage.staticBucket),
    ("DJANGOOPS_S3_MEDIA_BUCKET", config.storage.mediaBucket),
    ("AWS_ACCESS_KEY_ID", hostVariable "AWS_ACCESS_KEY_ID:?AWS_ACCESS_KEY_ID must be set"),
    ("AWS_SECRET_ACCESS_KEY",
      hostVariable "AWS_SECRET_ACCESS_KEY:?AWS_SECRET_ACCESS_KEY must be set")] ++
    match config.storage.region with
    | some region => [("AWS_REGION", region)]
    | none => []

/-- What `_application_environment` writes about telemetry: whether the SDK is
disabled, the endpoint and the namespace. -/
def telemetry : String × String × String :=
  match integration? integrations "otlp-export" with
  | none =>
      (hostVariable "OTEL_SDK_DISABLED:-true", hostVariable "OTEL_EXPORTER_OTLP_ENDPOINT:-",
        "djangoops")
  | some otlp =>
      if otlp.enabled then ("false", otlp.value "endpoint", otlp.value "service_namespace")
      else ("true", "", "djangoops")

/-- `_application_environment`; the keys of the two parts are different. -/
def applicationEnvironment (component : String) : List (String × String) :=
  storageEnvironment config ++
    [("OTEL_SDK_DISABLED", (telemetry integrations).1),
      ("OTEL_EXPORTER_OTLP_ENDPOINT", (telemetry integrations).2.1),
      ("OTEL_SERVICE_NAME", config.project.name ++ "-" ++ component),
      ("OTEL_RESOURCE_ATTRIBUTES", "service.namespace=" ++ (telemetry integrations).2.2 ++
        ",djangoops.project=" ++ config.project.name ++ ",djangoops.component=" ++ component),
      ("DJANGOOPS_CORRELATION_ID", hostVariable "DJANGOOPS_CORRELATION_ID:-")]

def environmentMapping (environment : List (String × String)) : Yaml Other :=
  mapping (environment.map fun entry => (entry.1, .str entry.2))

def acmeEmailFlag : String :=
  "--certificatesresolvers.letsencrypt.acme.email=" ++ config.tls.acmeEmail

def traefikService : Yaml Other :=
  mapping [("image", .str traefikImage), ("restart", .str restartPolicy),
    ("command", strings ["--providers.docker=true", "--providers.docker.exposedbydefault=false",
      "--entrypoints.web.address=:80",
      "--entrypoints.web.http.redirections.entrypoint.to=websecure",
      "--entrypoints.web.http.redirections.entrypoint.scheme=https",
      "--entrypoints.websecure.address=:443", acmeEmailFlag config,
      "--certificatesresolvers.letsencrypt.acme.storage=/letsencrypt/acme.json",
      "--certificatesresolvers.letsencrypt.acme.httpchallenge=true",
      "--certificatesresolvers.letsencrypt.acme.httpchallenge.entrypoint=web"]),
    ("ports", strings ["80:80", "443:443"]),
    ("volumes", strings ["/var/run/docker.sock:/var/run/docker.sock:ro",
      "traefik_acme:/letsencrypt"])]

def hostRule : String :=
  "traefik.http.routers.web.rule=Host(`" ++ config.tls.hostname ++ "`)"

/-- The program that asks the application for its health. -/
def healthProbe (healthPath : String) : String :=
  "import urllib.request; urllib.request.urlopen('http://127.0.0.1:8000" ++ healthPath ++
    "', timeout=2).read(1)"

def healthcheck : List (String × Yaml Other) :=
  match enabled? integrations "django-runtime" with
  | none => []
  | some runtime =>
      [("healthcheck", mapping
        [("test", strings ["CMD", "python", "-c", healthProbe (runtime.value "health_path")]),
          ("interval", .str "15s"), ("timeout", .str "3s"), ("retries", .int 3)])]

def webMembers : List (String × Yaml Other) :=
  [("build", appBuild),
    ("command", strings ["gunicorn", djangoProjectModule config ++ ".wsgi:application", "--bind",
      "0.0.0.0:8000"]),
    ("env_file", appEnvFile),
    ("environment", environmentMapping (applicationEnvironment config integrations "web")),
    ("restart", .str restartPolicy), ("expose", strings ["8000"]),
    ("labels", strings ["traefik.enable=true", hostRule config,
      "traefik.http.routers.web.entrypoints=websecure", "traefik.http.routers.web.tls=true",
      "traefik.http.routers.web.tls.certresolver=letsencrypt",
      "traefik.http.services.web.loadbalancer.server.port=8000"])] ++
    healthcheck integrations ++ dependsOn config

def postgresService : Yaml Other :=
  mapping [("image", .str postgresImage), ("restart", .str restartPolicy),
    ("environment", environmentMapping
      [("POSTGRES_DB", hostVariable "POSTGRES_DB:-djangoops"),
        ("POSTGRES_USER", hostVariable "POSTGRES_USER:-djangoops"),
        ("POSTGRES_PASSWORD", hostVariable "POSTGRES_PASSWORD:?POSTGRES_PASSWORD must be set")]),
    ("volumes", strings ["postgres_data:/var/lib/postgresql/data"]),
    ("healthcheck", mapping
      [("test", strings ["CMD-SHELL",
          "pg_isready -U $" ++ hostVariable "POSTGRES_USER:-djangoops" ++ " -d $" ++
            hostVariable "POSTGRES_DB:-djangoops"]),
        ("interval", .str "10s"), ("timeout", .str "5s"), ("retries", .int 5)])]

def redisService : Yaml Other :=
  mapping [("image", .str redisImage), ("restart", .str restartPolicy),
    ("command", strings ["redis-server", "--appendonly", "yes"]),
    ("volumes", strings ["redis_data:/data"]),
    ("healthcheck", mapping
      [("test", strings ["CMD", "redis-cli", "ping"]), ("interval", .str "10s"),
        ("timeout", .str "5s"), ("retries", .int 5)])]

/-- `_celery_service` -/
def celeryMembers (action : List String) (component : String) : List (String × Yaml Other) :=
  [("build", appBuild),
    ("command", strings (["celery", "-A", djangoProjectModule config] ++ action)),
    ("env_file", appEnvFile),
    ("environment", environmentMapping (applicationEnvironment config integrations component)),
    ("restart", .str restartPolicy)] ++ dependsOn config

def renderedServices : List (String × Yaml Other) :=
  [("traefik", traefikService config), ("web", mapping (webMembers config integrations))] ++
    (if config.services.postgres then [("postgres", postgresService)] else []) ++
    (if config.services.redis then [("redis", redisService)] else []) ++
    (if config.services.celery then
      [("celery", mapping
        (celeryMembers config integrations ["worker", "--loglevel=INFO"] "worker"))]
    else []) ++
    (if config.services.celeryBeat then
      [("celery_beat", mapping
        (celeryMembers config integrations ["beat", "--loglevel=INFO"] "beat"))]
    else [])

def renderedVolumes : List (String × Yaml Other) :=
  [("traefik_acme", mapping [])] ++
    (if config.services.postgres then [("postgres_data", mapping [])] else []) ++
    (if config.services.redis then [("redis_data", mapping [])] else [])

def composeDocument : Yaml Other :=
  mapping [("name", .str config.project.name),
    ("services", mapping (renderedServices config integrations)),
    ("volumes", mapping (renderedVolumes config))]

def renderCompose (python : Python Other) : String :=
  python.yaml.dump (composeDocument config integrations)

end Render

/-! ## The places of the configured values -/

/-- A string of the document, with the text that it is to have. -/
structure Place where
  path : List Key
  text : String

/-- The path to a string of a service. -/
def inService (service : String) (path : List Key) : List Key :=
  .field "services" :: .field service :: path

section Places

variable (config : DjangoOpsConfig) (integrations : List IntegrationConfig)

/-- The variables of a service that are configured. -/
def configuredEnvironment (component : String) : List (String × String) :=
  [("DJANGOOPS_S3_ENDPOINT_URL", config.storage.endpointUrl),
    ("DJANGOOPS_S3_STATIC_BUCKET", config.storage.staticBucket),
    ("DJANGOOPS_S3_MEDIA_BUCKET", config.storage.mediaBucket)] ++
    (config.storage.region.toList.map fun region => ("AWS_REGION", region)) ++
    ((enabled? integrations "otlp-export").toList.map fun otlp =>
      ("OTEL_EXPORTER_OTLP_ENDPOINT", otlp.value "endpoint")) ++
    [("OTEL_SERVICE_NAME", config.project.name ++ "-" ++ component),
      ("OTEL_RESOURCE_ATTRIBUTES", "service.namespace=" ++ (telemetry integrations).2.2 ++
        ",djangoops.project=" ++ config.project.name ++ ",djangoops.component=" ++ component)]

def environmentPlaces (service component : String) : List Place :=
  (configuredEnvironment config integrations component).map fun entry =>
    ⟨inService service [.field "environment", .field entry.1], entry.2⟩

def celeryPlaces (service component : String) : List Place :=
  ⟨inService service [.field "command", .index 2], djangoProjectModule config⟩ ::
    environmentPlaces config integrations service component

/-- The places that carry a value of the configuration. -/
def carriers : List Place :=
  [⟨[.field "name"], config.project.name⟩,
    ⟨inService "traefik" [.field "command", .index 6], acmeEmailFlag config⟩,
    ⟨inService "web" [.field "command", .index 1],
      djangoProjectModule config ++ ".wsgi:application"⟩,
    ⟨inService "web" [.field "labels", .index 1], hostRule config⟩] ++
    ((enabled? integrations "django-runtime").toList.map fun runtime =>
      ⟨inService "web" [.field "healthcheck", .field "test", .index 3],
        healthProbe (runtime.value "health_path")⟩) ++
    environmentPlaces config integrations "web" "web" ++
    (if config.services.celery then celeryPlaces config integrations "celery" "worker" else []) ++
    (if config.services.celeryBeat then celeryPlaces config integrations "celery_beat" "beat"
      else [])

end Places

/-! ## Finding the places -/

section Lookup

variable (config : DjangoOpsConfig) (integrations : List IntegrationConfig)

theorem lookup_field {name : String} {members : List (String × Yaml Other)} {value : Yaml Other}
    (found : Dictionary.get name members = some value) (path : List Key) :
    lookup (.field name :: path) (mapping members) = lookup path value := by
  change (Yaml.get name (Yaml.record members)).bind (lookup path) = _
  rw [Yaml.get_record, found]
  rfl

theorem lookup_index {texts : List String} {position : Nat} {text : String}
    (found : texts[position]? = some text) :
    lookup [.index position] (strings texts : Yaml Other) = some (.str text) := by
  change (texts.map Yaml.str)[position]?.bind (lookup []) = _
  rw [List.getElem?_map, found]
  rfl

/-- Of the services only the names matter. -/
theorem lookup_service {service : String} {value : Yaml Other}
    (found : Dictionary.get service (renderedServices config integrations) = some value)
    (path : List Key) :
    lookup (inService service path) (composeDocument config integrations) = lookup path value := by
  unfold inService composeDocument
  have services : Dictionary.get "services"
      [("name", Yaml.str config.project.name),
        ("services", mapping (renderedServices config integrations)),
        ("volumes", mapping (renderedVolumes config))] =
      some (mapping (renderedServices config integrations) : Yaml Other) := by
    have other : "name" ≠ "services" := by decide
    rw [Dictionary.get_cons_ne other]
    exact Dictionary.get_cons_self _ _ _
  rw [lookup_field services, lookup_field found]

theorem lookup_environment {service : List (String × Yaml Other)}
    {environment : List (String × String)} {name text : String}
    (has : Dictionary.get "environment" service = some (environmentMapping environment))
    (found : Dictionary.get name environment = some text) :
    lookup [.field "environment", .field name] (mapping service) = some (.str text) := by
  rw [lookup_field has]
  unfold environmentMapping
  have mapped : Dictionary.get name (environment.map fun entry => (entry.1, Yaml.str entry.2)) =
      some (Yaml.str text : Yaml Other) := by
    unfold Dictionary.get at found ⊢
    rcases Option.map_eq_some_iff.mp found with ⟨entry, first, rfl⟩
    rw [List.find?_map]
    change ((environment.find? fun entry => decide (entry.1 = name)).map _).map _ = _
    rw [first]
    rfl
  rw [lookup_field mapped]
  rfl

theorem get_configuredEnvironment (component : String) :
    forall entry, entry ∈ configuredEnvironment config integrations component ->
      Dictionary.get entry.1 (applicationEnvironment config integrations component) =
        some entry.2 := by
  intro entry listed
  have keys : ((applicationEnvironment config integrations component).map Prod.fst).Nodup := by
    unfold applicationEnvironment storageEnvironment
    cases config.storage.region with
    | none =>
        simp only [List.map_append, List.map_cons, List.map_nil]
        decide
    | some region =>
        simp only [List.map_append, List.map_cons, List.map_nil]
        decide
  refine Dictionary.get_of_mem keys ?_
  have region : forall text, text ∈ config.storage.region ->
      ("AWS_REGION", text) ∈ storageEnvironment config := by
    intro text named
    unfold storageEnvironment
    rw [Option.mem_def.mp named]
    exact List.mem_append_right _ List.mem_cons_self
  have endpoint : forall otlp, otlp ∈ enabled? integrations "otlp-export" ->
      (telemetry integrations).2.1 = otlp.value "endpoint" := by
    intro otlp on
    rcases Option.bind_eq_some_iff.mp on with ⟨item, found, switched⟩
    unfold telemetry
    rw [found]
    split at switched
    · rename_i enabled
      cases switched
      dsimp only
      rw [if_pos enabled]
    · cases switched
  unfold configuredEnvironment at listed
  simp only [List.mem_append, List.mem_cons, List.not_mem_nil, or_false, List.mem_map,
    Option.mem_toList] at listed
  unfold applicationEnvironment
  rcases listed with (((rfl | rfl | rfl) | ⟨text, named, rfl⟩) | ⟨otlp, on, rfl⟩) | rfl | rfl
  · exact List.mem_append_left _ List.mem_cons_self
  · exact List.mem_append_left _ (List.mem_cons_of_mem _ List.mem_cons_self)
  · exact List.mem_append_left _
      (List.mem_cons_of_mem _ (List.mem_cons_of_mem _ List.mem_cons_self))
  · exact List.mem_append_left _ (region text named)
  · rw [← endpoint otlp on]
    exact List.mem_append_right _ (List.mem_cons_of_mem _ List.mem_cons_self)
  · exact List.mem_append_right _
      (List.mem_cons_of_mem _ (List.mem_cons_of_mem _ List.mem_cons_self))
  · exact List.mem_append_right _ (List.mem_cons_of_mem _ (List.mem_cons_of_mem _
      (List.mem_cons_of_mem _ List.mem_cons_self)))

/-- A service that is there only when it is switched on is not in the way of
another one. -/
theorem get_behind {name other : String} (different : other ≠ name) (on : Bool) (value : Yaml Other)
    (rest : List (String × Yaml Other)) :
    Dictionary.get name ((if on then [(other, value)] else []) ++ rest) =
      Dictionary.get name rest := by
  cases on with
  | true => exact Dictionary.get_cons_ne different rest
  | false => rfl

theorem get_celery (on : config.services.celery = true) :
    Dictionary.get "celery" (renderedServices config integrations) =
      some (mapping (celeryMembers config integrations ["worker", "--loglevel=INFO"] "worker") :
        Yaml Other) := by
  unfold renderedServices
  rw [List.append_assoc, List.append_assoc, List.append_assoc, on, List.cons_append,
    List.cons_append, List.nil_append, Dictionary.get_cons_ne (by decide : "traefik" ≠ "celery"),
    Dictionary.get_cons_ne (by decide : "web" ≠ "celery"),
    get_behind (by decide), get_behind (by decide)]
  exact Dictionary.get_cons_self _ _ _

theorem get_celeryBeat (on : config.services.celeryBeat = true) :
    Dictionary.get "celery_beat" (renderedServices config integrations) =
      some (mapping (celeryMembers config integrations ["beat", "--loglevel=INFO"] "beat") :
        Yaml Other) := by
  unfold renderedServices
  rw [List.append_assoc, List.append_assoc, List.append_assoc, on, List.cons_append,
    List.cons_append, List.nil_append,
    Dictionary.get_cons_ne (by decide : "traefik" ≠ "celery_beat"),
    Dictionary.get_cons_ne (by decide : "web" ≠ "celery_beat"),
    get_behind (by decide), get_behind (by decide), get_behind (by decide)]
  exact Dictionary.get_cons_self _ _ _

theorem lookup_environmentPlaces {service component : String}
    {members : List (String × Yaml Other)}
    (found : Dictionary.get service (renderedServices config integrations) = some (mapping members))
    (has : Dictionary.get "environment" members =
      some (environmentMapping (applicationEnvironment config integrations component))) :
    forall place, place ∈ environmentPlaces config integrations service component ->
      lookup place.path (composeDocument config integrations) =
        some (.str place.text : Yaml Other) := by
  intro place listed
  rcases List.mem_map.mp listed with ⟨entry, member, rfl⟩
  rw [lookup_service config integrations found]
  exact lookup_environment has
    (get_configuredEnvironment config integrations component entry member)

theorem get_cons_cons {name first : String} (different : first ≠ name) (value : Yaml Other)
    {rest : List (String × Yaml Other)} {result : Yaml Other}
    (found : Dictionary.get name rest = some result) :
    Dictionary.get name ((first, value) :: rest) = some result :=
  (Dictionary.get_cons_ne different rest).trans found

theorem lookup_celeryPlaces {service component : String} {action : List String}
    (found : Dictionary.get service (renderedServices config integrations) =
      some (mapping (celeryMembers config integrations action component) : Yaml Other)) :
    forall place, place ∈ celeryPlaces config integrations service component ->
      lookup place.path (composeDocument config integrations) =
        some (.str place.text : Yaml Other) := by
  intro place listed
  unfold celeryPlaces at listed
  rcases List.mem_cons.mp listed with rfl | member
  · rw [lookup_service config integrations found]
    have command : Dictionary.get "command" (celeryMembers config integrations action component) =
        some (strings (["celery", "-A", djangoProjectModule config] ++ action) : Yaml Other) :=
      get_cons_cons (by decide) _ (Dictionary.get_cons_self _ _ _)
    exact (lookup_field command _).trans (lookup_index rfl)
  · refine lookup_environmentPlaces config integrations found ?_ place member
    refine get_cons_cons (by decide) _ (get_cons_cons (by decide) _ ?_)
    exact get_cons_cons (by decide) _ (Dictionary.get_cons_self _ _ _)

/-- Every carrier stands in the document. -/
theorem lookup_carriers : forall place, place ∈ carriers config integrations ->
    lookup place.path (composeDocument config integrations) =
      some (.str place.text : Yaml Other) := by
  have traefik : Dictionary.get "traefik" (renderedServices config integrations) =
      some (traefikService config : Yaml Other) := Dictionary.get_cons_self _ _ _
  have web : Dictionary.get "web" (renderedServices config integrations) =
      some (mapping (webMembers config integrations) : Yaml Other) :=
    get_cons_cons (by decide) _ (Dictionary.get_cons_self _ _ _)
  intro place listed
  unfold carriers at listed
  simp only [List.mem_append, List.mem_cons, List.not_mem_nil, or_false, List.mem_map,
    Option.mem_toList] at listed
  rcases listed with ((((rfl | rfl | rfl | rfl) | ⟨runtime, on, rfl⟩) | inWeb) | worker) | beat
  · rfl
  · rw [lookup_service config integrations traefik]
    rfl
  · rw [lookup_service config integrations web]
    rfl
  · rw [lookup_service config integrations web]
    rfl
  · rw [lookup_service config integrations web]
    unfold webMembers healthcheck
    rw [Option.mem_def.mp on]
    rfl
  · refine lookup_environmentPlaces config integrations web ?_ place inWeb
    refine get_cons_cons (by decide) _ (get_cons_cons (by decide) _ ?_)
    exact get_cons_cons (by decide) _ (Dictionary.get_cons_self _ _ _)
  · split at worker
    · rename_i on
      have found := @get_celery Other config integrations on
      exact lookup_celeryPlaces config integrations found place worker
    · cases worker
  · split at beat
    · rename_i on
      have found := @get_celeryBeat Other config integrations on
      exact lookup_celeryPlaces config integrations found place beat
    · cases beat

end Lookup

end Cli
end DjangoOps
