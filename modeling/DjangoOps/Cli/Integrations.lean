import DjangoOps.Cli.Config

namespace DjangoOps
namespace Cli

/-!
# Integrations

The registry of built-in integrations, the parser of the optional section of
`djangoops.yaml` that selects among them, and the reader and the writer of the
whole document.
-/

def maxIntegrations : Nat := 8
def maxConfigFields : Nat := 16
def maxConfigValueChars : Nat := 256

/-! ## The registry -/

inductive IntegrationCapability
  | metadata
  | health
  | telemetry
  | deploymentConfig
  deriving DecidableEq

def IntegrationCapability.value : IntegrationCapability -> String
  | .metadata => "metadata"
  | .health => "health"
  | .telemetry => "telemetry"
  | .deploymentConfig => "deployment_config"

structure IntegrationDefinition where
  name : String
  versions : List String
  capabilities : List IntegrationCapability
  configKeys : List String

/-- `BUILTIN_REGISTRY` -/
def builtinRegistry : List IntegrationDefinition :=
  [{ name := "django-runtime", versions := ["v1"], capabilities := [.metadata, .health]
     configKeys := ["health_path", "metadata_label"] },
   { name := "otlp-export", versions := ["v1"], capabilities := [.telemetry, .deploymentConfig]
     configKeys := ["endpoint", "service_namespace"] }]

def resolve (name version : String) : Except ConfigError IntegrationDefinition :=
  match builtinRegistry.find? fun definition => decide (definition.name = name) with
  | none => .error (.integrationError "UNKNOWN_INTEGRATION" ("unknown integration: " ++ name))
  | some definition =>
      if version ∈ definition.versions then .ok definition
      else
        .error (.integrationError "UNSUPPORTED_VERSION"
          ("unsupported " ++ name ++ " integration version: " ++ version))

structure IntegrationConfig where
  name : String
  version : String
  enabled : Bool
  capabilities : List String
  config : List (String × String)
  deriving DecidableEq

variable {Other : Type}

/-- `to_mapping` -/
def IntegrationConfig.toMapping (integration : IntegrationConfig) : Yaml Other :=
  .dict (Yaml.record [("name", .str integration.name), ("version", .str integration.version),
    ("enabled", .bool integration.enabled),
    ("capabilities", .list (integration.capabilities.map Yaml.str)),
    ("config", .dict (Yaml.record (integration.config.map fun entry => (entry.1, .str entry.2))))])

/-! ## The configuration of one integration -/

/-- A letter without its case; four letters beyond ASCII fold into it. -/
def foldKey (char : Char) : Char :=
  if char.toNat = 0x130 ∨ char.toNat = 0x131 then 'i' else ControlPlane.foldCase char

/-- `_SECRET_KEY_RE.search` -/
def isSecretKey (key : String) : Bool :=
  ["secret", "token", "password", "authorization", "apikey", "api_key", "api-key", "accesskey",
    "access_key", "access-key", "credential"].any fun word =>
      contains word.toList (key.toList.map foldKey)

/-- `_SAFE_HEALTH_PATH_RE.fullmatch` -/
def matchesHealthPath (text : List Char) : Bool :=
  matchesRun (fun char => char == '/')
    (fun char => char.isAlphanum || char == '/' || char == '_' || char == '-') 127 text

/-- `_SAFE_NAMESPACE_RE.fullmatch` -/
def matchesNamespace (text : List Char) : Bool :=
  matchesRun Char.isAlphanum
    (fun char => char.isAlphanum || char == '_' || char == '.' || char == '-') 62 text

def invalidConfig (message : String) : ConfigError := .integrationError "INVALID_CONFIG" message

/-- `_string` -/
def stringField (field : String) : Yaml Other -> Except ConfigError String
  | .str text => .ok text
  | _ => .error (invalidConfig (field ++ " must be a string"))

/-- The keys and values of `config`, one by one. -/
def collectConfig : List (Yaml Other × Yaml Other) -> List (String × String) ->
    Except ConfigError (List (String × String))
  | [], validated => .ok validated
  | member :: rest, validated =>
      let key := member.1.key?.getD ""
      if isSecretKey key then
        .error (.integrationError "SECRET_REJECTED"
          ("secret-bearing config key is forbidden: " ++ key))
      else do
        let text <- stringField ("integration config " ++ key) member.2
        if maxConfigValueChars < text.length then
          .error (.integrationError "LIMIT_EXCEEDED" ("integration config " ++ key ++ " is too long"))
        else collectConfig rest (Dictionary.set key text validated)

/-- `_validate_endpoint` -/
def validateEndpoint (python : Python Other) (value : String) : Except ConfigError String := do
  let parts <- Url.split python.url value.toList
  if (parts.scheme ≠ "http".toList ∧ parts.scheme ≠ "https".toList) ∨ parts.hostname = none ∨
      parts.username ≠ none ∨ parts.password ≠ none ∨ parts.query ≠ [] ∨ parts.fragment ≠ [] ∨
      (parts.path ≠ [] ∧ parts.path ≠ ['/']) then
    .error (.integrationError "SECRET_REJECTED"
      "OTLP endpoint must be a credential-free http(s) origin without query or fragment")
  else .ok (stripSlashes value)

/-- One value under a key that may be missing, checked and written back. -/
def settle (key default message : String) (valid : String -> Bool)
    (validated : List (String × String)) : Except ConfigError (List (String × String)) :=
  let text := (Dictionary.get key validated).getD default
  if valid text then .ok (Dictionary.set key text validated) else .error (invalidConfig message)

/-- The last part of `_validate_config`, by the name of the definition. -/
def finishConfig (python : Python Other) (name : String) (validated : List (String × String)) :
    Except ConfigError (List (String × String)) :=
  if name = "django-runtime" then do
    let validated <- settle "health_path" "/healthz" "django-runtime health_path is invalid"
      (fun text => matchesHealthPath text.toList && !contains "..".toList text.toList) validated
    settle "metadata_label" "django" "django-runtime metadata_label is invalid"
      (fun text => matchesNamespace text.toList) validated
  else if name = "otlp-export" then
    match Dictionary.get "endpoint" validated with
    | none => .error (invalidConfig "otlp-export requires endpoint")
    | some endpoint => do
        let endpoint <- validateEndpoint python endpoint
        settle "service_namespace" "djangoops" "otlp-export service_namespace is invalid"
          (fun text => matchesNamespace text.toList) (Dictionary.set "endpoint" endpoint validated)
  else .ok validated

/-- `sorted(set(names) - set(known))`, joined. -/
def listUnknown (names known : List String) : String :=
  String.intercalate ", "
    ((names.filter fun name => decide (name ∉ known)).dedup.insertionSort fun left right =>
      left ≤ right)

/-- `integrations[index]` -/
def entryField (index : Nat) : String := "integrations[" ++ toString index ++ "]"

/-- `_validate_config` -/
def validateConfig (python : Python Other) (definition : IntegrationDefinition) (index : Nat) :
    Yaml Other -> Except ConfigError (List (String × String))
  | .dict members =>
      let keys := members.filterMap fun member => member.1.key?
      if Yaml.stringKeys members = false then
        .error (invalidConfig (entryField index ++ ".config must be a mapping"))
      else if maxConfigFields < members.length then
        .error (.integrationError "LIMIT_EXCEEDED" "integration config has too many fields")
      else if keys.any fun key => decide (key ∉ definition.configKeys) then
        .error (.integrationError "SCHEMA_DRIFT" ("unknown " ++ definition.name ++
          " config keys: " ++ listUnknown keys definition.configKeys))
      else do
        let validated <- collectConfig members []
        finishConfig python definition.name validated
  | _ => .error (invalidConfig (entryField index ++ ".config must be a mapping"))

/-! ## The section -/

/-- The elements of a list of strings. -/
def strings? : Yaml Other -> Option (List String)
  | .list elements => elements.mapM Yaml.key?
  | _ => none

/-- The requested capabilities of one integration. -/
def parseCapabilities (definition : IntegrationDefinition) (index : Nat) (value : Yaml Other) :
    Except ConfigError (List String) :=
  match strings? value with
  | none => .error (invalidConfig (entryField index ++ ".capabilities must be a list of strings"))
  | some requested =>
      let supported := definition.capabilities.map IntegrationCapability.value
      if requested.Nodup then
        if requested.any fun name => decide (name ∉ supported) then
          .error (.integrationError "UNSUPPORTED_CAPABILITY"
            (definition.name ++ " does not support: " ++ listUnknown requested supported))
        else .ok requested
      else
        .error (invalidConfig (definition.name ++ " capabilities must not contain duplicates"))

def entryKeys : List String := ["name", "version", "enabled", "capabilities", "config"]

/-- One round of the loop of `parse_integrations`. -/
def parseEntry (python : Python Other) (index : Nat) (seen : List String) :
    Yaml Other -> Except ConfigError IntegrationConfig
  | .dict members =>
      if Yaml.stringKeys members = false then
        .error (invalidConfig (entryField index ++ " must be a mapping"))
      else if Yaml.keysAre entryKeys members = false then
        .error (.integrationError "SCHEMA_DRIFT"
          (entryField index ++ " keys do not match ecosystem contract v1"))
      else do
        let name <- stringField (entryField index ++ ".name") (item "name" members)
        let version <- stringField (entryField index ++ ".version") (item "version" members)
        match item "enabled" members with
        | .bool enabled =>
            if name ∈ seen then
              .error (.integrationError "DUPLICATE_INTEGRATION"
                ("integration configured more than once: " ++ name))
            else do
              let definition <- resolve name version
              let capabilities <- parseCapabilities definition index (item "capabilities" members)
              let config <- validateConfig python definition index (item "config" members)
              .ok { name, version, enabled, capabilities, config }
        | _ => .error (invalidConfig (entryField index ++ ".enabled must be boolean"))
  | _ => .error (invalidConfig (entryField index ++ " must be a mapping"))

/-- The loop of `parse_integrations`. -/
def parseEntries (python : Python Other) : Nat -> List String -> List (Yaml Other) ->
    Except ConfigError (List IntegrationConfig)
  | _, _, [] => .ok []
  | index, seen, raw :: rest => do
      let integration <- parseEntry python index seen raw
      let others <- parseEntries python (index + 1) (integration.name :: seen) rest
      .ok (integration :: others)

def parseIntegrations (python : Python Other) :
    Yaml Other -> Except ConfigError (List IntegrationConfig)
  | .null => .ok []
  | .list elements =>
      if maxIntegrations < elements.length then
        .error (.integrationError "LIMIT_EXCEEDED"
          ("at most " ++ toString maxIntegrations ++ " integrations are allowed"))
      else parseEntries python 0 [] elements
  | _ => .error (invalidConfig "integrations must be a list")

/-! ## The document -/

def parseProjectConfig (python : Python Other) (text : String) :
    Except ConfigError (DjangoOpsConfig × List IntegrationConfig) :=
  match python.yaml.load text with
  | none => .error (.valueError "invalid YAML configuration")
  | some (.dict members) =>
      if Yaml.stringKeys members = false then
        .error (.valueError "configuration root must be a mapping")
      else do
        let integrations <- parseIntegrations python (item "integrations" members)
        let config <- parseConfig python
          (python.yaml.dump (.dict (Yaml.erase "integrations" members)))
        .ok (config, integrations)
  | some _ => .error (.valueError "configuration root must be a mapping")

/-- The mapping that is rendered: the integrations follow the core when there
are any. -/
def projectMapping (config : DjangoOpsConfig) (integrations : List IntegrationConfig) :
    List (String × Yaml Other) :=
  if integrations = [] then config.toMapping
  else
    config.toMapping ++
      [("integrations", .list (integrations.map IntegrationConfig.toMapping))]

def renderProjectConfig (python : Python Other) (config : DjangoOpsConfig)
    (integrations : List IntegrationConfig) : String :=
  python.yaml.dump (.dict (Yaml.record (projectMapping config integrations)))

end Cli
end DjangoOps
