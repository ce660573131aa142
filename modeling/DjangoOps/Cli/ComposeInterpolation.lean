import DjangoOps.Cli.Alphabets
import DjangoOps.Cli.Compose

namespace DjangoOps
namespace Cli

open Interpolation

/-!
# Configured values under interpolation

Three of the configured values may contain a dollar: the e-mail address of
ACME and the two endpoints.  No other validator lets one through.
-/

variable {Other : Type}

/-! ## What parsing has settled -/

theorem definition_name {name version : String} {definition : IntegrationDefinition}
    (resolved : resolve name version = .ok definition) : definition.name = name := by
  unfold resolve at resolved
  cases found : builtinRegistry.find? fun definition => decide (definition.name = name) with
  | none =>
      rw [found] at resolved
      cases resolved
  | some listed =>
      rw [found] at resolved
      dsimp only at resolved
      split at resolved
      · rw [← Except.ok.inj resolved]
        simpa only [decide_eq_true_eq] using List.find?_some found
      · cases resolved

/-- Every parsed integration has been finished under its name. -/
theorem finished_of_parseEntries {python : Python Other} {elements : List (Yaml Other)}
    {index : Nat} {seen : List String} {integrations : List IntegrationConfig}
    (parsed : parseEntries python index seen elements = .ok integrations) :
    forall integration, integration ∈ integrations ->
      Exists fun collected : List (String × String) =>
        finishConfig python integration.name collected = .ok integration.config := by
  induction elements generalizing index seen integrations with
  | nil =>
      have none := Except.ok.inj parsed
      rw [← none]
      intro integration member
      cases member
  | cons raw rest inductionHypothesis =>
      rcases bind_ok parsed with ⟨entry, first, parsed⟩
      rcases bind_ok parsed with ⟨others, later, parsed⟩
      have both := Except.ok.inj parsed
      rw [← both]
      intro integration member
      rcases List.mem_cons.mp member with same | listed
      · rcases parseEntry_ok first with ⟨definition, _, resolved, _, ⟨_, validated⟩⟩
        rcases validateConfig_ok validated with ⟨collected, _, finished⟩
        rw [same]
        exact ⟨collected, definition_name resolved ▸ finished⟩
      · exact inductionHypothesis later integration listed

theorem finished_of_parseIntegrations {python : Python Other} {value : Yaml Other}
    {integrations : List IntegrationConfig}
    (parsed : parseIntegrations python value = .ok integrations) :
    forall integration, integration ∈ integrations ->
      Exists fun collected : List (String × String) =>
        finishConfig python integration.name collected = .ok integration.config := by
  cases value with
  | null =>
      have none := Except.ok.inj parsed
      rw [← none]
      intro integration member
      cases member
  | list elements =>
      rw [parseIntegrations] at parsed
      split at parsed
      · cases parsed
      · exact finished_of_parseEntries parsed
  | _ => cases parsed

theorem isPlain_runtime {python : Python Other} {runtime : IntegrationConfig}
    {collected : List (String × String)} (named : runtime.name = "django-runtime")
    (finished : finishConfig python runtime.name collected = .ok runtime.config) :
    IsPlain (runtime.value "health_path") := by
  unfold finishConfig at finished
  rw [if_pos named] at finished
  rcases bind_ok finished with ⟨middle, first, second⟩
  rcases settle_ok first with ⟨path, _, safePath, rfl⟩
  rcases settle_ok second with ⟨label, _, _, final⟩
  unfold IntegrationConfig.value
  rw [final, Dictionary.get_set_ne (by decide), Dictionary.get_set_self, Option.getD_some]
  rw [Bool.and_eq_true] at safePath
  exact isPlain_healthPath safePath.1

theorem isPlain_otlp {python : Python Other} {otlp : IntegrationConfig}
    {collected : List (String × String)} (named : otlp.name = "otlp-export")
    (finished : finishConfig python otlp.name collected = .ok otlp.config) :
    IsPlain (otlp.value "service_namespace") := by
  unfold finishConfig at finished
  rw [named, if_neg (by decide), if_pos rfl] at finished
  split at finished
  · cases finished
  · rcases bind_ok finished with ⟨endpoint, _, second⟩
    rcases settle_ok second with ⟨label, _, safeLabel, final⟩
    unfold IntegrationConfig.value
    rw [final, Dictionary.get_set_self, Option.getD_some]
    exact isPlain_namespace safeLabel

theorem mem_of_enabled? {integrations : List IntegrationConfig} {name : String}
    {integration : IntegrationConfig} (on : enabled? integrations name = some integration) :
    integration ∈ integrations ∧ integration.name = name := by
  rcases Option.bind_eq_some_iff.mp on with ⟨item, found, switched⟩
  split at switched
  · cases switched
    refine ⟨List.mem_of_find?_eq_some found, ?_⟩
    simpa only [decide_eq_true_eq] using List.find?_some found
  · cases switched

/-! ## Texts without dollars -/

def NoDollar (text : String) : Prop := '$' ∉ text.toList

instance (text : String) : Decidable (NoDollar text) :=
  inferInstanceAs (Decidable ('$' ∉ text.toList))

theorem NoDollar.append {front back : String} (first : NoDollar front) (second : NoDollar back) :
    NoDollar (front ++ back) := by
  unfold NoDollar
  rw [String.toList_append, List.mem_append, not_or]
  exact ⟨first, second⟩

theorem IsPlain.noDollar {text : String} (plain : IsPlain text) : NoDollar text :=
  fun listed => absurd (plain '$' listed) (by decide)

theorem NoDollar.inert {keeps : Bool} {text : String} (plain : NoDollar text) :
    Interpolation.inert keeps text.toList = true := inert_of_plain plain

theorem inert_append_text {keeps : Bool} {front : String} (plain : NoDollar front) (back : String) :
    Interpolation.inert keeps (front ++ back).toList = Interpolation.inert keeps back.toList := by
  rw [String.toList_append]
  exact inert_append plain _

theorem noDollar_module {python : Python Other} (word : python.isWord '$' = false)
    {config : DjangoOpsConfig}
    (valid : validateDjangoModule python config.django.module = .ok config.django.module) :
    NoDollar (djangoProjectModule config) := by
  have whole : '$' ∉ config.django.module.toList := by
    intro listed
    rcases mem_module valid listed with plain | letter
    · exact absurd plain (by decide)
    · rw [word] at letter
      cases letter
  unfold NoDollar djangoProjectModule
  dsimp only
  split
  · rw [String.toList_ofList]
    exact fun listed => whole (List.mem_of_mem_take listed)
  · exact whole

/-! ## The carriers -/

/-- Every configured value stands in the rendered document where it belongs, is the same
behind the interpolation in every environment, and is found there in every document
that the interpolation makes. -/
def Survives (Other : Type) (keeps : Bool) (config : DjangoOpsConfig)
    (integrations : List IntegrationConfig) : Prop :=
  forall (environment : Environment) (place : Place), place ∈ carriers config integrations ->
    (Exists fun text : String =>
      lookup place.path (composeDocument config integrations : Yaml Other) = some (.str text) ∧
        interpolate keeps environment text.toList = some place.text.toList) ∧
    forall document : Yaml Other,
      interpolateDocument keeps environment (composeDocument config integrations) =
        some document -> lookup place.path document = some (.str place.text)

/-- The carriers survive exactly when each of their texts is inert. -/
theorem survives_iff {keeps : Bool} {config : DjangoOpsConfig}
    {integrations : List IntegrationConfig} :
    Survives Other keeps config integrations <->
      forall place, place ∈ carriers config integrations ->
        Interpolation.inert keeps place.text.toList = true := by
  constructor
  · intro survives place listed
    refine interpolate_iff.mp ?_
    intro environment
    rcases (survives environment place listed).1 with ⟨text, found, meaning⟩
    rw [lookup_carriers config integrations place listed] at found
    cases found
    exact meaning
  · intro still environment place listed
    have found := @lookup_carriers Other config integrations place listed
    have meaning := interpolate_iff.mpr (still place listed) environment
    refine ⟨⟨place.text, found, meaning⟩, ?_⟩
    intro document done
    rcases lookup_interpolateDocument done found with ⟨text, own, stands⟩
    rw [meaning] at own
    cases own
    rw [String.ofList_toList] at stands
    exact stands

/-- What stands behind the name of the namespace. -/
theorem noDollar_namespace {python : Python Other} {value : Yaml Other}
    {integrations : List IntegrationConfig}
    (parsed : parseIntegrations python value = .ok integrations) :
    NoDollar (telemetry integrations).2.2 := by
  unfold telemetry
  cases found : integration? integrations "otlp-export" with
  | none => decide
  | some otlp =>
      dsimp only
      split
      · rename_i switched
        have on : enabled? integrations "otlp-export" = some otlp := by
          unfold enabled?
          rw [found, Option.bind_some, if_pos switched]
        have member := mem_of_enabled? on
        rcases finished_of_parseIntegrations parsed otlp member.1 with ⟨collected, finished⟩
        exact (isPlain_otlp member.2 finished).noDollar
      · decide

theorem inert_environment {python : Python Other} {keeps : Bool} {config : DjangoOpsConfig}
    {value : Yaml Other} {integrations : List IntegrationConfig}
    (valid : Validated python config.arguments config)
    (parsed : parseIntegrations python value = .ok integrations)
    (endpoint : Interpolation.inert keeps config.storage.endpointUrl.toList = true)
    (otlpEndpoint : forall otlp, otlp ∈ enabled? integrations "otlp-export" ->
      Interpolation.inert keeps (otlp.value "endpoint").toList = true)
    {component : String} (fixed : NoDollar component) :
    forall entry, entry ∈ configuredEnvironment config integrations component ->
      Interpolation.inert keeps entry.2.toList = true := by
  have name : NoDollar config.project.name := (isPlain_projectName valid.name).noDollar
  intro entry listed
  unfold configuredEnvironment at listed
  simp only [List.mem_append, List.mem_cons, List.not_mem_nil, or_false, List.mem_map,
    Option.mem_toList] at listed
  rcases listed with (((rfl | rfl | rfl) | ⟨region, named, rfl⟩) | ⟨otlp, on, rfl⟩) | rfl | rfl
  · exact endpoint
  · exact (isPlain_bucket valid.staticBucket).noDollar.inert
  · exact (isPlain_bucket valid.mediaBucket).noDollar.inert
  · have known := valid.region
    change validateRegion config.storage.region = .ok config.storage.region at known
    rw [Option.mem_def.mp named] at known
    exact (isPlain_region known).noDollar.inert
  · exact otlpEndpoint otlp on
  · exact ((name.append (by decide)).append fixed).inert
  · have plain := ((NoDollar.append (by decide : NoDollar "service.namespace=")
      (noDollar_namespace parsed)).append (by decide : NoDollar ",djangoops.project=")).append name
    exact ((plain.append (by decide : NoDollar ",djangoops.component=")).append fixed).inert

/-- The configured values survive interpolation exactly when no dollar in the
e-mail address and the two endpoints opens a reference.  No other value that comes
into the file can hold one.  Whether Compose keeps a dollar in
front of any other character depends on its version, so this is left open. -/
theorem values_survive {python : Python Other} (word : python.isWord '$' = false) (keeps : Bool)
    {value listed : Yaml Other} {config : DjangoOpsConfig} {integrations : List IntegrationConfig}
    (made : DjangoOpsConfig.fromMapping python value = .ok config)
    (parsed : parseIntegrations python listed = .ok integrations) :
    Survives Other keeps config integrations <->
      Interpolation.inert keeps config.tls.acmeEmail.toList = true ∧
        Interpolation.inert keeps config.storage.endpointUrl.toList = true ∧
        forall otlp, otlp ∈ enabled? integrations "otlp-export" ->
          Interpolation.inert keeps (otlp.value "endpoint").toList = true := by
  have valid := (Produced.fromMapping value made).validated
  have flag : Interpolation.inert keeps (acmeEmailFlag config).toList =
      Interpolation.inert keeps config.tls.acmeEmail.toList :=
    inert_append_text (by decide) config.tls.acmeEmail
  rw [survives_iff]
  constructor
  · intro still
    have configured : forall entry, entry ∈ configuredEnvironment config integrations "web" ->
        Interpolation.inert keeps entry.2.toList = true := by
      intro entry member
      have place : (⟨inService "web" [.field "environment", .field entry.1], entry.2⟩ : Place) ∈
          environmentPlaces config integrations "web" "web" :=
        List.mem_map.mpr ⟨entry, member, rfl⟩
      refine still ⟨inService "web" [.field "environment", .field entry.1], entry.2⟩ ?_
      unfold carriers
      exact List.mem_append_left _ (List.mem_append_left _ (List.mem_append_right _ place))
    refine ⟨flag.symm.trans (still
        ⟨inService "traefik" [.field "command", .index 6], acmeEmailFlag config⟩ ?_),
      configured ("DJANGOOPS_S3_ENDPOINT_URL", config.storage.endpointUrl) List.mem_cons_self, ?_⟩
    · unfold carriers
      simp only [List.mem_append, List.mem_cons, true_or, or_true]
    · intro otlp on
      refine configured ("OTEL_EXPORTER_OTLP_ENDPOINT", otlp.value "endpoint") ?_
      unfold configuredEnvironment
      refine List.mem_append_left _ (List.mem_append_right _ ?_)
      exact List.mem_map.mpr ⟨otlp, Option.mem_toList.mpr on, rfl⟩
  · rintro ⟨email, endpoint, otlpEndpoint⟩ place carried
    have environment : forall {service component : String}, NoDollar component ->
        place ∈ environmentPlaces config integrations service component ->
        Interpolation.inert keeps place.text.toList = true := by
      intro service component fixed member
      rcases List.mem_map.mp member with ⟨entry, found, rfl⟩
      exact inert_environment valid parsed endpoint otlpEndpoint fixed entry found
    have module := noDollar_module word valid.module
    have celery : forall {service component : String}, NoDollar component ->
        place ∈ celeryPlaces config integrations service component ->
        Interpolation.inert keeps place.text.toList = true := by
      intro service component fixed member
      rcases List.mem_cons.mp member with rfl | inside
      · exact module.inert
      · exact environment fixed inside
    unfold carriers at carried
    simp only [List.mem_append, List.mem_cons, List.not_mem_nil, or_false, List.mem_map,
      Option.mem_toList] at carried
    rcases carried with ((((rfl | rfl | rfl | rfl) | ⟨runtime, on, rfl⟩) | inWeb) | worker) | beat
    · exact (isPlain_projectName valid.name).noDollar.inert
    · exact flag.trans email
    · exact (module.append (by decide)).inert
    · exact ((NoDollar.append (by decide) (isPlain_hostname valid.hostname).noDollar).append
        (by decide)).inert
    · have member := mem_of_enabled? on
      rcases finished_of_parseIntegrations parsed runtime member.1 with ⟨collected, finished⟩
      exact ((NoDollar.append (by decide) (isPlain_runtime member.2 finished).noDollar).append
        (by decide)).inert
    · exact environment (by decide) inWeb
    · split at worker
      · exact celery (by decide) worker
      · cases worker
    · split at beat
      · exact celery (by decide) beat
      · cases beat

/-- A configuration whose e-mail address refers to a runtime secret. -/
def dollarConfig : DjangoOpsConfig :=
  { sampleConfig with
    tls := { hostname := "app.example.com", acmeEmail := "ops$POSTGRES_PASSWORD@example.com" } }

/-- It is accepted, and its address does not survive. -/
theorem address_pulls_secret :
    DjangoOpsConfig.fromMapping samplePython (.dict (Yaml.record dollarConfig.toMapping)) =
        .ok dollarConfig ∧
      parseIntegrations samplePython .null = .ok [] ∧
      (forall keeps : Bool, ¬ Survives Empty keeps dollarConfig []) := by
  have made : DjangoOpsConfig.fromMapping samplePython
      (.dict (Yaml.record dollarConfig.toMapping)) = .ok dollarConfig := by
    rfl
  refine ⟨made, rfl, ?_⟩
  intro keeps survives
  have flag := survives_iff.mp survives
    ⟨inService "traefik" [.field "command", .index 6], acmeEmailFlag dollarConfig⟩ (by
      unfold carriers
      simp only [List.mem_append, List.mem_cons, true_or, or_true])
  cases keeps with
  | true => exact absurd flag (by decide)
  | false => exact absurd flag (by decide)

/-- The sample configuration survives. -/
theorem values_survive_sample :
    Survives Empty true sampleConfig sampleIntegrations := by
  have made : DjangoOpsConfig.fromMapping samplePython
      (.dict (Yaml.record sampleConfig.toMapping)) = .ok sampleConfig :=
    fromMapping_toMapping (Produced.create _ sampleConfig_created).validated
  refine (values_survive rfl true made sampleIntegrations_parsed).mpr ⟨by decide, by decide, ?_⟩
  intro otlp on
  cases on

end Cli
end DjangoOps
