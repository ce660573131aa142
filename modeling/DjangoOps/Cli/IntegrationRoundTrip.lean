import DjangoOps.Cli.Normalisation

namespace DjangoOps
namespace Cli

/-!
# Parsing what was parsed

The mappings of parsed integrations are parsed to the same integrations.  The
configuration of an integration is settled when its keys are distinct and known
and its values short; parsing ends in settled configurations and leaves them as
they are.
-/

variable {Other : Type}

/-! ## Settled configurations -/

structure Settled (definition : IntegrationDefinition) (validated : List (String × String)) :
    Prop where
  keys : (validated.map Prod.fst).Nodup
  known : forall entry, entry ∈ validated -> entry.1 ∈ definition.configKeys
  short : forall entry, entry ∈ validated -> entry.2.length ≤ maxConfigValueChars

theorem Settled.set {definition : IntegrationDefinition} {validated : List (String × String)}
    (settled : Settled definition validated) {key text : String}
    (known : key ∈ definition.configKeys) (short : text.length ≤ maxConfigValueChars) :
    Settled definition (Dictionary.set key text validated) where
  keys := Dictionary.nodup_set settled.keys
  known := by
    intro entry member
    rcases Dictionary.mem_set member with new | old
    · rw [new]
      exact known
    · exact settled.known entry old
  short := by
    intro entry member
    rcases Dictionary.mem_set member with new | old
    · rw [new]
      exact short
    · exact settled.short entry old

theorem settled_collectConfig {definition : IntegrationDefinition}
    {members : List (Yaml Other × Yaml Other)} {made validated : List (String × String)}
    (settled : Settled definition made)
    (known : forall member, member ∈ members -> member.1.key?.getD "" ∈ definition.configKeys)
    (collected : collectConfig members made = .ok validated) : Settled definition validated := by
  induction members generalizing made with
  | nil =>
      have same := Except.ok.inj collected
      exact same ▸ settled
  | cons member rest inductionHypothesis =>
      have later : forall other, other ∈ rest -> other.1.key?.getD "" ∈ definition.configKeys :=
        fun other listed => known other (List.mem_cons_of_mem _ listed)
      rw [collectConfig] at collected
      split at collected
      · cases collected
      · rcases bind_ok collected with ⟨text, _, collected⟩
        split at collected
        · cases collected
        · rename_i small
          refine inductionHypothesis (settled.set ?_ ?_) later collected
          · exact known member List.mem_cons_self
          · exact Nat.le_of_not_lt small

/-- The members that stand for a configuration. -/
def configMembers (config : List (String × String)) : List (Yaml Other × Yaml Other) :=
  Yaml.record (config.map fun entry => (entry.1, .str entry.2))

theorem collectConfig_cons {key text : String} (plain : isSecretKey key = false)
    (small : text.length ≤ maxConfigValueChars) (rest : List (Yaml Other × Yaml Other))
    (made : List (String × String)) :
    collectConfig ((.str key, .str text) :: rest) made =
      collectConfig rest (Dictionary.set key text made) := by
  have visible : isSecretKey key ≠ true := by
    rw [plain]
    exact Bool.false_ne_true
  rw [collectConfig]
  exact (if_neg visible).trans (if_neg (Nat.not_lt.mpr small))

theorem collectConfig_of_settled {definition : IntegrationDefinition}
    (plainKeys : forall key, key ∈ definition.configKeys -> isSecretKey key = false)
    {validated : List (String × String)}
    (settled : Settled definition validated) :
    collectConfig (configMembers validated : List (Yaml Other × Yaml Other)) [] =
      .ok validated := by
  have collects : forall rest made : List (String × String),
      (forall entry, entry ∈ rest -> entry.1 ∈ definition.configKeys) ->
      (forall entry, entry ∈ rest -> entry.2.length ≤ maxConfigValueChars) ->
      collectConfig (configMembers rest : List (Yaml Other × Yaml Other)) made =
        .ok (rest.foldl (fun made entry => Dictionary.set entry.1 entry.2 made) made) := by
    intro rest
    induction rest with
    | nil =>
        intro made _ _
        rfl
    | cons entry others inductionHypothesis =>
        intro made known short
        have plain := plainKeys entry.1 (known entry List.mem_cons_self)
        have small := short entry List.mem_cons_self
        have later := inductionHypothesis (Dictionary.set entry.1 entry.2 made)
          (fun other member => known other (List.mem_cons_of_mem _ member))
          (fun other member => short other (List.mem_cons_of_mem _ member))
        exact (collectConfig_cons plain small (configMembers others) made).trans later
  rw [collects validated [] settled.known settled.short]
  rw [Dictionary.foldl_set_of_nodup (by simpa only [List.nil_append] using settled.keys)]
  rfl

/-! ## The last part of the validation -/

theorem settle_ok {key default message : String} {valid : String -> Bool}
    {validated next : List (String × String)}
    (done : settle key default message valid validated = .ok next) :
    Exists fun text : String => text = (Dictionary.get key validated).getD default ∧
      valid text = true ∧ next = Dictionary.set key text validated := by
  unfold settle at done
  dsimp only at done
  split at done
  · rename_i accepted
    exact ⟨_, rfl, accepted, (Except.ok.inj done).symm⟩
  · cases done

theorem settle_of_get {key default message text : String} {valid : String -> Bool}
    {validated : List (String × String)} (found : Dictionary.get key validated = some text)
    (accepted : valid text = true) :
    settle key default message valid validated = .ok validated := by
  unfold settle
  rw [found, Option.getD_some, if_pos accepted, Dictionary.set_of_get found]

theorem finishConfig_again {python : Python Other} {name : String}
    {validated final : List (String × String)}
    (finished : finishConfig python name validated = .ok final) :
    finishConfig python name final = .ok final := by
  unfold finishConfig at finished ⊢
  by_cases runtime : name = "django-runtime"
  · rw [if_pos runtime] at finished ⊢
    rcases bind_ok finished with ⟨middle, first, second⟩
    rcases settle_ok first with ⟨path, _, safePath, rfl⟩
    rcases settle_ok second with ⟨label, _, safeLabel, rfl⟩
    have path := (Dictionary.get_set_ne (by decide : "health_path" ≠ "metadata_label") label
      (Dictionary.set "health_path" path validated)).trans (Dictionary.get_set_self _ _ _)
    rw [bind_of (settle_of_get path safePath)]
    refine settle_of_get (Dictionary.get_set_self _ _ _) ?_
    exact safeLabel
  · rw [if_neg runtime] at finished ⊢
    by_cases exporter : name = "otlp-export"
    · rw [if_pos exporter] at finished ⊢
      split at finished
      · cases finished
      · rename_i raw _
        rcases bind_ok finished with ⟨endpoint, valid, second⟩
        rcases settle_ok second with ⟨label, _, safeLabel, rfl⟩
        have found := (Dictionary.get_set_ne (by decide : "endpoint" ≠ "service_namespace") label
          (Dictionary.set "endpoint" endpoint validated)).trans (Dictionary.get_set_self _ _ _)
        simp only [found]
        rw [bind_of (validateEndpoint_again valid), Dictionary.set_of_get found]
        refine settle_of_get (Dictionary.get_set_self _ _ _) ?_
        exact safeLabel
    · rw [if_neg exporter]

theorem validateEndpoint_length {python : Python Other} {value accepted : String}
    (returned : validateEndpoint python value = .ok accepted) :
    accepted.length ≤ value.length := by
  rcases bind_ok returned with ⟨parts, _, checked⟩
  split at checked
  · cases checked
  · rw [← Except.ok.inj checked, stripSlashes, String.length_ofList, ← String.length_toList]
    exact (List.rdropWhile_prefix _ _).length_le

/-- A value that is checked and written back is one that was there or the
default. -/
theorem settled_settle {definition : IntegrationDefinition} {key default message : String}
    {valid : String -> Bool} {validated next : List (String × String)}
    (settled : Settled definition validated) (known : key ∈ definition.configKeys)
    (short : default.length ≤ maxConfigValueChars)
    (done : settle key default message valid validated = .ok next) : Settled definition next := by
  rcases settle_ok done with ⟨text, same, _, rfl⟩
  refine settled.set known ?_
  cases found : Dictionary.get key validated with
  | none =>
      rw [same, found, Option.getD_none]
      exact short
  | some value =>
      rw [same, found, Option.getD_some]
      exact settled.short _ (Dictionary.mem_of_get found)

theorem settled_finishConfig {python : Python Other} {definition : IntegrationDefinition}
    (builtin : definition ∈ builtinRegistry) {validated final : List (String × String)}
    (settled : Settled definition validated)
    (finished : finishConfig python definition.name validated = .ok final) :
    Settled definition final := by
  unfold finishConfig at finished
  rcases List.mem_cons.mp builtin with runtime | other
  · subst runtime
    rw [if_pos rfl] at finished
    rcases bind_ok finished with ⟨middle, first, second⟩
    have between := settled_settle settled (by decide) (by decide) first
    exact settled_settle between (by decide) (by decide) second
  · have exporter := List.mem_singleton.mp other
    subst exporter
    rw [if_neg (by decide), if_pos rfl] at finished
    split at finished
    · cases finished
    · rename_i raw found
      rcases bind_ok finished with ⟨endpoint, valid, second⟩
      have small := settled.short _ (Dictionary.mem_of_get found)
      have between := settled.set (by decide : "endpoint" ∈ ["endpoint", "service_namespace"])
        (Nat.le_trans (validateEndpoint_length valid) small)
      exact settled_settle between (by decide) (by decide) second

/-- A settled configuration has no more fields than there are keys. -/
theorem Settled.length_le {definition : IntegrationDefinition} {validated : List (String × String)}
    (settled : Settled definition validated) : validated.length ≤ definition.configKeys.length := by
  have subset : validated.map Prod.fst ⊆ definition.configKeys := by
    intro key member
    rcases List.mem_map.mp member with ⟨entry, listed, rfl⟩
    exact settled.known entry listed
  have length := (List.subperm_of_subset settled.keys subset).length_le
  rwa [List.length_map] at length

theorem keys_builtin : forall definition, definition ∈ builtinRegistry ->
    definition.configKeys.length ≤ maxConfigFields ∧
      forall key, key ∈ definition.configKeys -> isSecretKey key = false := by
  decide +kernel

theorem filterMap_configMembers (config : List (String × String)) :
    (configMembers config : List (Yaml Other × Yaml Other)).filterMap
      (fun member => member.1.key?) = config.map Prod.fst := by
  induction config with
  | nil => rfl
  | cons entry rest inductionHypothesis =>
      change (((.str entry.1, .str entry.2) : Yaml Other × Yaml Other) ::
        configMembers rest).filterMap (fun member => member.1.key?) = _
      rw [List.filterMap_cons, inductionHypothesis]
      rfl

/-- A validated configuration has been collected and finished. -/
theorem validateConfig_ok {python : Python Other} {definition : IntegrationDefinition}
    {index : Nat} {value : Yaml Other} {config : List (String × String)}
    (validated : validateConfig python definition index value = .ok config) :
    Exists fun collected : List (String × String) => Settled definition collected ∧
      finishConfig python definition.name collected = .ok config := by
  cases value with
  | dict members =>
      rw [validateConfig] at validated
      split at validated
      · cases validated
      · rename_i named
        split at validated
        · cases validated
        · split at validated
          · cases validated
          · rename_i foreign
            rcases bind_ok validated with ⟨collected, first, finished⟩
            have names : forall member, member ∈ members ->
                member.1.key?.getD "" ∈ definition.configKeys := by
              intro member listed
              have string := List.all_eq_true.mp (Bool.eq_true_of_not_eq_false named) member listed
              rcases Option.isSome_iff_exists.mp string with ⟨key, keyed⟩
              have own : key ∈ members.filterMap fun member => member.1.key? :=
                List.mem_filterMap.mpr ⟨member, listed, keyed⟩
              have known : key ∈ definition.configKeys := by
                apply Decidable.byContradiction
                intro missing
                exact foreign (List.any_eq_true.mpr ⟨key, own, decide_eq_true missing⟩)
              rw [keyed, Option.getD_some]
              exact known
            have empty : Settled definition [] := ⟨List.nodup_nil, by simp, by simp⟩
            exact ⟨collected, settled_collectConfig empty names first, finished⟩
  | _ => cases validated

theorem settled_validateConfig {python : Python Other} {definition : IntegrationDefinition}
    (builtin : definition ∈ builtinRegistry) {index : Nat} {value : Yaml Other}
    {config : List (String × String)}
    (validated : validateConfig python definition index value = .ok config) :
    Settled definition config := by
  rcases validateConfig_ok validated with ⟨collected, settled, finished⟩
  exact settled_finishConfig builtin settled finished

theorem validateConfig_again {python : Python Other} {definition : IntegrationDefinition}
    (builtin : definition ∈ builtinRegistry) {index : Nat} {value : Yaml Other}
    {config : List (String × String)}
    (validated : validateConfig python definition index value = .ok config) :
    validateConfig python definition index (.dict (configMembers config)) = .ok config := by
  rcases validateConfig_ok validated with ⟨collected, _, finished⟩
  have settled := settled_validateConfig builtin validated
  have builtinKeys := keys_builtin definition builtin
  have few : Not (maxConfigFields <
      (configMembers config : List (Yaml Other × Yaml Other)).length) := by
    unfold configMembers Yaml.record
    rw [List.length_map, List.length_map, Nat.not_lt]
    exact Nat.le_trans settled.length_le builtinKeys.1
  have familiar : Not (((config.map Prod.fst).any fun key =>
      decide (key ∉ definition.configKeys)) = true) := by
    intro some
    rcases List.any_eq_true.mp some with ⟨key, member, foreign⟩
    rcases List.mem_map.mp member with ⟨entry, listed, rfl⟩
    exact of_decide_eq_true foreign (settled.known entry listed)
  have strings := Yaml.stringKeys_record
    (config.map fun entry => (entry.1, (Yaml.str entry.2 : Yaml Other)))
  rw [validateConfig, filterMap_configMembers]
  refine (if_neg ?_).trans ((if_neg few).trans ((if_neg familiar).trans ?_))
  · rw [configMembers, strings]
    exact Bool.true_eq_false.mp
  · rw [bind_of (collectConfig_of_settled builtinKeys.2 settled)]
    exact finishConfig_again finished

/-! ## The section -/

theorem strings?_map (names : List String) :
    strings? (.list (names.map Yaml.str) : Yaml Other) = some names := by
  unfold strings?
  dsimp only
  induction names with
  | nil => rfl
  | cons name rest inductionHypothesis =>
      rw [List.map_cons, List.mapM_cons, inductionHypothesis]
      rfl

theorem parseCapabilities_again {definition : IntegrationDefinition} {index : Nat}
    {value : Yaml Other} {capabilities : List String}
    (parsed : parseCapabilities definition index value = .ok capabilities) :
    parseCapabilities definition index (.list (capabilities.map Yaml.str) : Yaml Other) =
      .ok capabilities := by
  unfold parseCapabilities at parsed ⊢
  rw [strings?_map]
  cases listed : strings? value with
  | none =>
      rw [listed] at parsed
      cases parsed
  | some requested =>
      rw [listed] at parsed
      dsimp only at parsed ⊢
      have same : requested = capabilities := by
        split at parsed
        · split at parsed
          · cases parsed
          · exact Except.ok.inj parsed
        · cases parsed
      rw [← same] at parsed ⊢
      exact parsed

theorem mem_of_resolve {name version : String} {definition : IntegrationDefinition}
    (resolved : resolve name version = .ok definition) : definition ∈ builtinRegistry := by
  unfold resolve at resolved
  cases found : builtinRegistry.find? fun definition => decide (definition.name = name) with
  | none =>
      rw [found] at resolved
      cases resolved
  | some listed =>
      rw [found] at resolved
      dsimp only at resolved
      split at resolved
      · rw [← Except.ok.inj resolved]
        exact List.mem_of_find?_eq_some found
      · cases resolved

/-- What has been checked of a parsed integration. -/
theorem parseEntry_ok {python : Python Other} {index : Nat} {seen : List String}
    {raw : Yaml Other} {integration : IntegrationConfig}
    (parsed : parseEntry python index seen raw = .ok integration) :
    Exists fun definition : IntegrationDefinition => integration.name ∉ seen ∧
      resolve integration.name integration.version = .ok definition ∧
      (Exists fun value : Yaml Other =>
        parseCapabilities definition index value = .ok integration.capabilities) ∧
      Exists fun value : Yaml Other =>
        validateConfig python definition index value = .ok integration.config := by
  cases raw with
  | dict members =>
      rw [parseEntry] at parsed
      split at parsed
      · cases parsed
      · split at parsed
        · cases parsed
        · rcases bind_ok parsed with ⟨name, _, parsed⟩
          rcases bind_ok parsed with ⟨version, _, parsed⟩
          split at parsed
          · split at parsed
            · cases parsed
            · rename_i unseen
              rcases bind_ok parsed with ⟨definition, resolved, parsed⟩
              rcases bind_ok parsed with ⟨capabilities, supported, parsed⟩
              rcases bind_ok parsed with ⟨config, validated, parsed⟩
              have same := Except.ok.inj parsed
              subst same
              exact ⟨definition, unseen, resolved, ⟨_, supported⟩, ⟨_, validated⟩⟩
          · cases parsed
  | _ => cases parsed

/-- The mapping of an integration is parsed to the integration. -/
theorem parseEntry_again {python : Python Other} {index : Nat} {seen : List String}
    {raw : Yaml Other} {integration : IntegrationConfig}
    (parsed : parseEntry python index seen raw = .ok integration) :
    parseEntry python index seen integration.toMapping = .ok integration := by
  rcases parseEntry_ok parsed with ⟨definition, unseen, resolved, ⟨_, supported⟩, ⟨_, validated⟩⟩
  have capabilities := parseCapabilities_again supported
  have config := validateConfig_again (mem_of_resolve resolved) validated
  change (if integration.name ∈ seen then _ else _) = _
  rw [if_neg unseen, bind_of resolved]
  exact (bind_of capabilities).trans (bind_of config)

/-- What the loop has parsed it parses once more. -/
theorem parseEntries_again {python : Python Other} {elements : List (Yaml Other)} {index : Nat}
    {seen : List String} {integrations : List IntegrationConfig}
    (parsed : parseEntries python index seen elements = .ok integrations) :
    integrations.length = elements.length ∧
      parseEntries python index seen (integrations.map IntegrationConfig.toMapping) =
        .ok integrations := by
  induction elements generalizing index seen integrations with
  | nil =>
      have none := Except.ok.inj parsed
      rw [← none]
      exact ⟨rfl, rfl⟩
  | cons raw rest inductionHypothesis =>
      rcases bind_ok parsed with ⟨integration, first, parsed⟩
      rcases bind_ok parsed with ⟨others, later, parsed⟩
      have both := Except.ok.inj parsed
      have again := inductionHypothesis later
      rw [← both]
      refine ⟨congrArg Nat.succ again.1, ?_⟩
      rw [List.map_cons, parseEntries, bind_of (parseEntry_again first), bind_of again.2]

/-- The keys of every parsed configuration are distinct. -/
theorem keys_parseEntries {python : Python Other} {elements : List (Yaml Other)} {index : Nat}
    {seen : List String} {integrations : List IntegrationConfig}
    (parsed : parseEntries python index seen elements = .ok integrations) :
    forall integration, integration ∈ integrations -> (integration.config.map Prod.fst).Nodup := by
  induction elements generalizing index seen integrations with
  | nil =>
      have none := Except.ok.inj parsed
      rw [← none]
      intro integration member
      cases member
  | cons raw rest inductionHypothesis =>
      rcases bind_ok parsed with ⟨entry, first, parsed⟩
      rcases bind_ok parsed with ⟨others, later, parsed⟩
      have both := Except.ok.inj parsed
      rw [← both]
      intro integration member
      rcases List.mem_cons.mp member with same | listed
      · rcases parseEntry_ok first with ⟨definition, _, resolved, _, ⟨_, validated⟩⟩
        rw [same]
        exact (settled_validateConfig (mem_of_resolve resolved) validated).keys
      · exact inductionHypothesis later integration listed

theorem keys_parseIntegrations {python : Python Other} {value : Yaml Other}
    {integrations : List IntegrationConfig}
    (parsed : parseIntegrations python value = .ok integrations) :
    forall integration, integration ∈ integrations -> (integration.config.map Prod.fst).Nodup := by
  cases value with
  | null =>
      have none := Except.ok.inj parsed
      rw [← none]
      intro integration member
      cases member
  | list elements =>
      rw [parseIntegrations] at parsed
      split at parsed
      · cases parsed
      · exact keys_parseEntries parsed
  | _ => cases parsed

theorem parseIntegrations_again {python : Python Other} {value : Yaml Other}
    {integrations : List IntegrationConfig}
    (parsed : parseIntegrations python value = .ok integrations) :
    parseIntegrations python (.list (integrations.map IntegrationConfig.toMapping)) =
      .ok integrations := by
  cases value with
  | null =>
      have none := Except.ok.inj parsed
      rw [← none]
      rfl
  | list elements =>
      rw [parseIntegrations] at parsed
      split at parsed
      · cases parsed
      · rename_i few
        have again := parseEntries_again parsed
        rw [parseIntegrations, if_neg, again.2]
        rw [List.length_map, again.1]
        exact few
  | _ => cases parsed

end Cli
end DjangoOps
