import DjangoOps.Cli.ComposeInterpolation
import DjangoOps.Cli.RestoreScript
import DjangoOps.Foundation.Startup

namespace DjangoOps
namespace Cli
namespace Compose

open Interpolation
open Startup (Service Project Status Action)

/-!
# The start of the services

Compose starts a service when the services that `depends_on` names are healthy,
mounts its volumes, and refuses a file that names a service or a volume that is
not there.  These are its documented rules, which are assumed here.  The file is
read as Compose reads it, behind the interpolation with whatever the host has
set.
-/

variable {Other : Type}

/-! ## Reading a file -/

/-- A service that is waited for, in the long form and until it is healthy. -/
def readDependency (member : Yaml Other × Yaml Other) : Option String :=
  match member.2 with
  | .dict fields =>
      match Yaml.get "condition" fields with
      | some (.str condition) =>
          if condition = "service_healthy" then member.1.key? else none
      | _ => none
  | _ => none

def readDependencies (fields : List (Yaml Other × Yaml Other)) : Option (List String) :=
  match Yaml.get "depends_on" fields with
  | none => some []
  | some (.dict members) => members.mapM readDependency
  | some _ => none

def readService (member : Yaml Other × Yaml Other) : Option (String × Service String) :=
  match member.2 with
  | .dict fields =>
      member.1.key?.bind fun name =>
        (readDependencies fields).map fun dependsOn =>
          (name, ⟨dependsOn, (Yaml.get "healthcheck" fields).isSome⟩)
  | _ => none

def readServices (document : Yaml Other) : Option (List (String × Service String)) :=
  match lookup [.field "services"] document with
  | some (.dict members) => members.mapM readService
  | _ => none

/-- The short forms of the mounts of a service. -/
def readMounts (member : Yaml Other × Yaml Other) : Option (List String) :=
  match member.2 with
  | .dict fields =>
      match Yaml.get "volumes" fields with
      | none => some []
      | some (.list elements) => elements.mapM Yaml.key?
      | some _ => none
  | _ => none

/-- The volume in front of the colon, which no path starts like. -/
def namedVolume (mount : String) : Option String :=
  let source := mount.toList.takeWhile fun char => char != ':'
  if source.length = mount.toList.length then none
  else
    match source with
    | char :: rest => if char.isAlphanum then some (String.ofList (char :: rest)) else none
    | [] => none

/-- The volumes that the services use, service after service. -/
def usedVolumes (document : Yaml Other) : Option (List String) :=
  match lookup [.field "services"] document with
  | some (.dict members) =>
      (members.mapM readMounts).map fun mounts => mounts.flatten.filterMap namedVolume
  | _ => none

def declaredVolumes (document : Yaml Other) : Option (List String) :=
  match lookup [.field "volumes"] document with
  | some (.dict members) => members.mapM fun member => member.1.key?
  | _ => none

/-! ### Behind the interpolation -/

section Interpolated

variable {keeps : Bool} {environment : Environment}

theorem mapM_eq_some_iff {First : Type} {Second : Type} {read : First -> Option Second}
    {items : List First} {results : List Second} :
    items.mapM read = some results <->
      List.Forall₂ (fun item result => read item = some result) items results := by
  induction items generalizing results with
  | nil =>
      constructor
      · intro same
        cases same
        exact .nil
      · intro same
        cases same
        rfl
  | cons first rest inductionHypothesis =>
      rw [List.mapM_cons]
      constructor
      · intro both
        rcases Option.bind_eq_some_iff.mp both with ⟨result, own, tail⟩
        rcases Option.bind_eq_some_iff.mp tail with ⟨others, later, same⟩
        cases same
        exact .cons own (inductionHypothesis.mp later)
      · intro both
        cases both with
        | cons own later =>
            rw [own, Option.bind_eq_bind, Option.bind_some, inductionHypothesis.mpr later]
            rfl

/-- What is read entry by entry is read again from related entries. -/
theorem mapM_of_related {First Second : Type} {related : First -> First -> Prop}
    {read : First -> Option Second} {items made : List First} {results : List Second}
    (same : List.Forall₂ related items made)
    (kept : forall item value result, related item value -> result ∈ results ->
      read item = some result -> read value = some result)
    (whole : items.mapM read = some results) : made.mapM read = some results := by
  rw [mapM_eq_some_iff] at whole ⊢
  induction same generalizing results with
  | nil =>
      cases whole
      exact .nil
  | cons first later inductionHypothesis =>
      cases whole with
      | cons own others =>
          refine .cons (kept _ _ _ first (.head _) own) (inductionHypothesis ?_ others)
          intro item value result becomes listed
          exact kept item value result becomes (.tail _ listed)

/-- One entry of a dictionary and what it has become. -/
abbrev Becomes (keeps : Bool) (environment : Environment) (member value : Yaml Other × Yaml Other) :
    Prop :=
  value.1 = member.1 ∧ interpolateDocument keeps environment member.2 = some value.2

theorem interpolate_dict {members : List (Yaml Other × Yaml Other)} {made : Yaml Other}
    (done : interpolateDocument keeps environment (.dict members) = some made) :
    Exists fun others : List (Yaml Other × Yaml Other) =>
      interpolateMembers keeps environment members = some others ∧ made = .dict others := by
  rcases Option.map_eq_some_iff.mp done with ⟨others, inside, rfl⟩
  exact ⟨others, inside, rfl⟩

theorem interpolate_plain {text : String} (plain : NoDollar text) {made : Yaml Other}
    (done : interpolateDocument keeps environment (.str text) = some made) : made = .str text := by
  rcases Option.map_eq_some_iff.mp done with ⟨meaning, read, rfl⟩
  rw [interpolate_iff.mpr plain.inert environment] at read
  rw [← Option.some.inj read, String.ofList_toList]

theorem readDependency_of_becomes {member value : Yaml Other × Yaml Other} {name : String}
    (becomes : Becomes keeps environment member value)
    (read : readDependency member = some name) : readDependency value = some name := by
  rcases member with ⟨key, fields⟩
  rcases value with ⟨_, made⟩
  rcases becomes with ⟨rfl, done⟩
  unfold readDependency at read
  dsimp only at read
  cases fields with
  | dict fields =>
      rcases interpolate_dict done with ⟨others, inside, rfl⟩
      dsimp only at read
      cases found : Yaml.get "condition" fields with
      | none =>
          rw [found] at read
          cases read
      | some condition =>
          rw [found] at read
          rcases get_interpolateMembers inside found with ⟨meaning, own, kept⟩
          cases condition with
          | str condition =>
              dsimp only at read
              split at read
              · rename_i healthy
                subst healthy
                rw [interpolate_plain (by decide) own] at kept
                unfold readDependency
                dsimp only
                rw [kept]
                exact read
              · cases read
          | _ => cases read
  | _ => cases read

theorem get_none_of_interpolateMembers {members made : List (Yaml Other × Yaml Other)}
    {name : String} (inside : interpolateMembers keeps environment members = some made)
    (missing : Yaml.get name members = none) : Yaml.get name made = none := by
  have same := isSome_get_interpolateMembers inside name
  rw [missing] at same
  exact Option.isSome_eq_false_iff.mp same |> Option.isNone_iff_eq_none.mp

theorem readDependencies_interpolate {fields made : List (Yaml Other × Yaml Other)}
    {names : List String} (inside : interpolateMembers keeps environment fields = some made)
    (read : readDependencies fields = some names) : readDependencies made = some names := by
  unfold readDependencies at read ⊢
  cases found : Yaml.get "depends_on" fields with
  | none =>
      rw [found] at read
      rw [get_none_of_interpolateMembers inside found]
      exact read
  | some dependencies =>
      rw [found] at read
      rcases get_interpolateMembers inside found with ⟨meaning, own, kept⟩
      cases dependencies with
      | dict members =>
          rcases interpolate_dict own with ⟨others, deeper, rfl⟩
          rw [kept]
          exact mapM_of_related (forall₂_interpolateMembers deeper)
            (fun _ _ _ becomes _ => readDependency_of_becomes becomes) read
      | _ => cases read

theorem readService_of_becomes {member value : Yaml Other × Yaml Other}
    {entry : String × Service String} (becomes : Becomes keeps environment member value)
    (read : readService member = some entry) : readService value = some entry := by
  rcases member with ⟨key, fields⟩
  rcases value with ⟨_, made⟩
  rcases becomes with ⟨rfl, done⟩
  unfold readService at read
  dsimp only at read
  cases fields with
  | dict fields =>
      rcases interpolate_dict done with ⟨others, inside, rfl⟩
      rcases Option.bind_eq_some_iff.mp read with ⟨name, named, tail⟩
      rcases Option.map_eq_some_iff.mp tail with ⟨dependsOn, depends, rfl⟩
      unfold readService
      dsimp only
      rw [named, Option.bind_some, readDependencies_interpolate inside depends,
        isSome_get_interpolateMembers inside]
      rfl
  | _ => cases read

/-- A part of the document is there behind the interpolation. -/
theorem lookup_dict {part : String} {document made : Yaml Other}
    (done : interpolateDocument keeps environment document = some made)
    {members : List (Yaml Other × Yaml Other)}
    (found : lookup [.field part] document = some (.dict members)) :
    Exists fun others : List (Yaml Other × Yaml Other) =>
      interpolateMembers keeps environment members = some others ∧
        lookup [.field part] made = some (.dict others) := by
  cases document with
  | dict fields =>
      rcases interpolate_dict done with ⟨values, inside, rfl⟩
      rcases Option.bind_eq_some_iff.mp found with ⟨value, listed, same⟩
      cases same
      rcases get_interpolateMembers inside listed with ⟨meaning, own, kept⟩
      rcases interpolate_dict own with ⟨others, deeper, rfl⟩
      refine ⟨others, deeper, ?_⟩
      change (Yaml.get part values).bind (lookup []) = _
      rw [kept]
      rfl
  | _ => cases found

/-- The services are the same whatever the host has set. -/
theorem readServices_interpolate {document made : Yaml Other}
    {services : List (String × Service String)}
    (done : interpolateDocument keeps environment document = some made)
    (read : readServices document = some services) : readServices made = some services := by
  unfold readServices at read
  split at read
  · rename_i members found
    rcases lookup_dict done found with ⟨others, inside, kept⟩
    unfold readServices
    rw [kept]
    exact mapM_of_related (forall₂_interpolateMembers inside)
      (fun _ _ _ becomes _ => readService_of_becomes becomes) read
  · cases read

theorem declaredVolumes_interpolate {document made : Yaml Other} {names : List String}
    (done : interpolateDocument keeps environment document = some made)
    (read : declaredVolumes document = some names) : declaredVolumes made = some names := by
  unfold declaredVolumes at read
  split at read
  · rename_i members found
    rcases lookup_dict done found with ⟨others, inside, kept⟩
    unfold declaredVolumes
    rw [kept]
    refine mapM_of_related (forall₂_interpolateMembers inside) ?_ read
    intro member value name becomes _ named
    rw [becomes.1]
    exact named
  · cases read

theorem readMounts_of_becomes {member value : Yaml Other × Yaml Other} {mounts : List String}
    (becomes : Becomes keeps environment member value)
    (plain : forall mount, mount ∈ mounts -> NoDollar mount)
    (read : readMounts member = some mounts) : readMounts value = some mounts := by
  rcases member with ⟨key, fields⟩
  rcases value with ⟨_, made⟩
  rcases becomes with ⟨rfl, done⟩
  unfold readMounts at read
  dsimp only at read
  cases fields with
  | dict fields =>
      rcases interpolate_dict done with ⟨others, inside, rfl⟩
      dsimp only at read
      unfold readMounts
      dsimp only
      cases found : Yaml.get "volumes" fields with
      | none =>
          rw [found] at read
          rw [get_none_of_interpolateMembers inside found]
          exact read
      | some volumes =>
          rw [found] at read
          rcases get_interpolateMembers inside found with ⟨meaning, own, kept⟩
          cases volumes with
          | list elements =>
              rcases Option.map_eq_some_iff.mp own with ⟨values, deeper, rfl⟩
              rw [kept]
              refine mapM_of_related (forall₂_interpolateElements deeper) ?_ read
              intro element value mount interpolated listed text
              cases element with
              | str own =>
                  cases text
                  rw [interpolate_plain (plain mount listed) interpolated]
                  rfl
              | _ => cases text
          | _ => cases read
  | _ => cases read

theorem usedVolumes_interpolate {document made : Yaml Other}
    {members : List (Yaml Other × Yaml Other)} {mounts : List (List String)}
    (done : interpolateDocument keeps environment document = some made)
    (found : lookup [.field "services"] document = some (.dict members))
    (read : members.mapM readMounts = some mounts)
    (plain : forall mount, mount ∈ mounts.flatten -> NoDollar mount) :
    usedVolumes made = some (mounts.flatten.filterMap namedVolume) := by
  rcases lookup_dict done found with ⟨others, inside, kept⟩
  unfold usedVolumes
  rw [kept]
  dsimp only
  rw [mapM_of_related (forall₂_interpolateMembers inside) ?_ read]
  · rfl
  · intro member value own becomes listed
    refine readMounts_of_becomes becomes fun mount inner => ?_
    exact plain mount (List.mem_flatten.mpr ⟨own, listed, inner⟩)

end Interpolated

/-! ## The rendered file -/

section Rendered

variable (config : DjangoOpsConfig) (integrations : List IntegrationConfig)

/-- The services that others wait for. -/
def infrastructure : List String :=
  (if config.services.postgres then ["postgres"] else []) ++
    (if config.services.redis then ["redis"] else [])

/-- The services of the file, with what each waits for. -/
def services : List (String × Service String) :=
  [("traefik", ⟨[], false⟩),
    ("web", ⟨infrastructure config, (enabled? integrations "django-runtime").isSome⟩)] ++
    (if config.services.postgres then [("postgres", ⟨[], true⟩)] else []) ++
    (if config.services.redis then [("redis", ⟨[], true⟩)] else []) ++
    (if config.services.celery then [("celery", ⟨infrastructure config, false⟩)] else []) ++
    (if config.services.celeryBeat then [("celery_beat", ⟨infrastructure config, false⟩)]
    else [])

/-- The volumes of the file. -/
def volumes : List String :=
  ["traefik_acme"] ++ (if config.services.postgres then ["postgres_data"] else []) ++
    (if config.services.redis then ["redis_data"] else [])

theorem nodup_services : ((services config integrations).map Prod.fst).Nodup := by
  unfold services
  cases config.services.postgres <;> cases config.services.redis <;>
    cases config.services.celery <;> cases config.services.celeryBeat <;>
    simp only [if_true, if_false, Bool.false_eq_true, List.append_nil, List.map_append,
      List.map_cons, List.map_nil] <;> decide

/-- The project that Compose runs: the services of the rendered file with those that
they wait for and whether they have a health check. -/
def project : Project String where
  services := services config integrations
  distinct := nodup_services config integrations

theorem readDependencies_dependsOn {front : List (String × Yaml Other)}
    (missing : Dictionary.get "depends_on" front = none) :
    readDependencies (Yaml.record (front ++ dependsOn config) : List (Yaml Other × Yaml Other)) =
      some (infrastructure config) := by
  have behind : forall {rest : List (String × Yaml Other)},
      Dictionary.get "depends_on" (front ++ rest) = Dictionary.get "depends_on" rest := by
    intro rest
    unfold Dictionary.get at missing ⊢
    rw [List.find?_append, Option.map_eq_none_iff.mp missing]
    rfl
  unfold readDependencies
  rw [Yaml.get_record, behind]
  unfold dependsOn infrastructure
  cases config.services.postgres <;> cases config.services.redis <;> rfl

theorem readService_mapping {name : String} {members : List (String × Yaml Other)}
    {names : List String} (depends : readDependencies (Yaml.record members) = some names) :
    readService (.str name, mapping members) =
      some (name, ⟨names, (Dictionary.get "healthcheck" members).isSome⟩) := by
  change (readDependencies (Yaml.record members)).map _ = _
  rw [depends, Yaml.get_record]
  rfl

theorem readService_web :
    readService (.str "web", (mapping (webMembers config integrations) : Yaml Other)) =
      some ("web", (⟨infrastructure config, (enabled? integrations "django-runtime").isSome⟩ :
      Service String)) := by
  have depends : readDependencies (Yaml.record (webMembers config integrations) :
      List (Yaml Other × Yaml Other)) = some (infrastructure config) := by
    refine readDependencies_dependsOn config ?_
    unfold healthcheck
    cases enabled? integrations "django-runtime" with
    | none => rfl
    | some runtime => rfl
  rw [readService_mapping depends]
  have tested : (Dictionary.get "healthcheck" (webMembers config integrations :
      List (String × Yaml Other))).isSome = (enabled? integrations "django-runtime").isSome := by
    unfold webMembers healthcheck dependsOn
    cases enabled? integrations "django-runtime" with
    | some runtime => rfl
    | none => cases config.services.postgres <;> cases config.services.redis <;> rfl
  rw [tested]

theorem readService_celery (name component : String) (action : List String) :
    readService (.str name,
        (mapping (celeryMembers config integrations action component) : Yaml Other)) =
      some (name, (⟨infrastructure config, false⟩ : Service String)) := by
  have depends : readDependencies (Yaml.record
      (celeryMembers config integrations action component : List (String × Yaml Other))) =
        some (infrastructure config) :=
    readDependencies_dependsOn config rfl
  rw [readService_mapping depends]
  have tested : (Dictionary.get "healthcheck" (celeryMembers config integrations action component :
      List (String × Yaml Other))).isSome = false := by
    unfold celeryMembers dependsOn
    cases config.services.postgres <;> cases config.services.redis <;> rfl
  rw [tested]

/-- A part that is there only when it is switched on. -/
theorem forall₂_if {First Second : Type} {related : First -> Second -> Prop} {first : First}
    {second : Second} (on : Bool) (same : related first second) :
    List.Forall₂ related (if on then [first] else []) (if on then [second] else []) := by
  cases on with
  | true => exact .cons same .nil
  | false => exact .nil

theorem record_append (front back : List (String × Yaml Other)) :
    Yaml.record (front ++ back) = Yaml.record front ++ Yaml.record back := List.map_append

theorem record_if (on : Bool) (name : String) (value : Yaml Other) :
    Yaml.record (if on then [(name, value)] else []) = if on then [(.str name, value)] else [] := by
  cases on with
  | true => rfl
  | false => rfl

theorem lookup_part {part : String} {members : List (String × Yaml Other)}
    (found : Dictionary.get part [("name", .str config.project.name),
      ("services", mapping (renderedServices config integrations)),
      ("volumes", mapping (renderedVolumes config))] = some (mapping members)) :
    lookup [.field part] (composeDocument config integrations : Yaml Other) =
      some (.dict (Yaml.record members)) := by
  unfold composeDocument
  rw [lookup_field found]
  rfl

theorem readServices_composeDocument :
    readServices (composeDocument config integrations : Yaml Other) =
      some (services config integrations) := by
  have found : lookup [.field "services"] (composeDocument config integrations : Yaml Other) =
      some (.dict (Yaml.record (renderedServices config integrations))) :=
    lookup_part config integrations
      (get_cons_cons (by decide) _ (Dictionary.get_cons_self _ _ _))
  unfold readServices
  rw [found]
  refine mapM_eq_some_iff.mpr ?_
  unfold renderedServices services
  simp only [record_append, record_if]
  refine List.rel_append (List.rel_append (List.rel_append (List.rel_append ?_ ?_) ?_) ?_) ?_
  · exact .cons rfl (.cons (readService_web config integrations) .nil)
  · exact forall₂_if _ rfl
  · exact forall₂_if _ rfl
  · exact forall₂_if _ (readService_celery config integrations _ _ _)
  · exact forall₂_if _ (readService_celery config integrations _ _ _)

/-! ## Who waits for whom -/

theorem mem_if {First : Type} {on : Bool} {first item : First} :
    (item ∈ if on then [first] else []) <-> on = true ∧ item = first := by
  cases on with
  | true => simp only [if_true, List.mem_singleton, true_and]
  | false => simp only [Bool.false_eq_true, if_false, List.not_mem_nil, false_and]

theorem mem_infrastructure {name : String} : name ∈ infrastructure config <->
    (config.services.postgres = true ∧ name = "postgres") ∨
      (config.services.redis = true ∧ name = "redis") := by
  unfold infrastructure
  rw [List.mem_append, mem_if, mem_if]

theorem mem_writerServices {name : String} : name ∈ Restore.writerServices config <->
    name = "web" ∨ (config.services.celery = true ∧ name = "celery") ∨
      (config.services.celeryBeat = true ∧ name = "celery_beat") := by
  unfold Restore.writerServices
  rw [List.mem_cons, List.mem_append, mem_if, mem_if]

/-- A service is a writer, part of the infrastructure or the proxy. -/
theorem mem_services {name : String} {service : Service String}
    (listed : (name, service) ∈ services config integrations) :
    (name ∈ Restore.writerServices config ∧ service.dependsOn = infrastructure config) ∨
      (name ∈ infrastructure config ∧ service = ⟨[], true⟩) ∨
      (name = "traefik" ∧ service.dependsOn = []) := by
  unfold services at listed
  simp only [List.mem_append, mem_if, List.mem_cons, List.not_mem_nil, or_false, Prod.mk.injEq]
    at listed
  rcases listed with ((((⟨rfl, rfl⟩ | ⟨rfl, rfl⟩) | ⟨on, rfl, rfl⟩) | ⟨on, rfl, rfl⟩) |
    ⟨on, rfl, rfl⟩) | ⟨on, rfl, rfl⟩
  · exact .inr (.inr ⟨rfl, rfl⟩)
  · exact .inl ⟨(mem_writerServices config).mpr (.inl rfl), rfl⟩
  · exact .inr (.inl ⟨(mem_infrastructure config).mpr (.inl ⟨on, rfl⟩), rfl⟩)
  · exact .inr (.inl ⟨(mem_infrastructure config).mpr (.inr ⟨on, rfl⟩), rfl⟩)
  · exact .inl ⟨(mem_writerServices config).mpr (.inr (.inl ⟨on, rfl⟩)), rfl⟩
  · exact .inl ⟨(mem_writerServices config).mpr (.inr (.inr ⟨on, rfl⟩)), rfl⟩

theorem services_of_infrastructure {name : String} (member : name ∈ infrastructure config) :
    (name, (⟨[], true⟩ : Service String)) ∈ services config integrations := by
  unfold services
  simp only [List.mem_append, mem_if]
  rcases (mem_infrastructure config).mp member with ⟨on, rfl⟩ | ⟨on, rfl⟩
  · exact .inl (.inl (.inl (.inr ⟨on, rfl⟩)))
  · exact .inl (.inl (.inr ⟨on, rfl⟩))

theorem services_of_writer {name : String} (member : name ∈ Restore.writerServices config) :
    Exists fun service : Service String =>
      (name, service) ∈ services config integrations ∧
        service.dependsOn = infrastructure config := by
  unfold services
  simp only [List.mem_append, mem_if, List.mem_cons]
  rcases (mem_writerServices config).mp member with rfl | ⟨on, rfl⟩ | ⟨on, rfl⟩
  · exact ⟨_, .inl (.inl (.inl (.inl (.inr (.inl rfl))))), rfl⟩
  · exact ⟨_, .inl (.inr ⟨on, rfl⟩), rfl⟩
  · exact ⟨_, .inr ⟨on, rfl⟩, rfl⟩

/-- What nothing has to be up for starts first. -/
def rank (name : String) : Nat := if name = "postgres" ∨ name = "redis" then 0 else 1

theorem rank_writer {name : String} (member : name ∈ Restore.writerServices config) :
    rank name = 1 := by
  rcases (mem_writerServices config).mp member with rfl | ⟨_, rfl⟩ | ⟨_, rfl⟩ <;> rfl

theorem rank_infrastructure {name : String} (member : name ∈ infrastructure config) :
    rank name = 0 := by
  rcases (mem_infrastructure config).mp member with ⟨_, rfl⟩ | ⟨_, rfl⟩ <;> rfl

theorem sound_project : (project config integrations).Sound rank where
  depends := by
    intro name service listed other depends
    rcases mem_services config integrations listed with
      ⟨writer, same⟩ | ⟨_, rfl⟩ | ⟨_, same⟩
    · rw [same] at depends
      rw [rank_writer config writer, rank_infrastructure config depends]
      refine ⟨Nat.zero_lt_one, ⟨[], true⟩, ?_, rfl⟩
      exact services_of_infrastructure config integrations depends
    · cases depends
    · rw [same] at depends
      cases depends

/-! ## Volumes -/

/-- The mounts of the services, in the order of the services. -/
def mounts : List (List String) :=
  [["/var/run/docker.sock:/var/run/docker.sock:ro", "traefik_acme:/letsencrypt"], []] ++
    (if config.services.postgres then [["postgres_data:/var/lib/postgresql/data"]] else []) ++
    (if config.services.redis then [["redis_data:/data"]] else []) ++
    (if config.services.celery then [[]] else []) ++
    (if config.services.celeryBeat then [[]] else [])

theorem readMounts_mapping {name : String} {members : List (String × Yaml Other)}
    (missing : Dictionary.get "volumes" members = none) :
    readMounts (.str name, mapping members) = some [] := by
  unfold readMounts mapping
  dsimp only
  rw [Yaml.get_record, missing]

theorem mapM_readMounts : (Yaml.record (renderedServices config integrations) :
    List (Yaml Other × Yaml Other)).mapM readMounts = some (mounts config) := by
  have web : Dictionary.get "volumes" (webMembers config integrations :
      List (String × Yaml Other)) = none := by
    unfold webMembers healthcheck dependsOn
    cases enabled? integrations "django-runtime" <;> cases config.services.postgres <;>
      cases config.services.redis <;> rfl
  have celery : forall action component, Dictionary.get "volumes"
      (celeryMembers config integrations action component : List (String × Yaml Other)) = none := by
    intro action component
    unfold celeryMembers dependsOn
    cases config.services.postgres <;> cases config.services.redis <;> rfl
  refine mapM_eq_some_iff.mpr ?_
  unfold renderedServices mounts
  simp only [record_append, record_if]
  refine List.rel_append (List.rel_append (List.rel_append (List.rel_append ?_ ?_) ?_) ?_) ?_
  · exact .cons rfl (.cons (readMounts_mapping web) .nil)
  · exact forall₂_if _ rfl
  · exact forall₂_if _ rfl
  · exact forall₂_if _ (readMounts_mapping (celery _ _))
  · exact forall₂_if _ (readMounts_mapping (celery _ _))

theorem noDollar_mounts : forall mount, mount ∈ (mounts config).flatten -> NoDollar mount := by
  unfold mounts
  cases config.services.postgres <;> cases config.services.redis <;>
    cases config.services.celery <;> cases config.services.celeryBeat <;>
    simp only [if_true, if_false, Bool.false_eq_true, List.append_nil] <;> decide

theorem namedVolumes_mounts :
    (mounts config).flatten.filterMap namedVolume = volumes config := by
  unfold mounts volumes
  cases config.services.postgres <;> cases config.services.redis <;>
    cases config.services.celery <;> cases config.services.celeryBeat <;> rfl

theorem declaredVolumes_composeDocument :
    declaredVolumes (composeDocument config integrations : Yaml Other) =
      some (volumes config) := by
  have found : lookup [.field "volumes"] (composeDocument config integrations : Yaml Other) =
      some (.dict (Yaml.record (renderedVolumes config))) :=
    lookup_part config integrations (get_cons_cons (by decide) _
      (get_cons_cons (by decide) _ (Dictionary.get_cons_self _ _ _)))
  unfold declaredVolumes
  rw [found]
  refine mapM_eq_some_iff.mpr ?_
  unfold renderedVolumes volumes
  simp only [record_append, record_if]
  refine List.rel_append (List.rel_append ?_ ?_) ?_
  · exact .cons rfl .nil
  · exact forall₂_if _ rfl
  · exact forall₂_if _ rfl

theorem nodup_volumes : (volumes config).Nodup := by
  unfold volumes
  cases config.services.postgres <;> cases config.services.redis <;>
    simp only [if_true, if_false, Bool.false_eq_true, List.append_nil] <;> decide

/-- The file that is interpolated names only services and volumes that it has,
all services can be brought up from whatever has stopped or failed, and while
they are brought up no writer runs before its databases are healthy. -/
theorem startup_of_rendered {keeps : Bool} {environment : Environment} {document : Yaml Other}
    (done : interpolateDocument keeps environment (composeDocument config integrations) =
      some document) :
    readServices document = some (project config integrations).services ∧
      (forall state : String -> Status, Exists fun after : String -> Status =>
        (project config integrations).Path state after ∧
          (project config integrations).AllUp after) ∧
      (forall state : String -> Status,
        (project config integrations).machine.ReachableUnder
          (fun _ action => action.starting = true) state ->
        forall name, name ∈ Restore.writerServices config -> state name ≠ .stopped ->
          forall other, other ∈ infrastructure config -> state other = .healthy) ∧
      Exists fun names : List String =>
        usedVolumes document = some names ∧ declaredVolumes document = some names ∧
          names.Nodup := by
  refine ⟨readServices_interpolate done (readServices_composeDocument config integrations),
    (sound_project config integrations).recovers, ?_, volumes config, ?_, ?_, ?_⟩
  · intro state reached name writer running other depends
    rcases services_of_writer config integrations writer with ⟨service, listed, same⟩
    have ready := Startup.Project.ready_of_starting reached name service listed running other
    rw [same] at ready
    exact ready depends
  · have found : lookup [.field "services"] (composeDocument config integrations : Yaml Other) =
        some (.dict (Yaml.record (renderedServices config integrations))) :=
      lookup_part config integrations
        (get_cons_cons (by decide) _ (Dictionary.get_cons_self _ _ _))
    rw [usedVolumes_interpolate done found (mapM_readMounts config integrations)
      (noDollar_mounts config), namedVolumes_mounts]
  · exact declaredVolumes_interpolate done (declaredVolumes_composeDocument config integrations)
  · exact nodup_volumes config

/-! ## The restore and the file -/

/-- `docker compose config --services` -/
def listedServices (document : Yaml Other) : Option (List String) :=
  (readServices document).map fun services => services.map Prod.fst

/-- The actions that start no writer. -/
abbrev Quiet (_ : String -> Status) (action : Action String) : Prop :=
  forall name, name ∈ Restore.writerServices config -> action ≠ .start name

theorem checks_pass_iff :
    (forall name, Restore.Look.service name ∈ Restore.preflight config ->
      name ∈ (services config integrations).map Prod.fst) <-> config.services.postgres = true := by
  have checked : forall name, Restore.Look.service name ∈ Restore.preflight config <->
      name = "postgres" ∨ name ∈ Restore.writerServices config := by
    intro name
    unfold Restore.preflight Restore.runtimePreflight
    simp only [List.append_eq, List.mem_append, List.mem_cons, List.mem_map,
      Restore.Look.service.injEq, List.not_mem_nil, reduceCtorEq, false_or, exists_eq_right]
  constructor
  · intro all
    have member := all "postgres" ((checked "postgres").mpr (.inl rfl))
    rcases List.mem_map.mp member with ⟨⟨_, service⟩, listed, rfl⟩
    rcases mem_services config integrations listed with ⟨writer, _⟩ | ⟨inside, _⟩ | ⟨same, _⟩
    · rcases (mem_writerServices config).mp writer with same | ⟨_, same⟩ | ⟨_, same⟩
      · exact absurd same (by decide)
      · exact absurd same (by decide)
      · exact absurd same (by decide)
    · rcases (mem_infrastructure config).mp inside with ⟨on, _⟩ | ⟨_, same⟩
      · exact on
      · exact absurd same (by decide)
    · exact absurd same (by decide)
  · intro on name look
    rcases (checked name).mp look with rfl | writer
    · have member : "postgres" ∈ infrastructure config :=
        (mem_infrastructure config).mpr (.inl ⟨on, rfl⟩)
      exact List.mem_map.mpr ⟨_, services_of_infrastructure config integrations member, rfl⟩
    · rcases services_of_writer config integrations writer with ⟨service, listed, _⟩
      exact List.mem_map.mpr ⟨_, listed, rfl⟩

/-- Only writers wait for the database. -/
theorem writer_of_depends {name other : String} {service : Service String}
    (listed : (name, service) ∈ services config integrations)
    (depends : other ∈ service.dependsOn) : name ∈ Restore.writerServices config := by
  rcases mem_services config integrations listed with ⟨writer, _⟩ | ⟨_, rfl⟩ | ⟨_, same⟩
  · exact writer
  · cases depends
  · rw [same] at depends
    cases depends

/-- The writers stay stopped while nobody starts them. -/
theorem stopped_of_quiet {before after : String -> Status}
    (down : forall name, name ∈ Restore.writerServices config -> before name = .stopped)
    (path : Relation.ReflTransGen
      ((project config integrations).machine.StepUnder (Quiet config)) before after) :
    forall name, name ∈ Restore.writerServices config -> after name = .stopped := by
  induction path with
  | refl => exact down
  | tail earlier last inductionHypothesis =>
      rename_i middle final
      rcases last with ⟨action, quiet, stepped⟩
      intro name writer
      have still := inductionHypothesis name writer
      exact Project.stopped_of_step still (quiet name writer) stepped

/-- The checks of a restore find their services in the file exactly when it has
a database.  Behind the stop of the writers, which stops nothing else, no
service that waits for an infrastructure service runs until somebody starts a
writer, and everything can be brought up again. -/
theorem restore_of_rendered {keeps : Bool} {environment : Environment} {document : Yaml Other}
    (done : interpolateDocument keeps environment (composeDocument config integrations) =
      some document) :
    Exists fun names : List String =>
      listedServices document = some names ∧
      ((forall name, Restore.Look.service name ∈ Restore.preflight config -> name ∈ names) <->
        config.services.postgres = true) ∧
      forall state : String -> Status,
        Relation.ReflTransGen ((project config integrations).machine.StepUnder fun _ action =>
          Exists fun name : String => name ∈ Restore.writerServices config ∧ action = .stop name)
          state (Project.stopAll (Restore.writerServices config) state) ∧
        forall after : String -> Status,
          Relation.ReflTransGen ((project config integrations).machine.StepUnder (Quiet config))
            (Project.stopAll (Restore.writerServices config) state) after ->
          (forall name service, (name, service) ∈ (project config integrations).services ->
            service.dependsOn ≠ [] -> after name = .stopped) ∧
          Exists fun final : String -> Status =>
            (project config integrations).Path after final ∧
              (project config integrations).AllUp final := by
  refine ⟨(services config integrations).map Prod.fst, ?_, checks_pass_iff config integrations, ?_⟩
  · unfold listedServices
    rw [readServices_interpolate done (readServices_composeDocument config integrations)]
    rfl
  · intro state
    refine ⟨Project.path_stopAll _ _ state, fun after path => ⟨?_, ?_⟩⟩
    · intro name service listed depends
      have down : forall name, name ∈ Restore.writerServices config ->
          Project.stopAll (Restore.writerServices config) state name = .stopped :=
        fun name writer => if_pos writer
      rcases List.exists_mem_of_ne_nil _ depends with ⟨other, member⟩
      exact stopped_of_quiet config integrations down path name
        (writer_of_depends config integrations listed member)
    · exact (sound_project config integrations).recovers after

end Rendered

/-- A host that has set the secrets. -/
def sampleEnvironment : Environment := fun name =>
  if ["POSTGRES_PASSWORD", "AWS_ACCESS_KEY_ID", "AWS_SECRET_ACCESS_KEY"].any fun secret =>
      decide (name = secret.toList) then some "secret".toList
  else none

theorem sample_interpolates : Exists fun document : Yaml Empty =>
    interpolateDocument true sampleEnvironment (composeDocument sampleConfig sampleIntegrations) =
      some document :=
  Option.isSome_iff_exists.mp (by decide +kernel)

/-- In the sample file the web service gets to run, with both databases healthy. -/
theorem startup_of_rendered_sample : Exists fun state : String -> Status =>
    state "web" = .healthy ∧ state "postgres" = .healthy ∧ state "redis" = .healthy := by
  rcases sample_interpolates with ⟨document, done⟩
  have facts := startup_of_rendered sampleConfig sampleIntegrations done
  rcases Transition.Machine.exists_reachableUnder_of_replay
      (project sampleConfig sampleIntegrations).machine (fun _ action => action.starting = true)
      [.start "redis", .start "postgres", .pass "postgres", .pass "redis", .start "web",
        .pass "web"]
      (fun _ => .stopped) (fun _ => rfl) (fun state => decide (state "web" = .healthy))
      (by decide +kernel) with ⟨state, reached, up⟩
  have web : state "web" = .healthy := of_decide_eq_true up
  have running : state "web" ≠ .stopped := by
    rw [web]
    exact fun same => nomatch same
  have databases := facts.2.2.1 state reached "web" (by decide) running
  exact ⟨state, web, databases "postgres" (by decide), databases "redis" (by decide)⟩

/-- The sample file has every service that a restore looks for. -/
theorem restore_of_rendered_sample : Exists fun document : Yaml Empty =>
    interpolateDocument true sampleEnvironment (composeDocument sampleConfig sampleIntegrations) =
        some document ∧
      Exists fun names : List String => listedServices document = some names ∧
        forall name, Restore.Look.service name ∈ Restore.preflight sampleConfig ->
          name ∈ names := by
  rcases sample_interpolates with ⟨document, done⟩
  rcases restore_of_rendered sampleConfig sampleIntegrations done with ⟨names, listed, checks, _⟩
  exact ⟨document, done, names, listed, checks.mpr (by decide)⟩

end Compose
end Cli
end DjangoOps
