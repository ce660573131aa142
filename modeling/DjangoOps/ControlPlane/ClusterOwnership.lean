import DjangoOps.Foundation.Url
import DjangoOps.ControlPlane.Sanitisation
import DjangoOps.ControlPlane.TargetRegistration

namespace DjangoOps
namespace ControlPlane

open Protocol Gateway OperationsService

universe u

namespace Console

variable {Number : Type u} {setting : Setting Number}

/-!
# Who owns a release on a cluster

A target names an API endpoint, a namespace and a release.  `register_target`
and the constraint of the table compare the endpoints as they are spelled, and
only slashes at the end are dropped from a spelling.  So two projects can own
one release as soon as they spell its endpoint differently, and not before.
-/

/-! ## Endpoints -/

/-- What an API server denotes.  The rest is what follows the network location. -/
structure Endpoint where
  scheme : List Char
  userinfo : Option (List Char)
  host : List Char
  port : List Char
  rest : List Char
  deriving DecidableEq

/-- The host, with its brackets, and the port, which may be missing. -/
def hostAndPort (hostinfo : List Char) : List Char × List Char :=
  if '[' ∈ hostinfo then
    let bracketed := Url.partition ']' hostinfo
    (bracketed.1 ++ [']'], (Url.partition ':' bracketed.2).2)
  else Url.partition ':' hostinfo

/-- The endpoint behind a spelling: the cases of the scheme and of the host are
folded, slashes at the end are dropped, and a missing port is 443. -/
def endpoint (casing : Lowercase) (server : String) : Endpoint :=
  let behindScheme := Url.partition ':' (rstrip (fun char => char == '/') server.toList)
  let behindNetloc := Url.splitNetloc behindScheme.2
  let parts : Url.Split :=
    { scheme := behindScheme.1, netloc := behindNetloc.1, path := behindNetloc.2
      query := [], fragment := [] }
  let host := hostAndPort parts.hostinfo
  { scheme := behindScheme.1.flatMap casing.lower
    userinfo := parts.userinfo
    host := host.1.flatMap casing.lower
    port := if host.2 = [] then ['4', '4', '3'] else host.2
    rest := behindNetloc.2 }

/-- What a target stands for on a cluster. -/
def denoted (casing : Lowercase) (fields : TargetFields) :
    Endpoint × String × String :=
  (endpoint casing fields.apiServer, fields.namespaceName, fields.releaseName)

/-- No two targets of different projects stand for the same release. -/
def Owned (casing : Lowercase) (database : Database) : Prop :=
  Table.Exclusive (fun row : TargetRow => denoted casing row.fields)
    (fun row => row.fields.project) database.targets

/-- The targets of other projects that stand for the same release are spelled
in the same way. -/
def SpelledAlike (casing : Lowercase) (database : Database) (fields : TargetFields) : Prop :=
  forall row, row ∈ database.targets -> row.fields.project ≠ fields.project ->
    denoted casing row.fields = denoted casing fields ->
      row.fields.apiServer = fields.apiServer

instance (casing : Lowercase) (database : Database) (fields : TargetFields) :
    Decidable (SpelledAlike casing database fields) :=
  inferInstanceAs (Decidable (forall row, row ∈ database.targets -> _))

/-- A row that is inserted is spelled like those of other projects. -/
def Alike (setting : Setting Number) (state : State) (action : Nat × Input Number) : Prop :=
  (match action.2, (state.calls action.1).phase with
    | .insert _, .creating fields =>
        state.database.identityTaken fields ||
          decide (SpelledAlike setting.letters.lower state.database fields)
    | _, _ => true) = true

instance (state : State) (action : Nat × Input Number) : Decidable (Alike setting state action) :=
  inferInstanceAs (Decidable (_ = true))

/-! ## What a step does to the owners -/

section Step

variable {database : Database} {call after : Call} {input : Input Number}
  {statement : Option Statement}

/-- A row whose identity is free keeps the owners exactly when it is spelled
like the others. -/
theorem owned_insert {casing : Lowercase} {fields : TargetFields}
    (free : database.identityTaken fields = false) (drawn : Drawn) :
    Owned casing (database.execute (.createTarget (newTarget database fields drawn))) <->
      Owned casing database ∧ SpelledAlike casing database fields := by
  have apart : forall row, row ∈ database.targets -> denoted casing row.fields =
      denoted casing fields -> row.fields.apiServer ≠ fields.apiServer := by
    intro row listed same spelled
    have other := List.any_eq_false.mp free row listed
    apply other
    apply decide_eq_true
    have rest := congrArg Prod.snd same
    unfold denoted at rest
    unfold TargetFields.identity
    rw [spelled, show (row.fields.namespaceName, row.fields.releaseName) =
      (fields.namespaceName, fields.releaseName) from rest]
  refine Table.exclusive_cons.trans (and_congr_right fun _ => ?_)
  constructor
  · intro same row listed foreign denotes
    exact absurd (same row listed denotes) foreign
  · intro alike row listed denotes
    by_contra foreign
    exact apart row listed denotes (alike row listed foreign denotes)

/-- Apart from an insertion every row has the fields of an earlier one. -/
theorem origin_of_registration (move : Registration database call input statement after)
    (kept : forall fields drawn, call.phase = .creating fields -> input ≠ .insert drawn)
    {row : TargetRow} (listed : row ∈ (State.execute database statement).targets) :
    Exists fun earlier : TargetRow => earlier ∈ database.targets ∧ earlier.fields = row.fields := by
  cases move with
  | background _ _ spares _ => exact ⟨row, (spares database).1 ▸ listed, rfl⟩
  | outside _ _ _ spares _ _ _ _ => exact ⟨row, (spares database).1 ▸ listed, rfl⟩
  | created fields drawn creating => exact absurd rfl (kept fields drawn creating)
  | stored target validation now storing =>
      rcases Table.mem_update.mp listed with ⟨earlier, known, _, rfl⟩ | ⟨known, _⟩
      · exact ⟨earlier, known, rfl⟩
      · exact ⟨row, known, rfl⟩
  | removed target removing free => exact ⟨row, List.mem_of_mem_filter listed, rfl⟩
  | _ => exact ⟨row, listed, rfl⟩

theorem owned_of_registration {casing : Lowercase}
    (move : Registration database call input statement after)
    (kept : forall fields drawn, call.phase = .creating fields -> input ≠ .insert drawn)
    (owned : Owned casing database) : Owned casing (State.execute database statement) := by
  apply owned.of_origin
  intro row listed
  rcases origin_of_registration move kept listed with ⟨earlier, known, same⟩
  exact ⟨earlier, known, congrArg (denoted casing) same, congrArg TargetFields.project same⟩

/-- The table refuses the fields of a registration or takes them. -/
theorem advance_insert {fields : TargetFields} {drawn : Drawn}
    (creating : call.phase = .creating fields)
    (advanced : advance setting database call (.insert drawn) = some (statement, after)) :
    (database.identityTaken fields = true ∧ statement = none) ∨
      (database.identityTaken fields = false ∧
        statement = some (.createTarget (newTarget database fields drawn))) := by
  simp only [advance, creating] at advanced
  split at advanced
  · rename_i taken
    cases advanced
    exact Or.inl ⟨taken, rfl⟩
  · rename_i free
    cases advanced
    exact Or.inr ⟨Bool.eq_false_of_not_eq_true free, rfl⟩

end Step

/-- A step keeps the owners exactly when the row that it inserts is spelled
like the others. -/
theorem owned_step {before after : State} {action : Nat × Input Number}
    (owned : Owned setting.letters.lower before.database)
    (stepped : step setting before action = some after) :
    Owned setting.letters.lower after.database <-> Alike setting before action := by
  rcases action with ⟨number, input⟩
  rcases step_advance stepped with ⟨fresh, statement, call, advanced, rfl⟩
  by_cases inserts : Exists fun fields : TargetFields => Exists fun drawn : Drawn =>
      (before.calls number).phase = .creating fields ∧ input = .insert drawn
  · rcases inserts with ⟨fields, drawn, creating, rfl⟩
    unfold Alike
    dsimp only
    rw [creating]
    dsimp only
    rcases advance_insert creating advanced with ⟨taken, rfl⟩ | ⟨free, rfl⟩
    · rw [taken]
      exact iff_of_true owned rfl
    · rw [free, Bool.false_or, decide_eq_true_eq]
      exact (owned_insert free drawn).trans (and_iff_right owned)
  · have registration := registration_of_move (advance_move advanced)
    constructor
    · intro _
      unfold Alike
      dsimp only
      split
      · rename_i drawn fields creating fresh
        exact absurd ⟨fields, drawn, creating, rfl⟩ inserts
      · rfl
    · intro _
      apply owned_of_registration registration _ owned
      intro fields drawn creating same
      exact inserts ⟨fields, drawn, creating, same⟩

theorem owned_of_reachable {state : State}
    (reached : (machine setting (Owned setting.letters.lower)).ReachableUnder (Alike setting)
      state) : Owned setting.letters.lower state.database := by
  apply reached.invariant
  · intro start starts
    exact starts.admissible
  · intro before action after _ owned alike stepped
    exact (owned_step owned stepped).mpr alike

/-- A step of `register_target` keeps two projects from owning one release
exactly when no other project spells its endpoint differently, and so does a
whole run.  Endpoints are compared as texts, apart from slashes at their ends, so
that a host name in capitals passes for another cluster. -/
theorem cluster_ownership (setting : Setting Number) :
    (forall before after action, Owned setting.letters.lower before.database ->
      step setting before action = some after ->
      (Owned setting.letters.lower after.database <-> Alike setting before action)) ∧
    (forall state,
      (machine setting (Owned setting.letters.lower)).ReachableUnder (Alike setting) state ->
      Owned setting.letters.lower state.database) :=
  ⟨fun _ _ _ owned stepped => owned_step owned stepped, fun _ reached => owned_of_reachable reached⟩

/-! ## Two projects on one cluster -/

/-- The URLs of the samples have neither brackets nor characters to normalise. -/
def clusterSetting : Setting Int where
  python := .standard .decimal (fun _ => "")
    { unbalanced := .valueError "Invalid IPv6 URL"
      bracketed := fun _ => .ok (), normalised := fun _ => .ok () }
  letters := .simple
  sha256 := fun _ => ""
  int := fun text => if text = "1" then some 1 else if text = "2" then some 2 else none
  uuid := some

/-- Two projects, each with one member and one agent. -/
def twoProjects : Database :=
  { sampleDatabase with
    projects := [⟨1, "shop", "Shop", "current", [7]⟩, ⟨2, "bank", "Bank", "current", [8]⟩]
    agents := [⟨1, 1, "agent-1", []⟩, ⟨2, 2, "agent-2", []⟩] }

def clusterMachine : Transition.Machine State (Nat × Input Int) :=
  machine clusterSetting (Owned clusterSetting.letters.lower)

theorem twoProjects_starts : clusterMachine.initial (.fresh twoProjects) :=
  starts_of_empty rfl rfl rfl fun _ _ impossible => absurd impossible List.not_mem_nil

/-- A call that registers the release of the sample on a cluster, and succeeds. -/
def confirmTarget (number user : Nat) (key server : String) : List (Nat × Input Int) :=
  [(number, .issue user
      (.registerKubernetesTarget key key { sampleArguments with apiServer := server })
      ⟨"a" ++ key, "b" ++ key, 0⟩),
    (number, .insert ⟨"c" ++ key, "d" ++ key, 1⟩),
    (number, .validated (.ok ⟨true, true, true, requiredPermissions⟩)), (number, .store 2)]

/-- Both calls have returned a target. -/
def bothRegistered (state : State) : Bool :=
  match (state.calls 0).phase, (state.calls 1).phase with
  | .registered (some 1) (.ok 1), .registered (some 2) (.ok 2) => true
  | _, _ => false

/-- Targets of different projects stand for the same release. -/
def shares (casing : Lowercase) (database : Database) : Bool :=
  database.targets.any fun first => database.targets.any fun second =>
    decide (denoted casing first.fields = denoted casing second.fields) &&
      decide (first.fields.project ≠ second.fields.project)

theorem not_owned_of_shares {casing : Lowercase} {database : Database}
    (shared : shares casing database = true) : Not (Owned casing database) := by
  intro owned
  rcases List.any_eq_true.mp shared with ⟨first, left, rest⟩
  rcases List.any_eq_true.mp rest with ⟨second, right, both⟩
  rw [Bool.and_eq_true, decide_eq_true_eq, decide_eq_true_eq] at both
  exact both.2 (owned first second left right both.1)

/-- A capital letter and the default port make another spelling of an endpoint. -/
theorem spelling_shares_release :
    Exists fun state : State =>
      clusterMachine.Reachable state ∧ bothRegistered state = true ∧
        Not (Owned clusterSetting.letters.lower state.database) := by
  rcases clusterMachine.exists_reachableUnder_of_replay (fun _ _ => True)
      (confirmTarget 0 7 "1" "https://cluster.example/" ++
        confirmTarget 1 8 "2" "https://Cluster.example:443")
      (.fresh twoProjects) twoProjects_starts
      (fun state => bothRegistered state && shares clusterSetting.letters.lower state.database)
      (by decide +kernel) with ⟨state, reached, tested⟩
  rw [Bool.and_eq_true] at tested
  exact ⟨state, reached, tested.1, not_owned_of_shares tested.2⟩

/-- The projects register on two clusters. -/
theorem cluster_ownership_apart :
    Exists fun state : State =>
      Owned clusterSetting.letters.lower state.database ∧ bothRegistered state = true := by
  rcases clusterMachine.exists_reachableUnder_of_replay (Alike clusterSetting)
      (confirmTarget 0 7 "1" "https://cluster.example/" ++
        confirmTarget 1 8 "2" "https://other.example")
      (.fresh twoProjects) twoProjects_starts bothRegistered (by decide +kernel) with
    ⟨state, reached, tested⟩
  exact ⟨state, (cluster_ownership clusterSetting).2 state reached, tested⟩

end Console
end ControlPlane
end DjangoOps
