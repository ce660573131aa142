import DjangoOps.Agent.Executor
import DjangoOps.Agent.Unmarshal
import DjangoOps.Agreement.ImageReference
import DjangoOps.ControlPlane.Consistency
import DjangoOps.ControlPlane.Correlation

namespace DjangoOps
namespace Agreement

open Protocol ControlPlane Console

universe u

/-!
# Two validations of a release

The control plane validates a target when it is registered and the image and
the values when a release starts; the agent validates the request that arrives.
Names, references, images and job ids are checked by the same patterns on both
sides.  The values travel as a JSON text.  Python encodes an integer of any
size, and the agent decodes numbers into `float64`.
-/

/-! ## Names and references -/

theorem isDnsCharacter_eq (char : Char) :
    Agent.Executor.isDnsCharacter char = (char.isLower || char.isDigit) := rfl

/-- The label pattern of the control plane with a bound is that of the agent. -/
theorem dnsName_of_matchesLabel {name : String} {bound : Nat} (label : matchesLabel name = true)
    (short : name.length ≤ bound) : Agent.Executor.dnsName name bound = true := by
  unfold matchesLabel at label
  unfold Agent.Executor.dnsName
  rw [decide_eq_true short]
  cases chars : name.toList with
  | nil =>
      rw [chars] at label
      cases label
  | cons first rest =>
      rw [chars] at label
      simp only [List.head?_cons, Option.map_some, Option.getD_some, Bool.and_eq_true,
        List.all_cons, List.getLast?_eq_some_getLast (List.cons_ne_nil first rest)] at label
      simp only [isDnsCharacter_eq, Bool.and_eq_true]
      exact ⟨⟨⟨label.1.1, label.2.2⟩, label.1.2⟩, trivial⟩

/-- A name that the control plane accepts is a name for the agent. -/
theorem dnsName_of_validateName {value name : String} {release : Bool}
    (accepted : validateName value release = .ok name) :
    Agent.Executor.dnsName name (if release then 53 else 63) = true := by
  unfold validateName at accepted
  dsimp only at accepted
  by_cases refused : strip value = "" ∨ (if release then 53 else 63) < (strip value).length ∨
      matchesLabel (strip value) = false
  · rw [if_pos refused] at accepted
    cases accepted
  · rw [if_neg refused] at accepted
    rw [not_or, not_or, Bool.not_eq_false, Nat.not_lt] at refused
    rw [← Except.ok.inj accepted]
    exact dnsName_of_matchesLabel refused.2.2 refused.2.1

theorem credentialRef_eq (text : String) :
    Agent.Executor.credentialRef text = matchesCredentialRef text := by
  have classes (char : Char) :
      (isIdCharacter char || char == ':' || char == '/') =
        (char.isAlphanum || char == ':' || char == '/' || char == '_' || char == '.' ||
          char == '-') := by
    unfold isIdCharacter
    rw [isAsciiAlphanumeric_eq]
    cases char.isAlphanum <;> cases char == '.' <;> cases char == '_' <;> cases char == '-' <;>
      cases char == ':' <;> cases char == '/' <;> rfl
  unfold Agent.Executor.credentialRef matchesCredentialRef
  cases text.toList with
  | nil => rfl
  | cons first rest => simp only [isAsciiAlphanumeric_eq, classes]

theorem validateCredentialRef_ok {value reference : String}
    (accepted : validateCredentialRef value = .ok reference) :
    Agent.Executor.credentialRef reference = true := by
  unfold validateCredentialRef at accepted
  by_cases matched : matchesCredentialRef value = true
  · rw [if_pos matched] at accepted
    rw [← Except.ok.inj accepted, credentialRef_eq]
    exact matched
  · rw [if_neg matched] at accepted
    cases accepted

/-! ## Targets and job ids -/

variable {Number : Type u}

/-- The fields of a target that travel to the agent pass its checks. -/
structure Registered (fields : TargetFields) : Prop where
  namespaceName : Agent.Executor.dnsName fields.namespaceName 63 = true
  releaseName : Agent.Executor.dnsName fields.releaseName 53 = true
  credentialRef : Agent.Executor.credentialRef fields.credentialRef = true

theorem registered_of_prepareTarget {python : Python Number} {database : Database}
    {project : Project} {agent : AgentRegistration} {arguments : TargetArguments}
    {fields : TargetFields}
    (prepared : prepareTarget python database project agent arguments = .ok fields) :
    Registered fields := by
  unfold prepareTarget at prepared
  split at prepared
  · cases prepared
  · rcases bind_eq_ok prepared with ⟨apiServer, _, first⟩
    rcases bind_eq_ok first with ⟨namespaceName, named, second⟩
    rcases bind_eq_ok second with ⟨releaseName, released, third⟩
    split at third
    · cases third
    · rcases bind_eq_ok third with ⟨reference, referred, fourth⟩
      rcases bind_eq_ok fourth with ⟨ingressClass, _, fifth⟩
      rcases bind_eq_ok fifth with ⟨tlsSecretName, _, made⟩
      cases made
      exact ⟨dnsName_of_validateName named, dnsName_of_validateName released,
        validateCredentialRef_ok referred⟩

/-- `f"k8s-\x7buuid.uuid4().hex[:20]\x7d"` -/
def isOperationId (text : String) : Bool :=
  decide (text.toList.take 4 = "k8s-".toList) && decide ((text.toList.drop 4).length = 20) &&
    (text.toList.drop 4).all Agent.Executor.isHex

theorem isIdCharacter_of_isHex {char : Char} (hex : Agent.Executor.isHex char = true) :
    isIdCharacter char = true := by
  have lower : Agent.Executor.isHex char = true -> isAsciiAlphanumeric char = true := by
    unfold Agent.Executor.isHex isAsciiAlphanumeric
    simp only [Bool.or_eq_true, Bool.and_eq_true, decide_eq_true_eq]
    rintro (letter | digit)
    · exact .inl (.inl ⟨letter.1, letter.2.trans (by decide)⟩)
    · exact .inr digit
  unfold isIdCharacter
  rw [lower hex]
  rfl

/-- The id of a release is a safe job id. -/
theorem safeJobID_of_isOperationId {text : String} (drawn : isOperationId text = true) :
    safeJobID text = true := by
  unfold isOperationId at drawn
  simp only [Bool.and_eq_true, decide_eq_true_eq] at drawn
  rcases drawn with ⟨⟨start, length⟩, hex⟩
  have whole := List.take_append_drop 4 text.toList
  rw [start] at whole
  unfold safeJobID
  rw [← whole]
  generalize text.toList.drop 4 = digits at length hex
  change (isAsciiAlphanumeric 'k' && (['8', 's', '-'] ++ digits).all isIdCharacter &&
    decide ((['8', 's', '-'] ++ digits).length ≤ 63)) = true
  rw [List.all_append, List.length_append, length, Bool.and_eq_true, Bool.and_eq_true,
    Bool.and_eq_true]
  refine ⟨⟨by decide, by decide, ?_⟩, by decide⟩
  exact List.all_eq_true.mpr fun char listed =>
    isIdCharacter_of_isHex (List.all_eq_true.mp hex char listed)

/-! ## The values on their way -/

section Values

variable {python : Python Number}

/-- A block without lists, dictionaries and numbers. -/
def Flat (members : List (String × Json Number)) : Prop :=
  forall member, member ∈ members ->
    (Exists fun value : Bool => member.2 = .bool value) ∨
      Exists fun text : String => member.2 = .string text

theorem Flat.fitsMembers {members : List (String × Json Number)} (flat : Flat members)
    (number : Number -> Bool) (depth : Nat) : Json.fitsMembers number depth members = true := by
  rw [Json.fitsMembers_eq, List.all_eq_true]
  intro member listed
  rcases flat member listed with ⟨value, same⟩ | ⟨text, same⟩ <;> rw [same, Json.fits]

theorem Flat.set {members : List (String × Json Number)} (flat : Flat members) (key text : String) :
    Flat (Json.set key (.string text) members) := by
  intro member listed
  rcases Json.mem_set listed with rfl | known
  · exact .inr ⟨text, rfl⟩
  · exact flat member known

theorem Flat.canonical {members : List (String × Json Number)} (flat : Flat members) :
    Exists fun sorted : List (String × Json Number) =>
      (Json.object members).canonical = .object sorted ∧ Flat sorted := by
  refine ⟨_, Json.canonical_object members, ?_⟩
  intro member listed
  rcases List.mem_map.mp ((Json.sortMembers_perm _).mem_iff.mp listed) with ⟨inner, known, rfl⟩
  rcases flat inner known with ⟨value, same⟩ | ⟨text, same⟩
  · exact .inl ⟨value, by rw [Json.canonicalMember, same, Json.canonical]⟩
  · exact .inr ⟨text, by rw [Json.canonicalMember, same, Json.canonical]⟩

/-- The observability block of accepted values is flat.  Values without a block
get none, since nothing that `sanitize_helm_values` keeps has this key. -/
theorem flat_of_sanitizeValues {values clean : List (String × Json Number)}
    {block : Json Number} (distinct : (Json.object values).Distinct)
    (accepted : sanitizeValues python values = .ok clean)
    (found : Json.get "observability" clean = some block) :
    Exists fun members : List (String × Json Number) => block = .object members ∧ Flat members := by
  unfold sanitizeValues at accepted
  rcases bind_eq_ok accepted with ⟨cleaned, first, checked⟩
  rcases bind_eq_ok checked with ⟨safe, second, made⟩
  have flat : Flat safe := by
    rcases sanitizeObservability_ok second with rfl | rfl | ⟨endpoint, namespaceName, rfl⟩
    · intro member listed
      cases listed
    · intro member listed
      rw [List.mem_singleton.mp listed]
      exact .inl ⟨false, rfl⟩
    · intro member listed
      simp only [List.mem_cons, List.not_mem_nil, or_false] at listed
      rcases listed with rfl | rfl | rfl | rfl
      · exact .inl ⟨true, rfl⟩
      · exact .inr ⟨endpoint, rfl⟩
      · exact .inr ⟨namespaceName, rfl⟩
      · exact .inr ⟨"", rfl⟩
  split at made
  · cases made
    have rest := distinct.erase "observability"
    have same := sanitizeHelmValues_ok rest first
    rw [Json.canonical_object] at same
    cases rest with
    | object _ keys _ =>
        rw [Json.object.inj same, Json.get_sortMembers keys] at found
        rcases Option.map_eq_some_iff.mp found with ⟨old, known, _⟩
        have listed := List.mem_filter.mp (Json.get_eq_some known)
        exact absurd rfl (of_decide_eq_true listed.2)
  · cases made
    rw [Json.get_set_self] at found
    exact ⟨safe, (Option.some.inj found).symm, flat⟩

/-- The correlation id changes nothing of what the agent can decode. -/
theorem decodable_of_inject {values clean : List (String × Json Number)} {token jobId text : String}
    (distinct : (Json.object values).Distinct) (accepted : sanitizeValues python values = .ok clean)
    (injected : injectReleaseCorrelation python token
      (Json.dumps python.numerals (.object clean)) jobId = .ok text) :
    Agent.Executor.unmarshalsMap text =
      Agent.Executor.decodable python.numerals (.object clean) := by
  have cleanDistinct := (sanitizeValues_ok distinct accepted).1
  unfold injectReleaseCorrelation at injected
  rw [Json.loads_dumps python.numerals cleanDistinct, Json.canonical_object] at injected
  dsimp only at injected
  have whole : Agent.Executor.decodable python.numerals
      (.object (Json.sortMembers (clean.map Json.canonicalMember))) =
        Agent.Executor.decodable python.numerals (.object clean) := by
    unfold Agent.Executor.decodable
    rw [← Json.canonical_object, Json.fits_canonical]
  have plain (same : Json.dumps python.numerals
      (.object (Json.sortMembers (clean.map Json.canonicalMember))) = text) :
      Agent.Executor.unmarshalsMap text =
        Agent.Executor.decodable python.numerals (.object clean) := by
    rw [← same, Agent.Executor.unmarshalsMap_dumps, whole]
  have sorted : Json.get "observability" (Json.sortMembers (clean.map Json.canonicalMember)) =
      (Json.get "observability" clean).map Json.canonical := by
    cases cleanDistinct with
    | object _ keys _ => exact Json.get_sortMembers keys _
  split at injected
  · rename_i block found
    split at injected
    · cases injected
      rw [Agent.Executor.unmarshalsMap_dumps, ← whole]
      unfold Agent.Executor.decodable
      rw [Json.fits, Json.fits]
      rw [Json.fitsMembers_set found]
      rw [sorted] at found
      rcases Option.map_eq_some_iff.mp found with ⟨old, known, same⟩
      rcases flat_of_sanitizeValues distinct accepted known with ⟨members, rfl, flat⟩
      rcases flat.canonical with ⟨inner, shape, innerFlat⟩
      rw [shape] at same
      cases same
      rw [Json.fits, Json.fits, innerFlat.fitsMembers, (innerFlat.set _ _).fitsMembers]
    · exact plain (Except.ok.inj injected)
  · exact plain (Except.ok.inj injected)

end Values

/-! ## What is dispatched -/

variable {setting : Setting Number}

/-- A request that `start_release` has made of accepted arguments. -/
def Released (setting : Setting Number) (row : ReleaseRow) (request : KubernetesReleaseRequest) :
    Prop :=
  Exists fun fields : TargetFields => Exists fun agentId : String =>
    Exists fun arguments : Arguments Number => Exists fun intent : Intent =>
      Registered fields ∧ startIntent setting.python arguments = .ok intent ∧
        isOperationId row.release.operationId = true ∧
        request = releaseRequest (serviceConfig setting fields agentId) intent row.release

/-- What a call has checked when it stands at a phase. -/
def Checked (setting : Setting Number) : Phase -> Prop
  | .creating fields => Registered fields
  | .opening target _ intent =>
      Registered target.fields ∧
        Exists fun arguments : Arguments Number =>
          startIntent setting.python arguments = .ok intent
  | .dispatching row _ request => Released setting row request
  | _ => True

/-- Targets have been registered, and releases have drawn their ids. -/
structure Stored (database : Database) : Prop where
  targets : forall row, row ∈ database.targets -> Registered row.fields
  releases : forall row, row ∈ database.releases -> isOperationId row.release.operationId = true

/-- The ids of new releases have the form of `start_release`. -/
def drawsOperationId (_ : Console.State) (action : Nat × Input Number) : Bool :=
  match action.2 with
  | .insert drawn => isOperationId drawn.operationId
  | _ => true

def DrawsOperationId (state : Console.State) (action : Nat × Input Number) : Prop :=
  drawsOperationId state action = true

instance (state : Console.State) (action : Nat × Input Number) :
    Decidable (DrawsOperationId state action) :=
  inferInstanceAs (Decidable (_ = _))

theorem Stored.update {database : Database} (stored : Stored database) (pk : Nat)
    {change : KubernetesRelease -> KubernetesRelease}
    (kept : forall release, (change release).operationId = release.operationId) :
    Stored (database.updateRelease pk change) := by
  refine ⟨stored.targets, fun row listed => ?_⟩
  rcases Table.mem_update.mp listed with ⟨earlier, known, _, rfl⟩ | ⟨known, _⟩
  · change isOperationId (change earlier.release).operationId = true
    rw [kept]
    exact stored.releases earlier known
  · exact stored.releases row known

theorem updateActive_operationId {change : KubernetesRelease -> KubernetesRelease}
    (kept : forall release, (change release).operationId = release.operationId)
    (release : KubernetesRelease) :
    (release.updateActive change).operationId = release.operationId := by
  unfold KubernetesRelease.updateActive
  split
  · exact kept release
  · rfl

/-- A resolver checks what it goes on with. -/
theorem checked_issue {database : Database} (stored : Stored database) (user : Nat) (drawn : Drawn)
    (mutation : Mutation Number) : Checked setting (issue setting database user drawn mutation).2 := by
  cases mutation with
  | startDiagnostic projectId agentId diagnostic =>
      simp only [issue, startDiagnostic]
      split <;> trivial
  | cancelDiagnostic operationId =>
      simp only [issue]
      split <;> trivial
  | registerKubernetesTarget projectId agentId arguments =>
      simp only [issue, registerTarget]
      split
      · trivial
      · rename_i fields prepared
        rcases bind_eq_ok prepared with ⟨project, _, inProject⟩
        rcases bind_eq_ok inProject with ⟨agent, _, accepted⟩
        exact registered_of_prepareTarget accepted
  | startKubernetesRelease targetId arguments =>
      simp only [issue, startRelease]
      split
      · trivial
      · rename_i target found
        split
        · trivial
        · rename_i intent accepted
          exact ⟨stored.targets target (getPublic_ok found).1, arguments, accepted⟩
  | cancelKubernetesRelease releaseId =>
      simp only [issue]
      split <;> trivial

/-- The transaction of `start_release` dispatches what has been checked. -/
theorem checked_opened {database : Database} (stored : Stored database) {user : Nat}
    {target : TargetRow} {agentId : String} {intent : Intent} {drawn : Drawn} {effect : Effect}
    (registered : Registered target.fields) {arguments : Arguments Number}
    (accepted : startIntent setting.python arguments = .ok intent)
    (shaped : isOperationId drawn.operationId = true)
    (opened : Opened (serviceConfig setting target.fields agentId) database user target agentId
      intent drawn effect) :
    Checked setting effect.2 ∧ Stored (State.execute database effect.1) := by
  cases opened with
  | missing => exact ⟨trivial, stored⟩
  | answered => exact ⟨trivial, stored⟩
  | reopened locked row found listed own settled =>
      exact ⟨⟨target.fields, agentId, arguments, intent, registered, accepted,
        stored.releases row listed, rfl⟩, stored.update _ fun _ => rfl⟩
  | created locked found =>
      refine ⟨⟨target.fields, agentId, arguments, intent, registered, accepted, shaped, rfl⟩,
        stored.targets, fun row listed => ?_⟩
      rcases List.mem_cons.mp listed with rfl | known
      · exact shaped
      · exact stored.releases row known

/-- One step of a call keeps what has been checked. -/
theorem checked_move {database : Database} {call after : Call} {input : Input Number}
    {statement : Option Statement} (stored : Stored database) (checked : Checked setting call.phase)
    (shaped : forall drawn, input = .insert drawn -> isOperationId drawn.operationId = true)
    (advanced : advance setting database call input = some (statement, after)) :
    Checked setting after.phase ∧ Stored (State.execute database statement) := by
  cases advance_move advanced with
  | issued user mutation drawn effect idle resolved =>
      constructor
      · have resolver := @checked_issue Number setting database stored user drawn mutation
        simp only [advance, idle, Option.some.injEq, Prod.mk.injEq, Call.mk.injEq] at advanced
        rw [advanced.2.2.1] at resolver
        exact resolver
      · cases resolved with
        | created => exact ⟨stored.targets, stored.releases⟩
        | _ => exact stored
  | opened target agentId intent drawn effect opening transaction =>
      rw [opening] at checked
      rcases checked with ⟨registered, arguments, accepted⟩
      exact checked_opened stored registered accepted (shaped drawn rfl) transaction
  | targetCreated fields drawn creating free =>
      rw [creating] at checked
      refine ⟨trivial, fun row listed => ?_, stored.releases⟩
      rcases List.mem_cons.mp listed with rfl | known
      · exact checked
      · exact stored.targets row known
  | targetStored target validation now storing =>
      refine ⟨trivial, fun row listed => ?_, stored.releases⟩
      rcases Table.mem_update.mp listed with ⟨earlier, known, _, rfl⟩ | ⟨known, _⟩
      · exact stored.targets earlier known
      · exact stored.targets row known
  | targetRemoved target removing free =>
      exact ⟨trivial, fun row listed => stored.targets row (List.mem_of_mem_filter listed),
        stored.releases⟩
  | releaseRecorded row agentId request course result dispatching =>
      exact ⟨trivial, stored.update _ (@updateActive_operationId
        (fun active => row.release.applyResult active result) fun _ => rfl)⟩
  | releaseUnavailable row agentId request course dispatching =>
      exact ⟨trivial, stored.update _
        (@updateActive_operationId KubernetesRelease.applyUnavailable fun _ => rfl)⟩
  | releaseClosed release accepted closing =>
      exact ⟨trivial, stored.update _
        (@updateActive_operationId (KubernetesRelease.applyCancel accepted) fun _ => rfl)⟩
  | consumed operation write scheduled => exact ⟨checked, stored.targets, stored.releases⟩
  | saved | trimmed | updated => exact ⟨trivial, stored.targets, stored.releases⟩
  | _ => exact ⟨trivial, stored⟩

/-- Rows and calls have been checked, in every state of a run. -/
def State.Checked (setting : Setting Number) (state : Console.State) : Prop :=
  Stored state.database ∧
    forall number, Agreement.Checked setting (state.calls number).phase

theorem checked_of_reachable {state : Console.State}
    (reached : (machine setting Stored).ReachableUnder DrawsOperationId state) :
    State.Checked setting state := by
  refine reached.invariant ?_ ?_
  · intro start starts
    refine ⟨starts.admissible, fun number => ?_⟩
    rw [starts.idle]
    trivial
  · intro before action after _ inductionHypothesis draws stepped
    rcases action with ⟨number, input⟩
    rcases step_advance stepped with ⟨_, statement, call, advanced, rfl⟩
    have shaped (drawn : Drawn) (same : input = .insert drawn) :
        isOperationId drawn.operationId = true := by
      rw [same] at draws
      exact draws
    have kept := checked_move inductionHypothesis.1 (inductionHypothesis.2 number) shaped advanced
    refine ⟨kept.2, fun other => ?_⟩
    change Agreement.Checked setting (Function.update before.calls number call other).phase
    by_cases own : other = number
    · subst own
      rw [Function.update_self]
      exact kept.1
    · rw [Function.update_of_ne own]
      exact inductionHypothesis.2 other

/-! ## What the agent says -/

/-- With the values apart, the agent accepts every request of a release. -/
theorem validateRequest_released {unmarshals : String -> Bool} {row : ReleaseRow}
    {request : KubernetesReleaseRequest} (released : Released setting row request)
    (valuesJson : String) :
    Agent.Executor.validateRequest unmarshals { request with valuesJson := valuesJson } =
      if unmarshals valuesJson then none else some "invalid values JSON" := by
  rcases released with ⟨fields, agentId, arguments, intent, registered, accepted, _, rfl⟩
  rcases startIntent_ok accepted with ⟨clean, _, image, compatibility, rfl⟩
  rw [matchesDigestImage_eq] at image
  have policy (safe : Prop) [Decidable safe] :
      ¬((if safe then "allow" else "block-after-migration") ≠ "allow" ∧
        (if safe then "allow" else "block-after-migration") ≠ "block-after-migration") := by
    by_cases is_safe : safe
    · rw [if_pos is_safe]
      exact fun refused => refused.1 rfl
    · rw [if_neg is_safe]
      exact fun refused => refused.2 rfl
  simp only [Agent.Executor.validateRequest, releaseRequest, serviceConfig,
    registered.namespaceName, registered.releaseName, registered.credentialRef, image, policy,
    if_false, Bool.true_eq_false, ne_eq, not_true_eq_false, and_false]
  cases unmarshals valuesJson <;> rfl

theorem safeJobID_of_released {row : ReleaseRow} {request : KubernetesReleaseRequest}
    (released : Released setting row request) : safeJobID request.jobId = true := by
  rcases released with ⟨fields, agentId, arguments, intent, _, _, drawn, rfl⟩
  exact safeJobID_of_isOperationId drawn

def shopTarget : TargetArguments where
  name := "production"
  apiServer := "https://cluster.example"
  namespaceName := "shop"
  releaseName := "web"
  credentialRef := "vault:shop/web"
  ingressClass := ""
  tlsSecretName := ""

def shopImage : String := "shop@sha256:" ++ String.ofList (List.replicate 64 '0')

def replicaArguments (replicas : Int) : Arguments Int where
  image := shopImage
  values := [("webReplicas", .number replicas)]
  chartVersion := "0.1.0"
  distinct := by
    refine .object _ (List.nodup_singleton _) fun member listed => ?_
    rw [List.mem_singleton.mp listed]
    exact .number replicas

/-- Without a secret in their text, the values are accepted as they are. -/
theorem sanitizeValues_replicas {replicas : Int}
    (plain : secretTokens.any (fun token => decide (token.toList <:+:
      (Json.write Json.Numerals.decimal (.object [("webReplicas", .number replicas)])).map
        Char.toLower)) = false) :
    sanitizeValues sampleSetting.python (replicaArguments replicas).values =
      .ok (replicaArguments replicas).values := by
  have canonical : (Json.object [("webReplicas", Json.number replicas)]).canonical =
      .object [("webReplicas", .number replicas)] := by
    rw [Json.canonical_object]
    rfl
  have written : (Json.dumps sampleSetting.python.numerals
      (.object [("webReplicas", .number replicas)])).toList =
        Json.write Json.Numerals.decimal (.object [("webReplicas", .number replicas)]) := by
    unfold Json.dumps
    rw [String.toList_ofList, canonical]
    rfl
  have loaded := Json.loads_dumps sampleSetting.python.numerals (replicaArguments replicas).distinct
  rw [replicaArguments] at loaded ⊢
  dsimp only at loaded ⊢
  have accepted : sanitizeHelmValues sampleSetting.python
      [("webReplicas", .number replicas)] = .ok [("webReplicas", .number replicas)] := by
    unfold sanitizeHelmValues
    rw [if_neg (by simp [allowedValues])]
    dsimp only
    rw [loaded, written, plain, canonical]
    rfl
  unfold sanitizeValues
  change (sanitizeHelmValues sampleSetting.python [("webReplicas", .number replicas)]).bind _ = _
  rw [accepted]
  rfl

theorem startIntent_replicas {replicas : Int}
    (sanitized : sanitizeValues sampleSetting.python (replicaArguments replicas).values =
      .ok (replicaArguments replicas).values) :
    startIntent sampleSetting.python (replicaArguments replicas) =
      .ok ⟨shopImage, "0.1.0", Json.dumps sampleSetting.python.numerals
        (.object (replicaArguments replicas).values), "unknown"⟩ := by
  have image : validateImage (replicaArguments replicas).image = .ok shopImage := by
    have matched : matchesDigestImage shopImage = true := by decide +kernel
    exact if_pos matched
  unfold startIntent
  rw [sanitized]
  simp only [Except.bind, image]
  rfl

/-- A target is registered. -/
def shopRegistration : List (Nat × Input Int) :=
  [(0, .issue 7 (.registerKubernetesTarget "1" "1" shopTarget) ⟨"a", "b", 0⟩),
    (0, .insert ⟨"c", "k8s-0123456789abcdef0123", 1⟩),
    (0, .validated (.ok ⟨true, true, true, requiredPermissions⟩)), (0, .store 2)]

theorem starts_stored : Starts Stored (.fresh sampleDatabase) :=
  starts_of_empty rfl rfl rfl
    ⟨fun _ listed => absurd listed List.not_mem_nil,
      fun _ listed => absurd listed List.not_mem_nil⟩

/-- The second call has not begun, its target is there, and no release is. -/
def awaitsRelease (state : Console.State) : Bool :=
  match (state.calls 1).phase, getTarget sampleSetting state.database 7 "c" with
  | .idle, .ok target =>
      (state.database.target? target.pk).isSome && state.database.releases.isEmpty &&
        ["d", "e", "f", "k8s-fedcba98765432100123"].all fun text => decide (text ∉ state.drawn)
  | _, _ => false

theorem step_of_advance {state : Console.State} {number : Nat} {input : Input Number}
    {statement : Option Statement} {call : Call}
    (fresh : input.draws.any (fun text => decide (text ∈ state.drawn)) = false)
    (advanced : advance setting state.database (state.calls number) input =
      some (statement, call)) :
    step setting state (number, input) =
      some ⟨State.execute state.database statement, Function.update state.calls number call,
        input.draws ++ state.drawn⟩ := by
  unfold step
  rw [fresh, advanced]
  rfl

/-- What `start_release` accepts is dispatched: the resolver checks the arguments,
the transaction creates the row, and the request that the row stands for is the
one that is sent. -/
theorem dispatched_of_startIntent {arguments : Arguments Int} {intent : Intent}
    (accepted : startIntent sampleSetting.python arguments = .ok intent) :
    Exists fun state : Console.State => Exists fun row : ReleaseRow =>
      Exists fun agentId : String => Exists fun request : KubernetesReleaseRequest =>
        (machine sampleSetting Stored).ReachableUnder DrawsOperationId state ∧
          (state.calls 1).phase = .dispatching row agentId request ∧
          request.valuesJson = intent.values := by
  rcases (machine sampleSetting Stored).exists_reachableUnder_of_replay DrawsOperationId
      shopRegistration (.fresh sampleDatabase) starts_stored awaitsRelease (by decide +kernel) with
    ⟨state, reached, waits⟩
  unfold awaitsRelease at waits
  split at waits
  · rename_i target idle found
    simp only [Bool.and_eq_true, List.all_cons, List.all_nil, decide_eq_true_eq] at waits
    rcases waits with ⟨⟨listed, empty⟩, first, second, third, fourth, _⟩
    rcases Option.isSome_iff_exists.mp listed with ⟨locked, lockedFound⟩
    have releases : state.database.releasesOf locked.pk = [] := by
      unfold Database.releasesOf
      rw [List.isEmpty_iff.mp empty]
      rfl
    let agentId := state.database.agentId target.fields.agent
    let config := serviceConfig sampleSetting target.fields agentId
    let row := newRelease config state.database 7 locked intent
      ⟨"f", "k8s-fedcba98765432100123", 4⟩
    have issued := @step_of_advance Int sampleSetting state 1
      (.issue 7 (.startKubernetesRelease "c" arguments) ⟨"d", "e", 3⟩) none
      ⟨7, .opening target agentId intent, none⟩
      (by simp [Input.draws, first, second])
      (by simp only [advance, idle, issue, startRelease, found, accepted, agentId])
    have inserted := @step_of_advance Int sampleSetting
      ⟨state.database, Function.update state.calls 1 ⟨7, .opening target agentId intent, none⟩,
        ["d", "e"] ++ state.drawn⟩ 1
      (.insert ⟨"f", "k8s-fedcba98765432100123", 4⟩) (some (.createRelease row))
      ⟨7, .dispatching row agentId (releaseRequest config intent row.release), none⟩
      (by simp [Input.draws, third, fourth])
      (by simp only [Function.update_self, advance, openRelease, lockedFound, releases,
            List.find?_nil, row, config])
    have drawsId : isOperationId "k8s-fedcba98765432100123" = true := by decide +kernel
    have awaiting := reached.next
      (1, .issue 7 (.startKubernetesRelease "c" arguments) ⟨"d", "e", 3⟩) rfl issued
    have last := awaiting.next (1, .insert ⟨"f", "k8s-fedcba98765432100123", 4⟩) drawsId inserted
    refine ⟨_, row, agentId, releaseRequest config intent row.release, last, ?_, rfl⟩
    simp only [Function.update_self]
  · cases waits

/-- The agent accepts a number of replicas that was sent to it if it can decode it. -/
theorem answered_replicas {replicas : Int}
    (sanitized : sanitizeValues sampleSetting.python (replicaArguments replicas).values =
      .ok (replicaArguments replicas).values) :
    Exists fun state : Console.State => Exists fun row : ReleaseRow =>
      Exists fun agentId : String => Exists fun request : KubernetesReleaseRequest =>
        Exists fun sent : KubernetesReleaseRequest =>
          (machine sampleSetting Stored).ReachableUnder DrawsOperationId state ∧
            (state.calls 1).phase = .dispatching row agentId request ∧
            correlate sampleSetting.python "" request = .ok sent ∧ safeJobID sent.jobId = true ∧
            Agent.Executor.validateRequest Agent.Executor.unmarshalsMap sent =
              if Agent.Executor.decodable sampleSetting.python.numerals
                (.object (replicaArguments replicas).values) then none
              else some "invalid values JSON" := by
  rcases dispatched_of_startIntent (startIntent_replicas sanitized) with
    ⟨state, row, agentId, request, reached, phase, values⟩
  rcases injectReleaseCorrelation_ok sampleSetting.python "" request.jobId
    (replicaArguments replicas).distinct with ⟨text, injected⟩
  have released := (checked_of_reachable reached).2 1
  rw [phase] at released
  have safe := safeJobID_of_released released
  refine ⟨state, row, agentId, request, { request with valuesJson := text }, reached, phase, ?_, ?_,
    ?_⟩
  · unfold correlate
    rw [values]
    dsimp only
    rw [injected]
    rfl
  · exact safe
  · rw [validateRequest_released released,
      decodable_of_inject (replicaArguments replicas).distinct sanitized injected]

end Agreement
end DjangoOps
