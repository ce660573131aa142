import DjangoOps.ControlPlane.Values

namespace DjangoOps
namespace ControlPlane

open Protocol Gateway

universe u

/-!
# Correlation ids

`RuntimeKubernetesBackend.start`, as `install_kubernetes_observability` leaves
it, writes the operation id of the release into the observability block on its
way to the agent.  A correlation id of the client is dropped before the values
are hashed.
-/

variable {Number : Type u}

/-- What `_SAFE` leaves alone. -/
def isSafe (char : Char) : Bool :=
  char.isAlphanum || decide (char ∈ ['_', '.', ':', '/', '@', '+', '-'])

def maxCorrelation : Nat := 64

/-- `correlation_id` of a text; `token` is what `secrets.token_hex` draws. -/
def correlationId (token value : String) : String :=
  let replaced := value.toList.map fun char => if char = '\n' ∨ char = '\r' then '_' else char
  let cleaned := (replaced.map fun char => if isSafe char then char else '_').take maxCorrelation
  if cleaned.isEmpty then token else String.ofList cleaned

/-- `inject_release_correlation` -/
def injectReleaseCorrelation (python : Python Number) (token valuesJson operationId : String) :
    Except PyException String :=
  match Json.loads python.numerals valuesJson with
  | none => .error (.valueError "Expecting value")
  | some (.object raw) =>
      match Json.get "observability" raw with
      | some (.object observability) =>
          match Json.get "enabled" observability with
          | some (.bool true) =>
              let updated :=
                Json.set "correlationId" (.string (correlationId token operationId)) observability
              .ok (Json.dumps python.numerals
                (.object (Json.set "observability" (.object updated) raw)))
          | _ => .ok (Json.dumps python.numerals (.object raw))
      | _ => .ok (Json.dumps python.numerals (.object raw))
  | some _ => .error (.valueError "Helm values must be a mapping")

/-- `RuntimeKubernetesBackend.start` up to `original_start`. -/
def correlate (python : Python Number) (token : String) (request : KubernetesReleaseRequest) :
    Except PyException KubernetesReleaseRequest :=
  (injectReleaseCorrelation python token request.valuesJson request.jobId).bind fun valuesJson =>
    .ok { request with valuesJson := valuesJson }

/-- An operation id that is not empty is its own correlation id, whatever is drawn. -/
theorem correlationId_of_nonempty {value : String} (nonempty : value ≠ "") (first second : String) :
    correlationId first value = correlationId second value := by
  have chars : value.toList ≠ [] := fun empty => nonempty (String.toList_inj.mp empty)
  unfold correlationId
  generalize value.toList = text at chars
  cases text with
  | nil => exact absurd rfl chars
  | cons char rest => rfl

theorem injectReleaseCorrelation_token (python : Python Number) (valuesJson : String)
    {operationId : String} (nonempty : operationId ≠ "") (first second : String) :
    injectReleaseCorrelation python first valuesJson operationId =
      injectReleaseCorrelation python second valuesJson operationId := by
  unfold injectReleaseCorrelation
  rw [correlationId_of_nonempty nonempty first second]

/-- The injection accepts what `start_release` has encoded. -/
theorem injectReleaseCorrelation_ok (python : Python Number) (token operationId : String)
    {clean : List (String × Json Number)} (distinct : (Json.object clean).Distinct) :
    Exists fun valuesJson : String =>
      injectReleaseCorrelation python token (Json.dumps python.numerals (.object clean))
        operationId = .ok valuesJson := by
  unfold injectReleaseCorrelation
  rw [Json.loads_dumps python.numerals distinct, Json.canonical_object]
  dsimp only
  split
  · split <;> exact ⟨_, rfl⟩
  · exact ⟨_, rfl⟩

/-! ## The correlation id of a client -/

/-- The members of an observability block.  A missing block is read as `None`,
and `None` and the empty dictionary have no members; every other value that is
no dictionary is not a block. -/
def blockMembers : Json Number -> Option (List (String × Json Number))
  | .null => some []
  | .object members => some members
  | _ => none

/-- The members of the observability block of a call. -/
def Arguments.block (arguments : Arguments Number) : Option (List (String × Json Number)) :=
  blockMembers ((Json.get "observability" arguments.values).getD .null)

/-- The call has no observability block, or one without members. -/
def Arguments.Bare (arguments : Arguments Number) : Prop := arguments.block = some []

/-- Two calls that agree in all but the correlation id of the client.  Leaving
the id out of a block may leave no members, so a block with nothing but the id
stands beside an empty block and beside none. -/
structure SameButCorrelation (first second : Arguments Number) : Prop where
  image : first.image = second.image
  chartVersion : first.chartVersion = second.chartVersion
  values : Json.erase "observability" first.values = Json.erase "observability" second.values
  blocks : Exists fun left : List (String × Json Number) =>
    Exists fun right : List (String × Json Number) =>
      first.block = some left ∧ second.block = some right ∧
        Json.erase "correlationId" left = Json.erase "correlationId" right

theorem SameButCorrelation.symm {first second : Arguments Number}
    (same : SameButCorrelation first second) : SameButCorrelation second first where
  image := same.image.symm
  chartVersion := same.chartVersion.symm
  values := same.values.symm
  blocks := by
    rcases same.blocks with ⟨left, right, leftBlock, rightBlock, erased⟩
    exact ⟨right, left, rightBlock, leftBlock, erased.symm⟩

/-- The keys of a block are checked without the correlation id. -/
theorem unknownKeys_of_erase {left right : List (String × Json Number)}
    (same : Json.erase "correlationId" left = Json.erase "correlationId" right) :
    (left.any fun entry => decide (entry.1 ∉ observabilityKeys)) =
      right.any fun entry => decide (entry.1 ∉ observabilityKeys) := by
  have kept : forall members : List (String × Json Number),
      ((Json.erase "correlationId" members).any fun entry =>
        decide (entry.1 ∉ observabilityKeys)) =
          members.any fun entry => decide (entry.1 ∉ observabilityKeys) := by
    intro members
    unfold Json.erase
    rw [List.any_filter]
    refine congrArg members.any (funext fun member => ?_)
    by_cases own : member.1 = "correlationId"
    · have known : "correlationId" ∈ observabilityKeys := by decide
      simp only [own, known, not_true_eq_false, decide_false, Bool.and_false]
    · simp only [own, ne_eq, not_false_eq_true, decide_true, Bool.true_and]
  rw [← kept left, same, kept right]

/-- `sanitize_observability` of a block that is not empty. -/
theorem sanitizeObservability_of_members (python : Python Number)
    {members : List (String × Json Number)} (present : members ≠ []) :
    sanitizeObservability python (.object members) =
      if members.any fun entry => decide (entry.1 ∉ observabilityKeys) then
        .error (.valueError "observability Helm values are invalid")
      else
        match (Json.get "enabled" members).getD (.bool false) with
        | .bool true => sanitizeEnabled python members
        | .bool false => .ok [("enabled", .bool false)]
        | _ => .error (.valueError "observability.enabled must be a boolean") := by
  cases members with
  | nil => exact absurd rfl present
  | cons member rest => rfl

/-- Two blocks with members are sanitised alike, whatever the correlation id. -/
theorem sanitizeObservability_of_erase (python : Python Number)
    {left right : List (String × Json Number)}
    (same : Json.erase "correlationId" left = Json.erase "correlationId" right)
    (leftPresent : left ≠ []) (rightPresent : right ≠ []) :
    sanitizeObservability python (.object left) = sanitizeObservability python (.object right) := by
  rw [sanitizeObservability_of_members python leftPresent,
    sanitizeObservability_of_members python rightPresent, unknownKeys_of_erase same]
  unfold sanitizeEnabled
  rw [Json.get_of_erase same (by decide : "enabled" ≠ "correlationId"),
    Json.get_of_erase same (by decide : "otlpEndpoint" ≠ "correlationId"),
    Json.get_of_erase same (by decide : "serviceNamespace" ≠ "correlationId")]

/-- A block with nothing but a correlation id is a block that is switched off. -/
theorem sanitizeObservability_of_correlation (python : Python Number)
    {members : List (String × Json Number)} (present : members ≠ [])
    (only : Json.erase "correlationId" members = []) :
    sanitizeObservability python (.object members) = .ok [("enabled", .bool false)] := by
  have same : Json.erase "correlationId" members =
      Json.erase "correlationId" ([] : List (String × Json Number)) := only
  rw [sanitizeObservability_of_members python present, unknownKeys_of_erase same,
    Json.get_of_erase same (by decide : "enabled" ≠ "correlationId")]
  rfl

/-- A value is sanitised as the dictionary of its members. -/
theorem sanitizeObservability_of_block (python : Python Number) {value : Json Number}
    {members : List (String × Json Number)} (block : blockMembers value = some members) :
    sanitizeObservability python value = sanitizeObservability python (.object members) := by
  cases value with
  | null =>
      cases block
      rfl
  | object own =>
      cases block
      rfl
  | _ => cases block

/-- `start_release` goes on with the same values, whatever correlation id the
client has supplied, when both calls or none of them have a block with members.
In particular the values have the same digest. -/
theorem startIntent_of_sameButCorrelation (python : Python Number)
    {first second : Arguments Number} (same : SameButCorrelation first second)
    (alike : first.Bare <-> second.Bare) :
    startIntent python first = startIntent python second := by
  rcases same.blocks with ⟨left, right, leftBlock, rightBlock, erased⟩
  have sanitised : sanitizeObservability python (.object left) =
      sanitizeObservability python (.object right) := by
    unfold Arguments.Bare at alike
    rw [leftBlock, rightBlock, Option.some.injEq, Option.some.injEq] at alike
    by_cases empty : left = []
    · rw [empty, alike.mp empty]
    · exact sanitizeObservability_of_erase python erased empty fun other =>
        empty (alike.mpr other)
  unfold startIntent sanitizeValues
  rw [same.values, same.image, same.chartVersion, sanitizeObservability_of_block python leftBlock,
    sanitizeObservability_of_block python rightBlock, sanitised]

/-- The observability block of accepted values is told by their encoding. -/
theorem dumps_ne_of_block (python : Python Number) {cleaned block : List (String × Json Number)}
    (distinct : (Json.object cleaned).Distinct) (blockDistinct : (Json.object block).Distinct)
    (missing : Json.get "observability" cleaned = none) :
    Json.dumps python.numerals (.object cleaned) ≠
      Json.dumps python.numerals (.object (Json.set "observability" (.object block) cleaned)) := by
  intro same
  have written := distinct.set "observability" blockDistinct
  have canonical := Json.canonical_of_dumps python.numerals distinct written same
  rw [Json.canonical_object, Json.canonical_object] at canonical
  have members := congrArg (Json.get "observability") (Json.object.inj canonical)
  rw [Json.get_sortMembers distinct.keys, Json.get_sortMembers written.keys, missing,
    Json.get_set_self] at members
  cases members

/-- The code tells a call without a block from the same call with a block that
has nothing but a correlation id: the values of the second say that the block is
switched off, and the values of the first say nothing of it.  In all other members
the two calls agree. -/
theorem startIntent_of_bare (python : Python Number) {first second : Arguments Number}
    (same : SameButCorrelation first second) (bare : first.Bare) (present : ¬ second.Bare)
    {left : Intent} (accepted : startIntent python first = .ok left) :
    Exists fun right : Intent =>
      startIntent python second = .ok right ∧ left.values ≠ right.values := by
  rcases same.blocks with ⟨none, members, noneBlock, block, erased⟩
  cases noneBlock.symm.trans bare
  have nonempty : members ≠ [] := by
    rintro rfl
    exact present block
  have off := sanitizeObservability_of_block python block
  rw [sanitizeObservability_of_correlation python nonempty erased.symm] at off
  have absent := sanitizeObservability_of_block python noneBlock
  unfold startIntent sanitizeValues at accepted ⊢
  rw [absent, same.values, same.image, same.chartVersion] at accepted
  rcases bind_eq_ok accepted with ⟨cleaned, sanitised, checked⟩
  rcases bind_eq_ok sanitised with ⟨_, helm, made⟩
  cases made
  rcases bind_eq_ok checked with ⟨image, validated, made⟩
  have rest := second.distinct.erase "observability"
  have canonical := sanitizeHelmValues_ok rest helm
  have distinct : (Json.object cleaned).Distinct := canonical ▸ rest.canonical
  have missing : Json.get "observability" cleaned = none := by
    rw [Json.canonical_object] at canonical
    rw [Json.object.inj canonical, Json.get_sortMembers rest.keys, Json.get_erase_self]
    rfl
  rw [off, helm, validated]
  simp only [Except.bind, List.isEmpty_cons, Bool.false_eq_true, if_false,
    Json.get_set_ne (by decide : "migrationCompatibility" ≠ "observability")] at made ⊢
  split at made
  · cases made
  · rename_i known
    cases made
    rw [if_neg known]
    exact ⟨_, rfl, dumps_ne_of_block python distinct
      (.object _ (List.nodup_singleton _) fun member listed =>
        List.mem_singleton.mp listed ▸ .bool false) missing⟩

end ControlPlane
end DjangoOps
