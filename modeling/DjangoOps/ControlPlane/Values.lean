import DjangoOps.Foundation.JsonRoundTrip
import DjangoOps.ControlPlane.Redaction
import DjangoOps.ControlPlane.Release

namespace DjangoOps
namespace ControlPlane

open Protocol Gateway

universe u

/-!
# Helm values

The validation in front of the transaction of `start_release`, with the wrapper
that `install_kubernetes_observability` puts around `sanitize_values`.  Values
are JSON values; a Python dictionary is a list of members with distinct keys.

Of Python, the number type, the `repr` of lists and dictionaries and `urlsplit`
are parameters.
-/

/-- What the code reads of the result of `urlsplit`. -/
structure SplitResult where
  scheme : String
  hostname : Option String
  username : Option String
  password : Option String
  query : String
  fragment : String

/-- What the values of a release take from Python: how numbers are written and read, how a
value is shown, and `urlsplit`. -/
structure Python (Number : Type u) where
  numerals : Json.Numerals Number
  repr : Json Number -> String
  urlsplit : String -> Except PyException SplitResult

variable {Number : Type u}

/-- `str(value)` -/
def Python.str (python : Python Number) : Json Number -> String
  | .null => "None"
  | .bool true => "True"
  | .bool false => "False"
  | .number value => String.ofList (python.numerals.write value)
  | .string text => text
  | .array elements => python.repr (.array elements)
  | .object members => python.repr (.object members)

/-- `str.rstrip`, of the characters of one kind. -/
def rstrip (kind : Char -> Bool) (text : List Char) : List Char :=
  (text.reverse.dropWhile kind).reverse

/-- `validate_otlp_endpoint` -/
def validateOtlpEndpoint (python : Python Number) (value : String) : Except PyException String :=
  let stripped := String.ofList (rstrip isSpace (value.toList.dropWhile isSpace))
  if stripped = "" then .ok ""
  else
    (python.urlsplit stripped).bind fun parsed =>
      if (parsed.scheme ≠ "http" ∧ parsed.scheme ≠ "https") ∨ parsed.hostname.getD "" = "" then
        .error (.valueError "OTLP endpoint must be an http(s) URL")
      else if parsed.username.getD "" ≠ "" ∨ parsed.password.getD "" ≠ "" ∨ parsed.query ≠ "" ∨
          parsed.fragment ≠ "" then
        .error (.valueError
          "OTLP endpoint must be configured without credentials, query, or fragment")
      else .ok (String.ofList (rstrip (fun char => char == '/') stripped.toList))

/-- `_NAMESPACE.fullmatch` -/
def matchesNamespace (text : String) : Bool :=
  match text.toList with
  | [] => false
  | first :: rest =>
      first.isAlphanum && decide (rest.length ≤ 62) &&
        rest.all fun char => char.isAlphanum || char == '_' || char == '.' || char == '-'

def observabilityKeys : List String :=
  ["enabled", "otlpEndpoint", "serviceNamespace", "correlationId"]

/-- `sanitize_observability` of a block that is switched on. -/
def sanitizeEnabled (python : Python Number) (block : List (String × Json Number)) :
    Except PyException (List (String × Json Number)) :=
  (validateOtlpEndpoint python
    (python.str ((Json.get "otlpEndpoint" block).getD (.string "")))).bind fun endpoint =>
      let namespaceName :=
        python.str ((Json.get "serviceNamespace" block).getD (.string "djangoops"))
      if endpoint = "" then
        .error (.valueError "observability.otlpEndpoint is required when enabled")
      else if matchesNamespace namespaceName = false then
        .error (.valueError "observability.serviceNamespace is invalid")
      else
        .ok [("enabled", .bool true), ("otlpEndpoint", .string endpoint),
          ("serviceNamespace", .string namespaceName), ("correlationId", .string "")]

/-- `sanitize_observability` -/
def sanitizeObservability (python : Python Number) :
    Json Number -> Except PyException (List (String × Json Number))
  | .null => .ok []
  | .object [] => .ok []
  | .object (member :: rest) =>
      if (member :: rest).any fun entry => decide (entry.1 ∉ observabilityKeys) then
        .error (.valueError "observability Helm values are invalid")
      else
        match (Json.get "enabled" (member :: rest)).getD (.bool false) with
        | .bool true => sanitizeEnabled python (member :: rest)
        | .bool false => .ok [("enabled", .bool false)]
        | _ => .error (.valueError "observability.enabled must be a boolean")
  | _ => .error (.valueError "observability Helm values are invalid")

def allowedValues : List String :=
  ["webReplicas", "celeryWorker", "celeryBeat", "ingress", "resources", "health",
    "environmentSecretName", "migrationCompatibility"]

def secretTokens : List String := ["\"password\"", "\"token\"", "\"secretkey\"", "\"access_key\""]

/-- `sanitize_values` of `kubernetes.py`.  What it has encoded it can decode, so
the last branch is not taken. -/
def sanitizeHelmValues (python : Python Number) (values : List (String × Json Number)) :
    Except PyException (List (String × Json Number)) :=
  let unknown := (values.map Prod.fst).filter fun key => decide (key ∉ allowedValues)
  if unknown ≠ [] then
    .error (.valueError ("unsupported Helm values: " ++
      String.intercalate ", " (unknown.insertionSort fun left right => left ≤ right)))
  else
    let encoded := Json.dumps python.numerals (.object values)
    let lowered := encoded.toList.map Char.toLower
    if secretTokens.any fun token => decide (token.toList <:+: lowered) then
      .error (.valueError "plaintext secret-like Helm values are not accepted")
    else
      match Json.loads python.numerals encoded with
      | some (.object members) => .ok members
      | _ => .error (.valueError "Expecting value")

/-- `sanitize_values` as `install_kubernetes_observability` leaves it. -/
def sanitizeValues (python : Python Number) (values : List (String × Json Number)) :
    Except PyException (List (String × Json Number)) :=
  (sanitizeHelmValues python (Json.erase "observability" values)).bind fun cleaned =>
    (sanitizeObservability python ((Json.get "observability" values).getD .null)).bind fun safe =>
      if safe.isEmpty then .ok cleaned
      else .ok (Json.set "observability" (.object safe) cleaned)

/-- `_DIGEST_IMAGE.fullmatch` -/
def matchesDigestImage (text : String) : Bool :=
  let chars := text.toList
  let name := chars.take (chars.length - 72)
  let digest := chars.drop (chars.length - 64)
  !name.isEmpty && name.all (fun char => char != '\n') &&
    decide (chars.drop (chars.length - 72) = "@sha256:".toList ++ digest) &&
      digest.all fun char => char.isDigit || decide (97 ≤ char.toNat ∧ char.toNat ≤ 102)

/-- `_validate_image` -/
def validateImage (value : String) : Except PyException String :=
  if matchesDigestImage value then .ok value
  else .error (.valueError "release image must use an immutable sha256 digest")

/-- The arguments of `start_release` besides the target and the user. -/
structure Arguments (Number : Type u) where
  image : String
  values : List (String × Json Number)
  chartVersion : String
  distinct : (Json.object values).Distinct

/-- `start_release` up to its transaction. -/
def startIntent (python : Python Number) (arguments : Arguments Number) :
    Except PyException Intent :=
  (sanitizeValues python arguments.values).bind fun clean =>
    (validateImage arguments.image).bind fun image =>
      let compatibility :=
        python.str ((Json.get "migrationCompatibility" clean).getD (.string "unknown"))
      if compatibility ≠ "safe" ∧ compatibility ≠ "unknown" then
        .error (.valueError "migrationCompatibility must be safe or unknown")
      else
        .ok
          { image := image, chartVersion := arguments.chartVersion
            values := Json.dumps python.numerals (.object clean), compatibility := compatibility }

/-! ## What the validation lets through -/

section Facts

variable {python : Python Number}

theorem bind_eq_ok {Error Source Target : Type*} {first : Except Error Source}
    {next : Source -> Except Error Target} {result : Target}
    (bound : first.bind next = .ok result) :
    Exists fun value : Source => first = .ok value ∧ next value = .ok result := by
  cases first with
  | error error => cases bound
  | ok value => exact ⟨value, rfl, bound⟩

/-- The values that `sanitize_values` returns are the canonical ones. -/
theorem sanitizeHelmValues_ok {values cleaned : List (String × Json Number)}
    (distinct : (Json.object values).Distinct)
    (accepted : sanitizeHelmValues python values = .ok cleaned) :
    Json.object cleaned = (Json.object values).canonical := by
  unfold sanitizeHelmValues at accepted
  dsimp only at accepted
  split at accepted
  · cases accepted
  · split at accepted
    · cases accepted
    · rw [Json.loads_dumps python.numerals distinct, Json.canonical_object] at accepted
      cases accepted
      exact (Json.canonical_object values).symm

theorem sanitizeEnabled_ok {block safe : List (String × Json Number)}
    (accepted : sanitizeEnabled python block = .ok safe) :
    Exists fun endpoint : String => Exists fun namespaceName : String =>
      safe = [("enabled", .bool true), ("otlpEndpoint", .string endpoint),
        ("serviceNamespace", .string namespaceName), ("correlationId", .string "")] := by
  unfold sanitizeEnabled at accepted
  rcases bind_eq_ok accepted with ⟨endpoint, _, checked⟩
  dsimp only at checked
  split at checked
  · cases checked
  · split at checked
    · cases checked
    · cases checked
      exact ⟨endpoint, _, rfl⟩

/-- A block that the validation returns has no value of the client for the
correlation id. -/
theorem sanitizeObservability_ok {value : Json Number} {safe : List (String × Json Number)}
    (accepted : sanitizeObservability python value = .ok safe) :
    safe = [] ∨ safe = [("enabled", .bool false)] ∨
      Exists fun endpoint : String => Exists fun namespaceName : String =>
        safe = [("enabled", .bool true), ("otlpEndpoint", .string endpoint),
          ("serviceNamespace", .string namespaceName), ("correlationId", .string "")] := by
  unfold sanitizeObservability at accepted
  split at accepted
  · cases accepted
    exact .inl rfl
  · cases accepted
    exact .inl rfl
  · split at accepted
    · cases accepted
    · split at accepted
      · exact .inr (.inr (sanitizeEnabled_ok accepted))
      · cases accepted
        exact .inr (.inl rfl)
      · cases accepted
  · cases accepted

theorem distinct_of_sanitizeObservability {value : Json Number}
    {safe : List (String × Json Number)}
    (accepted : sanitizeObservability python value = .ok safe) : (Json.object safe).Distinct := by
  rcases sanitizeObservability_ok accepted with rfl | rfl | ⟨endpoint, namespaceName, rfl⟩
  · exact .object _ List.nodup_nil fun _ impossible => nomatch impossible
  · refine .object _ (List.nodup_singleton _) fun member listed => ?_
    rw [List.mem_singleton.mp listed]
    exact .bool false
  · have keys : observabilityKeys.Nodup := by decide
    refine .object _ keys fun member listed => ?_
    simp only [List.mem_cons, List.not_mem_nil, or_false] at listed
    rcases listed with rfl | rfl | rfl | rfl
    · exact .bool true
    · exact .string endpoint
    · exact .string namespaceName
    · exact .string ""

/-- The accepted values are a dictionary, and besides the observability block
they are the canonical ones. -/
theorem sanitizeValues_ok {values clean : List (String × Json Number)}
    (distinct : (Json.object values).Distinct)
    (accepted : sanitizeValues python values = .ok clean) :
    (Json.object clean).Distinct ∧
      forall key, key ≠ "observability" ->
        Json.get key clean = (Json.get key (Json.erase "observability" values)).map
          Json.canonical := by
  unfold sanitizeValues at accepted
  rcases bind_eq_ok accepted with ⟨cleaned, first, checked⟩
  rcases bind_eq_ok checked with ⟨safe, second, made⟩
  have rest := distinct.erase "observability"
  have same := sanitizeHelmValues_ok rest first
  have cleanedDistinct : (Json.object cleaned).Distinct := same ▸ rest.canonical
  have members : forall key, Json.get key cleaned =
      (Json.get key (Json.erase "observability" values)).map Json.canonical := by
    intro key
    rw [Json.canonical_object] at same
    cases rest with
    | object _ keys _ =>
        rw [Json.object.inj same]
        exact Json.get_sortMembers keys key
  split at made
  · cases made
    exact ⟨cleanedDistinct, fun key _ => members key⟩
  · cases made
    refine ⟨cleanedDistinct.set "observability" (distinct_of_sanitizeObservability second), ?_⟩
    intro key different
    rw [Json.get_set_ne different, members key]

/-- What `start_release` has computed when it enters its transaction. -/
theorem startIntent_ok {arguments : Arguments Number} {intent : Intent}
    (accepted : startIntent python arguments = .ok intent) :
    Exists fun clean : List (String × Json Number) =>
      sanitizeValues python arguments.values = .ok clean ∧
        matchesDigestImage arguments.image = true ∧
        (intent.compatibility = "safe" ∨ intent.compatibility = "unknown") ∧
        intent =
          { image := arguments.image, chartVersion := arguments.chartVersion
            values := Json.dumps python.numerals (.object clean)
            compatibility := python.str
              ((Json.get "migrationCompatibility" clean).getD (.string "unknown")) } := by
  unfold startIntent at accepted
  rcases bind_eq_ok accepted with ⟨clean, sanitized, checked⟩
  rcases bind_eq_ok checked with ⟨image, validated, made⟩
  unfold validateImage at validated
  split at validated
  · rename_i matched
    cases validated
    dsimp only at made
    split at made
    · cases made
    · rename_i known
      cases made
      refine ⟨clean, sanitized, matched, ?_, rfl⟩
      by_contra other
      rw [not_or] at other
      exact known other
  · cases validated

/-- Equal texts of the values carry equal policies. -/
theorem compatibility_of_values {first second : Arguments Number} {left right : Intent}
    (leftAccepted : startIntent python first = .ok left)
    (rightAccepted : startIntent python second = .ok right) (same : left.values = right.values) :
    left.compatibility = right.compatibility := by
  rcases startIntent_ok leftAccepted with ⟨clean, leftClean, _, _, rfl⟩
  rcases startIntent_ok rightAccepted with ⟨other, rightClean, _, _, rfl⟩
  rcases sanitizeValues_ok first.distinct leftClean with ⟨leftDistinct, leftGet⟩
  rcases sanitizeValues_ok second.distinct rightClean with ⟨rightDistinct, rightGet⟩
  have values := Json.canonical_of_dumps python.numerals leftDistinct rightDistinct same
  rw [Json.canonical_object, Json.canonical_object] at values
  have members : (Json.get "migrationCompatibility" clean).map Json.canonical =
      (Json.get "migrationCompatibility" other).map Json.canonical := by
    cases leftDistinct with
    | object _ leftKeys _ =>
        cases rightDistinct with
        | object _ rightKeys _ =>
            rw [← Json.get_sortMembers leftKeys, ← Json.get_sortMembers rightKeys,
              Json.object.inj values]
  have fixed : forall value : Option (Json Number),
      (value.map Json.canonical).map Json.canonical = value.map Json.canonical := by
    intro value
    cases value with
    | none => rfl
    | some value => exact congrArg some (Json.canonical_canonical value)
  rw [leftGet _ (by decide), rightGet _ (by decide), fixed, fixed] at members
  change python.str _ = python.str _
  rw [leftGet _ (by decide), rightGet _ (by decide), members]

end Facts

end ControlPlane
end DjangoOps
