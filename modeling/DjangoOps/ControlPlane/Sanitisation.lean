import DjangoOps.Foundation.JsonDocument
import DjangoOps.Foundation.Url
import DjangoOps.ControlPlane.Values

namespace DjangoOps
namespace ControlPlane

open Protocol Gateway

universe u

/-!
# What `sanitize_values` promises of its result

The guard looks for secret-like keys in the text of the values.  A key stands
in that text between quotation marks, so no such key passes, at any depth.  The
result is the same document as the input outside of the observability block,
and its digest identifies it.

A second pass takes the result as it is, except for an endpoint with white
space in front of the slashes at its end: the white space around the endpoint
is dropped before those slashes are, so that a blank becomes the last character
and only the second pass drops it.
-/

/-! ## `urlsplit` -/

/-- The result of `urlsplit`.  The host stands as it is written; that the
property of the class folds its case does not matter here. -/
def SplitResult.ofUrl (parts : Url.Split) : SplitResult where
  scheme := String.ofList parts.scheme
  hostname := parts.hostname.map String.ofList
  username := parts.username.map String.ofList
  password := parts.password.map String.ofList
  query := String.ofList parts.query
  fragment := String.ofList parts.fragment

/-- The interpreter with the `urlsplit` of its standard library. -/
def Python.standard {Number : Type u} (numerals : Json.Numerals Number)
    (repr : Json Number -> String) (checks : Url.Checks PyException) : Python Number where
  numerals := numerals
  repr := repr
  urlsplit := fun text => (Url.split checks text.toList).map SplitResult.ofUrl

/-! ## The endpoint -/

/-- The text without the white space at its ends. -/
def stripped (text : List Char) : List Char := rstrip isSpace (text.dropWhile isSpace)

/-- White space stands in front of the slashes at the end of the text, once the
white space around it is dropped. -/
def BlankBeforeSlashes (text : List Char) : Prop :=
  Exists fun front : List Char => Exists fun blank : Char => Exists fun count : Nat =>
    isSpace blank = true ∧ stripped text = front ++ blank :: List.replicate count '/'

theorem rstrip_eq (kind : Char -> Bool) (text : List Char) :
    rstrip kind text = text.rdropWhile kind := rfl

/-- What is left of a text has no character of the kind at its end. -/
theorem rstrip_append (kind : Char -> Bool) (front : List Char) {last : Char}
    (other : kind last = false) : rstrip kind (front ++ [last]) = front ++ [last] := by
  rw [rstrip_eq]
  apply List.rdropWhile_concat_neg
  rw [other]
  exact Bool.false_ne_true

/-- The slashes at the end of a text are dropped. -/
theorem exists_slashes (text : List Char) : Exists fun count : Nat =>
    text = rstrip (fun char => char == '/') text ++ List.replicate count '/' := by
  refine ⟨(text.rtakeWhile fun char => char == '/').length, ?_⟩
  have slashes : text.rtakeWhile (fun char => char == '/') =
      List.replicate (text.rtakeWhile fun char => char == '/').length '/' := by
    apply List.eq_replicate_iff.mpr
    refine ⟨rfl, ?_⟩
    intro char member
    exact beq_iff_eq.mp (@List.mem_rtakeWhile_imp _ (fun char => char == '/') text char member)
  rw [← slashes, rstrip_eq]
  exact List.rdropWhile_append_rtakeWhile.symm

theorem rstrip_slashes (front : List Char) {last : Char} (other : last ≠ '/') (count : Nat) :
    rstrip (fun char => char == '/') (front ++ last :: List.replicate count '/') =
      front ++ [last] := by
  induction count with
  | zero => exact rstrip_append _ front (beq_eq_false_iff_ne.mpr other)
  | succ count inductionHypothesis =>
      rw [List.replicate_succ', ← List.cons_append, ← List.append_assoc, rstrip_eq,
        List.rdropWhile_concat_pos _ _ _ rfl]
      exact inductionHypothesis

theorem head_stripped {text more : List Char} {first : Char}
    (same : stripped text = first :: more) : isSpace first = false := by
  have start : first :: more <+: text.dropWhile isSpace := by
    rw [← same]
    exact List.rdropWhile_prefix _ _
  rcases start with ⟨rest, whole⟩
  have fails := List.head?_dropWhile_not isSpace text
  rw [← whole] at fails
  simpa only [List.cons_append, List.head?_cons, Bool.not_eq_false'] using fails

/-- A text without white space at either end is left alone. -/
theorem stripped_eq {first last : Char} {text front more : List Char}
    (starts : text = first :: more) (ends : text = front ++ [last])
    (firstPlain : isSpace first = false) (lastPlain : isSpace last = false) :
    stripped text = text := by
  have kept : text.dropWhile isSpace = text := by
    rw [starts]
    exact List.dropWhile_cons_of_neg (by rw [firstPlain]; exact Bool.false_ne_true)
  unfold stripped
  rw [kept, ends]
  exact rstrip_append isSpace front lastPlain

/-- A text with white space at its end gets shorter. -/
theorem length_stripped {front : List Char} {last : Char} (blank : isSpace last = true) :
    (stripped (front ++ [last])).length ≤ front.length := by
  unfold stripped
  rw [List.dropWhile_append]
  split
  · rw [List.dropWhile_cons_of_pos blank]
    exact Nat.zero_le _
  · rw [rstrip_eq, List.rdropWhile_concat_pos _ _ _ blank]
    exact (List.rdropWhile_prefix _ _).length_le.trans (List.dropWhile_suffix _).length_le

section Endpoint

variable {Number : Type u} {numerals : Json.Numerals Number} {repr : Json Number -> String}
  {checks : Url.Checks PyException}

/-- What a text has passed when it is an endpoint. -/
structure Endpoint (checks : Url.Checks PyException) (text : List Char) (parts : Url.Split) :
    Prop where
  split : Url.split checks text = .ok parts
  scheme : String.ofList parts.scheme = "http" ∨ String.ofList parts.scheme = "https"
  hostname : (parts.hostname.map String.ofList).getD "" ≠ ""
  username : (parts.username.map String.ofList).getD "" = ""
  password : (parts.password.map String.ofList).getD "" = ""
  query : parts.query = []
  fragment : parts.fragment = []

theorem Endpoint.plain {text : List Char} {parts : Url.Split}
    (endpoint : Endpoint checks text parts) : parts.Plain := by
  refine ⟨?_, endpoint.query, endpoint.fragment⟩
  apply Url.netloc_of_hostname
  intro missing
  apply endpoint.hostname
  rw [missing]
  rfl

/-- The slashes at the end of an endpoint are no part of what is checked. -/
theorem Endpoint.rstrip {text : List Char} {parts : Url.Split}
    (endpoint : Endpoint checks text parts) : Exists fun shorter : Url.Split =>
      Endpoint checks (ControlPlane.rstrip (fun char => char == '/') text) shorter := by
  rcases Url.split_plain checks endpoint.split endpoint.plain with ⟨path, _, _, again⟩
  exact ⟨{ parts with path }, again, endpoint.scheme, endpoint.hostname, endpoint.username,
    endpoint.password, endpoint.query, endpoint.fragment⟩

theorem urlsplit_standard (text : String) :
    (Python.standard numerals repr checks).urlsplit text =
      (Url.split checks text.toList).map SplitResult.ofUrl := rfl

/-- The spec of `validate_otlp_endpoint`, where there is an endpoint. -/
theorem validateOtlpEndpoint_eq_ok {value endpoint : String} (given : endpoint ≠ "") :
    validateOtlpEndpoint (Python.standard numerals repr checks) value = .ok endpoint <->
      (Exists fun parts : Url.Split => Endpoint checks (stripped value.toList) parts) ∧
        endpoint.toList = rstrip (fun char => char == '/') (stripped value.toList) := by
  have ofList_nil : forall text : List Char, String.ofList text = "" <-> text = [] := by
    intro text
    exact String.ofList_eq_empty_iff
  unfold validateOtlpEndpoint
  rw [← stripped]
  dsimp only
  by_cases empty : String.ofList (stripped value.toList) = ""
  · rw [if_pos empty]
    constructor
    · intro made
      exact absurd (Except.ok.inj made).symm given
    · rintro ⟨_, same⟩
      rw [(ofList_nil _).mp empty] at same
      exact absurd (String.toList_eq_nil_iff.mp same) given
  · rw [if_neg empty]
    rw [urlsplit_standard, String.toList_ofList]
    cases split : Url.split checks (stripped value.toList) with
    | error error =>
        constructor
        · intro made
          cases made
        · rintro ⟨⟨parts, endpoint⟩, _⟩
          rw [endpoint.split] at split
          cases split
    | ok parts =>
        simp only [Except.map, Except.bind, SplitResult.ofUrl]
        constructor
        · intro made
          split at made
          · cases made
          · rename_i located
            split at made
            · cases made
            · rename_i plain
              simp only [not_or, not_and_or, not_not] at located plain
              refine ⟨⟨parts, split, located.1, located.2, plain.1, plain.2.1,
                (ofList_nil _).mp plain.2.2.1, (ofList_nil _).mp plain.2.2.2⟩, ?_⟩
              rw [← Except.ok.inj made, String.toList_ofList]
        · rintro ⟨⟨other, checked⟩, same⟩
          rw [checked.split] at split
          cases split
          rw [if_neg, if_neg, ← same, String.ofList_toList]
          · simp only [not_or, not_not]
            exact ⟨checked.username, checked.password, (ofList_nil _).mpr checked.query,
              (ofList_nil _).mpr checked.fragment⟩
          · simp only [not_or, not_and_or, not_not]
            exact ⟨checked.scheme, checked.hostname⟩

/-- A second pass over an endpoint returns it, unless white space stood in
front of its slashes. -/
theorem validateOtlpEndpoint_again {value endpoint : String} (given : endpoint ≠ "")
    (accepted : validateOtlpEndpoint (Python.standard numerals repr checks) value =
      .ok endpoint) :
    validateOtlpEndpoint (Python.standard numerals repr checks) endpoint = .ok endpoint <->
      ¬BlankBeforeSlashes value.toList := by
  rcases (validateOtlpEndpoint_eq_ok given).mp accepted with ⟨⟨parts, checked⟩, same⟩
  rw [validateOtlpEndpoint_eq_ok given]
  constructor
  · rintro ⟨_, again⟩ ⟨front, blank, count, space, written⟩
    have other : blank ≠ '/' := by
      rintro rfl
      exact absurd space (by decide)
    rw [written, rstrip_slashes front other] at same
    have short : (stripped (front ++ [blank])).length ≤ front.length := length_stripped space
    have shorter : (rstrip (fun char => char == '/') (stripped endpoint.toList)).length ≤
        (stripped endpoint.toList).length := (List.rdropWhile_prefix _ _).length_le
    rw [← again, same] at shorter
    rw [List.length_append, List.length_singleton] at shorter
    omega
  · intro steady
    have written : endpoint.toList ≠ [] := fun empty =>
      given (String.toList_eq_nil_iff.mp empty)
    have kept : stripped endpoint.toList = endpoint.toList := by
      rcases List.exists_cons_of_ne_nil written with ⟨first, more, starts⟩
      have ends := (List.dropLast_append_getLast written).symm
      rcases exists_slashes (stripped value.toList) with ⟨count, whole⟩
      rw [← same] at whole
      refine stripped_eq starts ends ?_ ?_
      · rw [starts, List.cons_append] at whole
        exact head_stripped whole
      · apply Bool.eq_false_iff.mpr
        intro space
        rw [ends, List.append_assoc] at whole
        exact steady ⟨_, _, count, space, whole⟩
    rw [kept]
    rcases checked.rstrip with ⟨shorter, again⟩
    rw [← same] at again
    refine ⟨⟨shorter, again⟩, ?_⟩
    rw [same, rstrip_eq, rstrip_eq]
    exact (List.rdropWhile_idempotent _ _).symm

end Endpoint

/-! ## The guard -/

/-- The keys that the guard looks for. -/
def secretKeys : List String := ["password", "token", "secretkey", "access_key"]

/-- The key is one of them when the case of its ASCII letters is ignored. -/
def IsSecretKey (key : String) : Prop :=
  key.toList.map Char.toLower ∈ secretKeys.map String.toList

theorem secretTokens_eq :
    secretTokens.map String.toList =
      secretKeys.map fun key => '\"' :: (key.toList ++ ['\"']) := by
  decide

/-- A character whose lower case stands in a secret key is written as it is. -/
theorem plain_of_toLower {char lowered : Char} (same : char.toLower = lowered)
    (letter : lowered.isLower = true ∨ lowered = '_') :
    (32 ≤ char.toNat ∧ char.toNat ≤ 126) ∧ char ≠ '\"' ∧ char ≠ '\\' := by
  unfold Char.toLower at same
  split at same
  · rename_i upper
    have low : 65 ≤ char.toNat := upper.1
    have high : char.toNat ≤ 90 := upper.2
    refine ⟨⟨by omega, by omega⟩, ?_, ?_⟩
    · rintro rfl
      exact absurd low (by decide)
    · rintro rfl
      exact absurd high (by decide)
  · subst same
    rcases letter with lower | rfl
    · unfold Char.isLower at lower
      simp only [Bool.and_eq_true, decide_eq_true_eq] at lower
      have low : 97 ≤ char.toNat := lower.1
      have high : char.toNat ≤ 122 := lower.2
      refine ⟨⟨by omega, by omega⟩, ?_, ?_⟩
      · rintro rfl
        exact absurd low (by decide)
      · rintro rfl
        exact absurd low (by decide)
    · exact ⟨by decide, by decide, by decide⟩

section Values

variable {Number : Type u}

/-- A secret key at any depth is found in the text. -/
theorem token_of_secretKey (numerals : Json.Numerals Number) {key : String} {value : Json Number}
    (secret : IsSecretKey key) (inside : value.HasKey key) :
    Exists fun token : String => token ∈ secretTokens ∧
      token.toList <:+: (Json.dumps numerals value).toList.map Char.toLower := by
  rcases List.mem_map.mp secret with ⟨word, listed, same⟩
  have letters : secretKeys.all (fun word =>
      word.toList.all fun char => char.isLower || char == '_') = true := by decide
  have written : Json.writeString key = '\"' :: (key.toList ++ ['\"']) := by
    unfold Json.writeString
    rw [Json.flatMap_escapeChar]
    intro char member
    have lowered : char.toLower ∈ word.toList := by
      rw [same]
      exact List.mem_map_of_mem member
    have letter := List.all_eq_true.mp (List.all_eq_true.mp letters word listed) _ lowered
    rw [Bool.or_eq_true, beq_iff_eq] at letter
    exact plain_of_toLower rfl letter
  have quoted : '\"' :: (word.toList ++ ['\"']) ∈ secretTokens.map String.toList := by
    rw [secretTokens_eq]
    exact List.mem_map.mpr ⟨word, listed, rfl⟩
  rcases List.mem_map.mp quoted with ⟨token, tokenListed, tokenSame⟩
  refine ⟨token, tokenListed, ?_⟩
  have found := (inside.infix_dumps numerals).map Char.toLower
  rw [written, List.map_cons, List.map_append, ← same] at found
  rw [tokenSame]
  exact found

/-- The spec of `sanitize_values` without its wrapper. -/
theorem sanitizeHelmValues_eq_ok {python : Python Number}
    {values cleaned : List (String × Json Number)} (distinct : (Json.object values).Distinct) :
    sanitizeHelmValues python values = .ok cleaned <->
      (forall key, key ∈ values.map Prod.fst -> key ∈ allowedValues) ∧
        (forall token, token ∈ secretTokens -> ¬token.toList <:+:
          (Json.dumps python.numerals (.object values)).toList.map Char.toLower) ∧
        Json.object cleaned = (Json.object values).canonical := by
  have known : (values.map Prod.fst).filter (fun key => decide (key ∉ allowedValues)) = [] <->
      forall key, key ∈ values.map Prod.fst -> key ∈ allowedValues := by
    rw [List.filter_eq_nil_iff]
    simp only [decide_not, Bool.not_eq_true, Bool.not_eq_false', decide_eq_true_eq]
  have silent : (secretTokens.any fun token => decide (token.toList <:+:
      (Json.dumps python.numerals (.object values)).toList.map Char.toLower)) = true <->
      ¬forall token, token ∈ secretTokens -> ¬token.toList <:+:
        (Json.dumps python.numerals (.object values)).toList.map Char.toLower := by
    rw [List.any_eq_true]
    push Not
    simp only [decide_eq_true_eq]
  unfold sanitizeHelmValues
  dsimp only
  by_cases unknown : (values.map Prod.fst).filter (fun key => decide (key ∉ allowedValues)) = []
  · rw [if_neg (not_not.mpr unknown)]
    by_cases found : (secretTokens.any fun token => decide (token.toList <:+:
        (Json.dumps python.numerals (.object values)).toList.map Char.toLower)) = true
    · rw [if_pos found]
      constructor
      · intro made
        cases made
      · rintro ⟨_, quiet, _⟩
        exact absurd quiet (silent.mp found)
    · rw [if_neg found, Json.loads_dumps python.numerals distinct, Json.canonical_object]
      constructor
      · intro made
        cases made
        exact ⟨known.mp unknown, not_not.mp fun loud => found (silent.mpr loud), rfl⟩
      · rintro ⟨_, _, same⟩
        cases same
        rfl
  · rw [if_pos unknown]
    constructor
    · intro made
      cases made
    · rintro ⟨allowed, _⟩
      exact absurd (known.mpr allowed) unknown

/-- What the guard has returned it returns again. -/
theorem sanitizeHelmValues_again {python : Python Number}
    {values cleaned : List (String × Json Number)} (distinct : (Json.object values).Distinct)
    (accepted : sanitizeHelmValues python values = .ok cleaned) :
    sanitizeHelmValues python cleaned = .ok cleaned := by
  rcases (sanitizeHelmValues_eq_ok distinct).mp accepted with ⟨allowed, quiet, same⟩
  have fixed : (Json.object cleaned).canonical = Json.object cleaned := by
    rw [same, Json.canonical_canonical]
  have texts : Json.dumps python.numerals (.object cleaned) =
      Json.dumps python.numerals (.object values) := by
    unfold Json.dumps
    rw [fixed, same]
  refine (sanitizeHelmValues_eq_ok (same ▸ distinct.canonical)).mpr ⟨?_, ?_, fixed.symm⟩
  · intro key listed
    apply allowed
    rw [Json.canonical_object] at same
    rw [Json.object.inj same] at listed
    rw [← Json.keys_canonicalMember]
    exact ((Json.sortMembers_perm _).map Prod.fst).mem_iff.mp listed
  · rw [texts]
    exact quiet

/-! ## The observability block -/

/-- The block that is returned when observability is on. -/
def enabledBlock (endpoint namespaceName : String) : List (String × Json Number) :=
  [("enabled", .bool true), ("otlpEndpoint", .string endpoint),
    ("serviceNamespace", .string namespaceName), ("correlationId", .string "")]

/-- The endpoint as it is given. -/
def givenEndpoint (python : Python Number) (block : List (String × Json Number)) : String :=
  python.str ((Json.get "otlpEndpoint" block).getD (.string ""))

/-- Observability is on, and white space stands in front of the slashes of its
endpoint. -/
def BlankEndpoint (python : Python Number) (value : Json Number) : Prop :=
  Exists fun block : List (String × Json Number) => value = .object block ∧
    Json.get "enabled" block = some (.bool true) ∧
      BlankBeforeSlashes (givenEndpoint python block).toList

theorem sanitizeEnabled_eq_ok {python : Python Number} {block safe : List (String × Json Number)}
    (accepted : sanitizeEnabled python block = .ok safe) :
    Exists fun endpoint : String => Exists fun namespaceName : String =>
      validateOtlpEndpoint python (givenEndpoint python block) = .ok endpoint ∧ endpoint ≠ "" ∧
        matchesNamespace namespaceName = true ∧ safe = enabledBlock endpoint namespaceName := by
  unfold sanitizeEnabled at accepted
  rcases bind_eq_ok accepted with ⟨endpoint, validated, checked⟩
  dsimp only at checked
  split at checked
  · cases checked
  · rename_i given
    split at checked
    · cases checked
    · rename_i matched
      rw [Bool.not_eq_false] at matched
      exact ⟨endpoint, _, validated, given, matched, (Except.ok.inj checked).symm⟩

/-- The three blocks that are returned, each with what it was made of. -/
theorem sanitizeObservability_cases {python : Python Number} {value : Json Number}
    {safe : List (String × Json Number)}
    (accepted : sanitizeObservability python value = .ok safe) :
    (safe = [] ∧ ¬BlankEndpoint python value) ∨
      (safe = [("enabled", .bool false)] ∧ ¬BlankEndpoint python value) ∨
      Exists fun block : List (String × Json Number) => value = .object block ∧
        Json.get "enabled" block = some (.bool true) ∧
          sanitizeEnabled python block = .ok safe := by
  unfold sanitizeObservability at accepted
  split at accepted
  · refine Or.inl ⟨(Except.ok.inj accepted).symm, ?_⟩
    rintro ⟨block, same, _⟩
    cases same
  · refine Or.inl ⟨(Except.ok.inj accepted).symm, ?_⟩
    rintro ⟨block, same, switched, _⟩
    cases same
    cases switched
  · rename_i member rest
    split at accepted
    · cases accepted
    · cases switched : Json.get "enabled" (member :: rest) with
      | none =>
          rw [switched] at accepted
          refine Or.inr (Or.inl ⟨(Except.ok.inj accepted).symm, ?_⟩)
          rintro ⟨block, same, other, _⟩
          cases same
          rw [switched] at other
          cases other
      | some value =>
          rw [switched, Option.getD_some] at accepted
          split at accepted
          · exact Or.inr (Or.inr ⟨_, rfl, switched, accepted⟩)
          · refine Or.inr (Or.inl ⟨(Except.ok.inj accepted).symm, ?_⟩)
            rintro ⟨block, same, other, _⟩
            cases same
            rw [switched] at other
            cases other
          · cases accepted
  · cases accepted

theorem sanitizeObservability_enabledBlock (python : Python Number)
    {endpoint namespaceName : String} (matched : matchesNamespace namespaceName = true) :
    sanitizeObservability python (.object (enabledBlock endpoint namespaceName)) =
      (validateOtlpEndpoint python endpoint).bind fun again =>
        if again = "" then
          .error (.valueError "observability.otlpEndpoint is required when enabled")
        else .ok (enabledBlock again namespaceName) := by
  have unfolded : sanitizeObservability python (.object (enabledBlock endpoint namespaceName)) =
      sanitizeEnabled python (enabledBlock endpoint namespaceName) := rfl
  have endpointGiven : givenEndpoint python (enabledBlock endpoint namespaceName) = endpoint := rfl
  have nameGiven : python.str ((Json.get "serviceNamespace"
      (enabledBlock endpoint namespaceName)).getD (.string "djangoops")) = namespaceName := rfl
  rw [unfolded]
  unfold sanitizeEnabled
  unfold givenEndpoint at endpointGiven
  rw [endpointGiven, nameGiven]
  simp only [matched, Bool.true_eq_false, if_false]
  rfl

theorem distinct_enabledBlock (endpoint namespaceName : String) :
    (Json.object (enabledBlock endpoint namespaceName : List (String × Json Number))).Distinct := by
  have keys : observabilityKeys.Nodup := by decide
  refine .object _ keys fun member listed => ?_
  simp only [enabledBlock, List.mem_cons, List.not_mem_nil, or_false] at listed
  rcases listed with rfl | rfl | rfl | rfl
  · exact .bool true
  · exact .string endpoint
  · exact .string namespaceName
  · exact .string ""

variable {numerals : Json.Numerals Number} {repr : Json Number -> String}
  {checks : Url.Checks PyException}

/-- A block comes back as it is from a second pass, unless the endpoint that it
was made of had white space in front of its slashes. -/
theorem sanitizeObservability_again {value : Json Number} {safe : List (String × Json Number)}
    (accepted : sanitizeObservability (Python.standard numerals repr checks) value = .ok safe) :
    (Exists fun again : List (String × Json Number) =>
      sanitizeObservability (Python.standard numerals repr checks) (.object safe) = .ok again ∧
        Json.SameDocument (.object again) (.object safe)) <->
      ¬BlankEndpoint (Python.standard numerals repr checks) value := by
  rcases sanitizeObservability_cases accepted with ⟨rfl, steady⟩ | ⟨rfl, steady⟩ |
    ⟨block, rfl, switched, enabled⟩
  · exact ⟨fun _ => steady, fun _ => ⟨[], rfl, .refl _⟩⟩
  · exact ⟨fun _ => steady, fun _ => ⟨_, rfl, .refl _⟩⟩
  · rcases sanitizeEnabled_eq_ok enabled with
      ⟨endpoint, namespaceName, validated, given, matched, rfl⟩
    have blank : BlankEndpoint (Python.standard numerals repr checks) (.object block) <->
        BlankBeforeSlashes
          (givenEndpoint (Python.standard numerals repr checks) block).toList := by
      constructor
      · rintro ⟨other, same, _, blank⟩
        rw [Json.object.inj same]
        exact blank
      · intro blank
        exact ⟨block, rfl, switched, blank⟩
    rw [blank, ← validateOtlpEndpoint_again given validated,
      sanitizeObservability_enabledBlock _ matched]
    constructor
    · rintro ⟨again, made, same⟩
      rcases bind_eq_ok made with ⟨second, accepted, checked⟩
      rw [accepted]
      split at checked
      · cases checked
      · cases checked
        have equal := same.get (distinct_enabledBlock second namespaceName) "otlpEndpoint"
        exact congrArg Except.ok (Json.string.inj (Option.some.inj equal))
    · intro again
      rw [again]
      refine ⟨enabledBlock endpoint namespaceName, ?_, .refl _⟩
      exact if_neg given

/-! ## The values -/

/-- The document without its observability block. -/
def outside (values : List (String × Json Number)) : Json Number :=
  .object (Json.erase "observability" values)

/-- `values_digest` -/
def valuesDigest {Digest : Type u} (python : Python Number) (sha256 : String -> Digest)
    (values : List (String × Json Number)) : Digest :=
  sha256 (Json.dumps python.numerals (.object values))

/-- What is expected of the values that `sanitize_values` accepts. -/
structure Sanitised {Digest : Type u} (python : Python Number) (sha256 : String -> Digest)
    (values clean : List (String × Json Number)) : Prop where
  keys : forall key, (outside values).HasKey key ∨ (outside clean).HasKey key -> ¬IsSecretKey key
  allowed : forall key, key ∈ (Json.erase "observability" clean).map Prod.fst ->
    key ∈ allowedValues
  same : Json.SameDocument (outside clean) (outside values)
  again : Exists fun again : List (String × Json Number) =>
    sanitizeValues python clean = .ok again ∧ Json.SameDocument (.object again) (.object clean)
  digest : forall otherValues other : List (String × Json Number),
    (Json.object otherValues).Distinct -> sanitizeValues python otherValues = .ok other ->
      (valuesDigest python sha256 clean = valuesDigest python sha256 other <->
        Json.SameDocument (.object clean) (.object other))

/-- The observability block of the values, `None` when there is none. -/
def observability (values : List (String × Json Number)) : Json Number :=
  (Json.get "observability" values).getD .null

/-- The cleaned values with the checked block, when there is one. -/
def withBlock (safe cleaned : List (String × Json Number)) : List (String × Json Number) :=
  if safe.isEmpty then cleaned else Json.set "observability" (.object safe) cleaned

theorem sanitizeValues_eq (python : Python Number) (values : List (String × Json Number)) :
    sanitizeValues python values =
      (sanitizeHelmValues python (Json.erase "observability" values)).bind fun cleaned =>
        (sanitizeObservability python (observability values)).map fun safe =>
          withBlock safe cleaned := by
  unfold sanitizeValues
  refine congrArg _ (funext fun cleaned => ?_)
  unfold observability
  cases sanitizeObservability python ((Json.get "observability" values).getD .null) with
  | error error => rfl
  | ok safe =>
      change (if safe.isEmpty then Except.ok cleaned else _) = Except.ok (withBlock safe cleaned)
      unfold withBlock
      by_cases empty : safe.isEmpty = true
      · rw [if_pos empty, if_pos empty]
      · rw [if_neg empty, if_neg empty]

/-- The result is made of the cleaned values and the checked block. -/
theorem sanitizeValues_parts {python : Python Number} {values clean : List (String × Json Number)}
    (accepted : sanitizeValues python values = .ok clean) :
    Exists fun cleaned : List (String × Json Number) =>
      Exists fun safe : List (String × Json Number) =>
        sanitizeHelmValues python (Json.erase "observability" values) = .ok cleaned ∧
          sanitizeObservability python (observability values) = .ok safe ∧
          clean = withBlock safe cleaned := by
  rw [sanitizeValues_eq] at accepted
  rcases bind_eq_ok accepted with ⟨cleaned, first, checked⟩
  cases second : sanitizeObservability python (observability values) with
  | error error =>
      rw [second] at checked
      cases checked
  | ok safe =>
      rw [second] at checked
      exact ⟨cleaned, safe, first, rfl, (Except.ok.inj checked).symm⟩

section Block

variable {python : Python Number} {cleaned : List (String × Json Number)}

theorem erase_withBlock (missing : "observability" ∉ cleaned.map Prod.fst)
    (safe : List (String × Json Number)) :
    Json.erase "observability" (withBlock safe cleaned) = cleaned := by
  unfold withBlock
  by_cases empty : safe.isEmpty = true
  · rw [if_pos empty]
    exact Json.erase_of_not_mem missing
  · rw [if_neg empty, Json.erase_set]
    exact Json.erase_of_not_mem missing

theorem get_withBlock (missing : "observability" ∉ cleaned.map Prod.fst)
    (safe : List (String × Json Number)) : Json.get "observability" (withBlock safe cleaned) =
      if safe.isEmpty then none else some (.object safe) := by
  unfold withBlock
  by_cases empty : safe.isEmpty = true
  · rw [if_pos empty, if_pos empty, ← Json.erase_of_not_mem missing]
    exact Json.get_erase_self _ _
  · rw [if_neg empty, if_neg empty]
    exact Json.get_set_self _ _ _

/-- The checked block is what a second pass reads. -/
theorem sanitizeObservability_withBlock (missing : "observability" ∉ cleaned.map Prod.fst)
    (safe : List (String × Json Number)) :
    sanitizeObservability python (observability (withBlock safe cleaned)) =
      sanitizeObservability python (.object safe) := by
  unfold observability
  rw [get_withBlock missing]
  by_cases empty : safe.isEmpty = true
  · rw [if_pos empty, List.isEmpty_iff.mp empty]
    rfl
  · rw [if_neg empty]
    rfl

theorem distinct_withBlock {safe : List (String × Json Number)}
    (distinct : (Json.object cleaned).Distinct) (safeDistinct : (Json.object safe).Distinct) :
    (Json.object (withBlock safe cleaned)).Distinct := by
  unfold withBlock
  by_cases empty : safe.isEmpty = true
  · rw [if_pos empty]
    exact distinct
  · rw [if_neg empty]
    exact distinct.set "observability" safeDistinct

/-- With the same cleaned values, the same documents have the same block. -/
theorem sameDocument_withBlock (missing : "observability" ∉ cleaned.map Prod.fst)
    (distinct : (Json.object cleaned).Distinct) {first second : List (String × Json Number)}
    (firstDistinct : (Json.object first).Distinct)
    (same : Json.SameDocument (.object (withBlock first cleaned))
      (.object (withBlock second cleaned))) :
    Json.SameDocument (.object first) (.object second) := by
  have read := same.get (distinct_withBlock distinct firstDistinct) "observability"
  rw [get_withBlock missing, get_withBlock missing] at read
  by_cases firstEmpty : first.isEmpty = true
  · by_cases secondEmpty : second.isEmpty = true
    · rw [List.isEmpty_iff.mp firstEmpty, List.isEmpty_iff.mp secondEmpty]
      exact .refl _
    · rw [if_pos firstEmpty, if_neg secondEmpty] at read
      cases read
  · by_cases secondEmpty : second.isEmpty = true
    · rw [if_neg firstEmpty, if_pos secondEmpty] at read
      cases read
    · rw [if_neg firstEmpty, if_neg secondEmpty] at read
      exact (Json.sameDocument_iff firstDistinct).mpr (Option.some.inj read)

theorem withBlock_of_sameDocument (missing : "observability" ∉ cleaned.map Prod.fst)
    {first second : List (String × Json Number)} (distinct : (Json.object first).Distinct)
    (same : Json.SameDocument (.object first) (.object second)) :
    Json.SameDocument (.object (withBlock first cleaned))
      (.object (withBlock second cleaned)) := by
  have lengths := same.length_eq distinct
  unfold withBlock
  by_cases empty : first.isEmpty = true
  · have other : second.isEmpty = true := by
      rw [List.isEmpty_iff_length_eq_zero, ← lengths]
      exact List.isEmpty_iff_length_eq_zero.mp empty
    rw [if_pos empty, if_pos other]
    exact .refl _
  · have other : ¬second.isEmpty = true := by
      rw [List.isEmpty_iff_length_eq_zero, ← lengths, ← List.isEmpty_iff_length_eq_zero]
      exact empty
    rw [if_neg empty, if_neg other, Json.set_of_not_mem _ missing, Json.set_of_not_mem _ missing]
    exact .member cleaned [] "observability" same

end Block

/-- What is known of the cleaned values. -/
structure Cleaned (python : Python Number) (values cleaned : List (String × Json Number)) :
    Prop where
  distinct : (Json.object cleaned).Distinct
  same : Json.object cleaned = (outside values).canonical
  allowed : forall key, key ∈ cleaned.map Prod.fst -> key ∈ allowedValues
  missing : "observability" ∉ cleaned.map Prod.fst
  quiet : forall token, token ∈ secretTokens -> ¬token.toList <:+:
    (Json.dumps python.numerals (outside values)).toList.map Char.toLower
  again : sanitizeHelmValues python cleaned = .ok cleaned

theorem cleaned_of_accepted {python : Python Number} {values cleaned : List (String × Json Number)}
    (distinct : (Json.object values).Distinct)
    (accepted : sanitizeHelmValues python (Json.erase "observability" values) = .ok cleaned) :
    Cleaned python values cleaned := by
  have rest := distinct.erase "observability"
  rcases (sanitizeHelmValues_eq_ok rest).mp accepted with ⟨_, quiet, same⟩
  have cleanedDistinct : (Json.object cleaned).Distinct := same ▸ rest.canonical
  have again := sanitizeHelmValues_again rest accepted
  have allowed := ((sanitizeHelmValues_eq_ok cleanedDistinct).mp again).1
  refine ⟨cleanedDistinct, same, allowed, ?_, quiet, again⟩
  intro listed
  exact absurd (allowed _ listed) (by decide)

/-- A second pass goes over the checked block alone. -/
theorem sanitizeValues_withBlock {python : Python Number}
    {values cleaned : List (String × Json Number)} (known : Cleaned python values cleaned)
    (safe : List (String × Json Number)) :
    sanitizeValues python (withBlock safe cleaned) =
      (sanitizeObservability python (.object safe)).map fun again => withBlock again cleaned := by
  rw [sanitizeValues_eq, erase_withBlock known.missing, known.again,
    sanitizeObservability_withBlock known.missing]
  rfl

variable {Digest : Type u} {sha256 : String -> Digest}

/-- The clauses that every accepted dictionary meets. -/
theorem sanitised_of_again {python : Python Number} (noCollision : Function.Injective sha256)
    {values clean : List (String × Json Number)} (distinct : (Json.object values).Distinct)
    (accepted : sanitizeValues python values = .ok clean)
    (again : Exists fun again : List (String × Json Number) =>
      sanitizeValues python clean = .ok again ∧
        Json.SameDocument (.object again) (.object clean)) :
    Sanitised python sha256 values clean := by
  rcases sanitizeValues_parts accepted with ⟨cleaned, safe, first, second, made⟩
  have known := cleaned_of_accepted distinct first
  have cut : outside clean = .object cleaned := by
    unfold outside
    rw [made, erase_withBlock known.missing]
  have texts : Json.dumps python.numerals (outside clean) =
      Json.dumps python.numerals (outside values) := by
    unfold Json.dumps
    rw [cut, known.same, Json.canonical_canonical]
  refine ⟨?_, ?_, ?_, again, ?_⟩
  · intro key inside secret
    have found : Exists fun token : String => token ∈ secretTokens ∧ token.toList <:+:
        (Json.dumps python.numerals (outside values)).toList.map Char.toLower := by
      rcases inside with input | output
      · exact token_of_secretKey python.numerals secret input
      · rw [← texts]
        exact token_of_secretKey python.numerals secret output
    rcases found with ⟨token, listed, present⟩
    exact known.quiet token listed present
  · intro key listed
    rw [made, erase_withBlock known.missing] at listed
    exact known.allowed key listed
  · rw [cut, known.same]
    exact (Json.sameDocument_canonical _).symm
  · intro otherValues other otherDistinct otherAccepted
    have cleanDistinct := (sanitizeValues_ok distinct accepted).1
    rw [← Json.dumps_eq_iff python.numerals cleanDistinct
      (sanitizeValues_ok otherDistinct otherAccepted).1]
    exact noCollision.eq_iff

/-- A dictionary that `sanitize_values` accepts meets all that is expected of
it exactly when no white space stands in front of the slashes of its endpoint.
Then the slashes are dropped and the white space is not, so that sanitising the
result again gives another one.  Otherwise the result is sanitised to itself, and
its digest tells it from every other document. -/
theorem sanitised_iff (noCollision : Function.Injective sha256)
    {numerals : Json.Numerals Number} {repr : Json Number -> String}
    {checks : Url.Checks PyException} {values clean : List (String × Json Number)}
    (distinct : (Json.object values).Distinct)
    (accepted : sanitizeValues (Python.standard numerals repr checks) values = .ok clean) :
    Sanitised (Python.standard numerals repr checks) sha256 values clean <->
      ¬BlankEndpoint (Python.standard numerals repr checks) (observability values) := by
  rcases sanitizeValues_parts accepted with ⟨cleaned, safe, first, second, rfl⟩
  have known := cleaned_of_accepted distinct first
  have pass := sanitizeValues_withBlock known safe
  rw [← sanitizeObservability_again second]
  constructor
  · intro sanitised
    rcases sanitised.again with ⟨again, made, same⟩
    rw [pass] at made
    cases block : sanitizeObservability (Python.standard numerals repr checks) (.object safe) with
    | error error =>
        rw [block] at made
        cases made
    | ok checked =>
        rw [block] at made
        cases made
        exact ⟨checked, rfl, sameDocument_withBlock known.missing known.distinct
          (distinct_of_sanitizeObservability block) same⟩
  · rintro ⟨again, made, same⟩
    apply sanitised_of_again noCollision distinct accepted
    refine ⟨withBlock again cleaned, ?_, ?_⟩
    · rw [pass, made]
      rfl
    · exact withBlock_of_sameDocument known.missing (distinct_of_sanitizeObservability made) same

end Values

/-! ## Samples -/

/-- The checks of network locations without brackets and with ASCII letters. -/
def asciiChecks : Url.Checks PyException where
  unbalanced := .valueError "Invalid IPv6 URL"
  bracketed := fun _ => .ok ()
  normalised := fun _ => .ok ()

def asciiPython : Python Int := .standard .decimal (fun _ => "") asciiChecks

/-- Values with an observability block that is on. -/
def observedValues (endpoint : String) : List (String × Json Int) :=
  [("webReplicas", .number 2),
    ("observability", .object [("enabled", .bool true), ("otlpEndpoint", .string endpoint)])]

/-- What the code makes of them. -/
def observedResult (endpoint : String) : List (String × Json Int) :=
  [("webReplicas", .number 2), ("observability", .object (enabledBlock endpoint "djangoops"))]

theorem distinct_observedValues (endpoint : String) :
    (Json.object (observedValues endpoint)).Distinct := by
  have keys : ["webReplicas", "observability"].Nodup := by decide
  have inner : ["enabled", "otlpEndpoint"].Nodup := by decide
  refine .object _ keys fun member listed => ?_
  simp only [observedValues, List.mem_cons, List.not_mem_nil, or_false] at listed
  rcases listed with rfl | rfl
  · exact .number 2
  · refine .object _ inner fun entry entryListed => ?_
    simp only [List.mem_cons, List.not_mem_nil, or_false] at entryListed
    rcases entryListed with rfl | rfl
    · exact .bool true
    · exact .string endpoint

theorem distinct_observedResult (endpoint : String) :
    (Json.object (observedResult endpoint)).Distinct := by
  have keys : ["webReplicas", "observability"].Nodup := by decide
  refine .object _ keys fun member listed => ?_
  simp only [observedResult, List.mem_cons, List.not_mem_nil, or_false] at listed
  rcases listed with rfl | rfl
  · exact .number 2
  · exact distinct_enabledBlock endpoint "djangoops"

/-- A slash at the end of an endpoint is dropped once and for all. -/
theorem sanitised_observed : Sanitised asciiPython id (observedValues "http://otel:4318/")
    (observedResult "http://otel:4318") := by
  refine (sanitised_iff Function.injective_id (distinct_observedValues _) rfl).mpr ?_
  rintro ⟨block, same, _, front, blank, count, space, written⟩
  cases same
  have plain : ("http://otel:4318/".toList.all fun char => !isSpace char) = true := by decide
  have text : "http://otel:4318/".toList = front ++ blank :: List.replicate count '/' := written
  have member : blank ∈ "http://otel:4318/".toList := by
    rw [text]
    exact List.mem_append_right _ List.mem_cons_self
  have solid := List.all_eq_true.mp plain blank member
  rw [space] at solid
  exact Bool.false_ne_true solid

/-- A blank in front of the last slash is left for the second pass. -/
theorem blank_dropped_later :
    (Json.object (observedValues "http://otel/ /")).Distinct ∧
      sanitizeValues asciiPython (observedValues "http://otel/ /") =
        .ok (observedResult "http://otel/ ") ∧
      sanitizeValues asciiPython (observedResult "http://otel/ ") =
        .ok (observedResult "http://otel") ∧
      ¬Sanitised asciiPython id (observedValues "http://otel/ /")
        (observedResult "http://otel/ ") := by
  have second : sanitizeValues asciiPython (observedResult "http://otel/ ") =
      .ok (observedResult "http://otel") := rfl
  refine ⟨distinct_observedValues _, rfl, second, ?_⟩
  intro sanitised
  rcases sanitised.again with ⟨again, made, same⟩
  rw [second] at made
  cases made
  have texts : Json.dumps Json.Numerals.decimal (.object (observedResult "http://otel")) ≠
      Json.dumps Json.Numerals.decimal (.object (observedResult "http://otel/ ")) := by
    decide +kernel
  exact texts ((Json.dumps_eq_iff _ (distinct_observedResult _)
    (distinct_observedResult _)).mpr same)

end ControlPlane
end DjangoOps
