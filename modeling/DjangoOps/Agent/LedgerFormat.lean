import DjangoOps.Agent.Ledger
import DjangoOps.Foundation.OrderedJson

namespace DjangoOps
namespace Agent
namespace LedgerFile

open OrderedJson (Literal)

/-!
# The text of the ledger

The ledger is one JSON object.  `encoding/json` writes the keys of a map in
order and leaves out members that are zero; it reads the members of a struct
one by one, with keys in either case, passes over those that it does not know,
and lets `null` leave a field alone.  What was written is read back as it was.
-/

/-! ## Data -/

/-- `persistedKubernetesResult` -/
structure StoredResult where
  status : String
  helmRevision : UInt32
  previousRevision : UInt32
  rollbackStatus : String
  errorCode : String
  deriving DecidableEq

/-- `persistedKubernetesJob` -/
structure StoredJob where
  fingerprint : String
  state : String
  result : Option StoredResult
  updatedAt : Int64
  deriving DecidableEq

/-- `persistedKubernetesState` -/
abbrev StoredState := AList (fun _ : String => StoredJob)

def StoredResult.zero : StoredResult := ⟨"", 0, 0, "", ""⟩
def StoredJob.zero : StoredJob := ⟨"", "", none, 0⟩

/-! ## Writing -/

/-- `omitempty` of a string -/
def omitText (name text : String) : List (String × Json Literal) :=
  if text = "" then [] else [(name, .string text)]

/-- `omitempty` of a number -/
def omitNumber (name : String) (value : UInt32) : List (String × Json Literal) :=
  if value = 0 then [] else [(name, .number (OrderedJson.integer value.toNat))]

def StoredResult.members (result : StoredResult) : List (String × Json Literal) :=
  ("status", .string result.status) :: (omitNumber "helm_revision" result.helmRevision ++
    (omitNumber "previous_revision" result.previousRevision ++
      (omitText "rollback_status" result.rollbackStatus ++
        omitText "error_code" result.errorCode)))

/-- `omitempty` of a pointer -/
def omitResult : Option StoredResult -> List (String × Json Literal)
  | none => []
  | some result => [("result", .object result.members)]

def StoredJob.members (job : StoredJob) : List (String × Json Literal) :=
  ("fingerprint", .string job.fingerprint) :: ("state", .string job.state) ::
    (omitResult job.result ++
      [("updated_at", .number (OrderedJson.integer job.updatedAt.toInt))])

/-- The jobs in order of their ids. -/
def sortedJobs (state : StoredState) : List (String × StoredJob) :=
  (state.entries.map fun entry => (entry.1, entry.2)).insertionSort
    fun left right => left.1 ≤ right.1

def stateJson (state : StoredState) : Json Literal :=
  .object [("jobs", .object ((sortedJobs state).map fun job => (job.1, .object job.2.members)))]

/-! ## Reading -/

/-- The two characters outside of ASCII that fold to a letter, and capitals. -/
def foldChar (char : Char) : Char :=
  if char.toNat = 0x212a then 'k' else if char.toNat = 0x17f then 's' else char.toLower

/-- A key names a field in either case. -/
def names (field key : String) : Bool := decide (key.toList.map foldChar = field.toList)

def decodeText (old : String) : Json Literal -> Option String
  | .string text => some text
  | .null => some old
  | _ => none

/-- `strconv.ParseUint` and the bound of the type -/
def decodeUInt32 (old : UInt32) : Json Literal -> Option UInt32
  | .number literal =>
      let value := Nat.ofDigitChars 10 literal.text 0
      if literal.text.all Char.isDigit = true ∧ value < 2 ^ 32 then some (UInt32.ofNat value)
      else none
  | .null => some old
  | _ => none

/-- `strconv.ParseInt`, which takes a sign -/
def parseInt (text : List Char) : Option Int :=
  match text with
  | '-' :: digits =>
      if digits.all Char.isDigit then some (-(Nat.ofDigitChars 10 digits 0 : Int)) else none
  | digits =>
      if digits.all Char.isDigit then some (Nat.ofDigitChars 10 digits 0 : Int) else none

def decodeInt64 (old : Int64) : Json Literal -> Option Int64
  | .number literal =>
      (parseInt literal.text).bind fun value =>
        if -9223372036854775808 ≤ value ∧ value < 9223372036854775808 then
          some (Int64.ofInt value)
        else none
  | .null => some old
  | _ => none

def decodeResultMember (result : StoredResult) (member : String × Json Literal) :
    Option StoredResult :=
  if names "status" member.1 then
    (decodeText result.status member.2).map fun value => { result with status := value }
  else if names "helm_revision" member.1 then
    (decodeUInt32 result.helmRevision member.2).map fun value =>
      { result with helmRevision := value }
  else if names "previous_revision" member.1 then
    (decodeUInt32 result.previousRevision member.2).map fun value =>
      { result with previousRevision := value }
  else if names "rollback_status" member.1 then
    (decodeText result.rollbackStatus member.2).map fun value =>
      { result with rollbackStatus := value }
  else if names "error_code" member.1 then
    (decodeText result.errorCode member.2).map fun value => { result with errorCode := value }
  else some result

/-- A pointer: `null` clears it, and an object is read into what it points to. -/
def decodeResult (old : Option StoredResult) : Json Literal -> Option (Option StoredResult)
  | .object members => (members.foldlM decodeResultMember (old.getD .zero)).map some
  | .null => some none
  | _ => none

def decodeJobMember (job : StoredJob) (member : String × Json Literal) : Option StoredJob :=
  if names "fingerprint" member.1 then
    (decodeText job.fingerprint member.2).map fun value => { job with fingerprint := value }
  else if names "state" member.1 then
    (decodeText job.state member.2).map fun value => { job with state := value }
  else if names "result" member.1 then
    (decodeResult job.result member.2).map fun value => { job with result := value }
  else if names "updated_at" member.1 then
    (decodeInt64 job.updatedAt member.2).map fun value => { job with updatedAt := value }
  else some job

/-- A value of the map is always read into a new job. -/
def decodeJob : Json Literal -> Option StoredJob
  | .object members => members.foldlM decodeJobMember .zero
  | .null => some .zero
  | _ => none

/-- A map that is there already is added to. -/
def decodeJobs (old : StoredState) : Json Literal -> Option StoredState
  | .object members =>
      members.foldlM (fun jobs member =>
        (decodeJob member.2).map fun job => jobs.insert member.1 job) old
  | .null => some ∅
  | _ => none

/-- `json.Unmarshal(data, &state)` -/
def decodeState : Json Literal -> Option StoredState
  | .object members =>
      members.foldlM (fun jobs member =>
        if names "jobs" member.1 then decodeJobs jobs member.2 else some jobs) ∅
  | .null => some ∅
  | _ => none

/-! ## Strings and numbers are read back -/

theorem readChar_short {entry : Char × Char} (listed : entry ∈ shortEscapes) (rest : List Char) :
    OrderedJson.readChar ('\\' :: entry.2 :: rest) = some (entry.1, rest) := by
  simp only [shortEscapes, List.mem_cons, List.not_mem_nil, or_false] at listed
  rcases listed with same | same | same | same | same | same | same <;> rw [same] <;> rfl

theorem readChar_escapeChar (char : Char) (rest : List Char) :
    OrderedJson.readChar (escapeChar char ++ rest) = some (char, rest) := by
  have escaped := fun small whole =>
    @OrderedJson.readChar_unicodeEscape char.toNat small whole rest
  rw [Char.ofNat_toNat] at escaped
  unfold escapeChar
  split
  · rename_i entry found
    have named := List.find?_some found
    rw [← of_decide_eq_true named]
    exact readChar_short (List.mem_of_find?_eq_some found) rest
  · rename_i missing
    split
    · rename_i listed
      have small : char.toNat < 256 := by
        rcases listed with below | rfl | rfl | rfl
        · omega
        · decide
        · decide
        · decide
      have text : Json.unicodeEscape char.toNat =
          ['\\', 'u', '0', '0', hexDigit (char.toNat / 16), hexDigit (char.toNat % 16)] := by
        unfold Json.unicodeEscape
        rw [Nat.div_eq_of_lt (by omega : char.toNat < 4096),
          Nat.div_eq_of_lt (by omega : char.toNat < 256),
          Nat.mod_eq_of_lt (by omega : char.toNat / 16 < 16)]
        rfl
      rw [← text]
      exact escaped (by omega) (by omega)
    · split
      · rename_i separator
        have text : Json.unicodeEscape char.toNat =
            ['\\', 'u', '2', '0', '2', hexDigit (char.toNat % 16)] := by
          rcases separator with same | same <;> rw [same] <;> rfl
        rw [← text]
        exact escaped (by omega) (by omega)
      · rename_i printable _
        refine OrderedJson.readChar_plain ?_ (by omega) rest
        rintro rfl
        cases missing

/-- The escapes of `encoding/json`. -/
def escaping : OrderedJson.Escaping where
  escape := escapeChar
  read := readChar_escapeChar
  inside := by
    intro char same
    cases text : escapeChar char with
    | nil =>
        rw [text] at same
        cases same
    | cons first rest =>
        rw [text] at same
        rw [Option.some.inj same] at text
        exact avoids_escapeChar char [] rest (by rw [List.append_nil, text])

theorem digits_toDigits (value : Nat) :
    (Nat.toDigits 10 value).all Char.isDigit = true ∧
      Nat.ofDigitChars 10 (Nat.toDigits 10 value) 0 = value :=
  ⟨List.all_eq_true.mpr fun _ member => Nat.isDigit_of_mem_toDigits (by decide) (by decide) member,
    Nat.ofDigitChars_toDigits (by decide) (by decide)⟩

theorem decodeUInt32_integer (old value : UInt32) :
    decodeUInt32 old (.number (OrderedJson.integer value.toNat)) = some value := by
  rcases digits_toDigits value.toNat with ⟨digits, back⟩
  change (if (Nat.toDigits 10 value.toNat).all Char.isDigit = true ∧
    Nat.ofDigitChars 10 (Nat.toDigits 10 value.toNat) 0 < 2 ^ 32 then
      some (UInt32.ofNat (Nat.ofDigitChars 10 (Nat.toDigits 10 value.toNat) 0)) else none) = _
  rw [back, if_pos ⟨digits, value.toNat_lt⟩, UInt32.ofNat_toNat]

theorem parseInt_writeInteger (value : Int) : parseInt (Json.writeInteger value) = some value := by
  cases value with
  | ofNat number =>
      rcases digits_toDigits number with ⟨digits, back⟩
      change parseInt (Nat.toDigits 10 number) = _
      unfold parseInt
      split
      · rename_i same
        rw [same] at digits
        cases digits
      · rw [if_pos digits, back]
        rfl
  | negSucc number =>
      rcases digits_toDigits (number + 1) with ⟨digits, back⟩
      change (if (Nat.toDigits 10 (number + 1)).all Char.isDigit = true then _ else _) = _
      rw [if_pos digits, back]
      rfl

theorem decodeInt64_integer (old value : Int64) :
    decodeInt64 old (.number (OrderedJson.integer value.toInt)) = some value := by
  change (parseInt (Json.writeInteger value.toInt)).bind _ = _
  rw [parseInt_writeInteger, Option.bind_some, if_pos ⟨value.le_toInt, value.toInt_lt⟩,
    Int64.ofInt_toInt]

/-! ## Members are read back -/

section Omitted

variable {Record : Type} {step : Record -> String × Json Literal -> Option Record} {name : String}

/-- A number that may be left out, read into a field that is zero. -/
theorem foldlM_omitNumber {get : Record -> UInt32} {set : Record -> UInt32 -> Record}
    (decodes : forall record value,
      step record (name, value) = (decodeUInt32 (get record) value).map (set record))
    {record : Record} (value : UInt32) (same : set record 0 = record) :
    (omitNumber name value).foldlM step record = some (set record value) := by
  unfold omitNumber
  by_cases zero : value = 0
  · rw [if_pos zero, List.foldlM_nil, zero, same]
    rfl
  · rw [if_neg zero, List.foldlM_cons, decodes, decodeUInt32_integer]
    rfl

/-- A text that may be left out, read into a field that is empty. -/
theorem foldlM_omitText {get : Record -> String} {set : Record -> String -> Record}
    (decodes : forall record value,
      step record (name, value) = (decodeText (get record) value).map (set record))
    {record : Record} (text : String) (same : set record "" = record) :
    (omitText name text).foldlM step record = some (set record text) := by
  unfold omitText
  by_cases empty : text = ""
  · rw [if_pos empty, List.foldlM_nil, empty, same]
    rfl
  · rw [if_neg empty, List.foldlM_cons, decodes]
    rfl

end Omitted

section Fields

variable (value : Json Literal)

/-- The names of the fields are different from one another. -/
theorem resultNames : forall name, name ∈ ["status", "helm_revision", "previous_revision",
    "rollback_status", "error_code"] -> forall other, other ∈ ["status", "helm_revision",
    "previous_revision", "rollback_status", "error_code"] ->
      names name other = decide (name = other) := by
  decide +kernel

theorem jobNames : forall name, name ∈ ["fingerprint", "state", "result", "updated_at"] ->
    forall other, other ∈ ["fingerprint", "state", "result", "updated_at"] ->
      names name other = decide (name = other) := by
  decide +kernel

theorem decodeResult_status (result : StoredResult) :
    decodeResultMember result ("status", value) =
      (decodeText result.status value).map fun text => { result with status := text } := by
  unfold decodeResultMember
  simp [resultNames]

theorem decodeResult_helmRevision (result : StoredResult) :
    decodeResultMember result ("helm_revision", value) =
      (decodeUInt32 result.helmRevision value).map fun number =>
        { result with helmRevision := number } := by
  unfold decodeResultMember
  simp [resultNames]

theorem decodeResult_previousRevision (result : StoredResult) :
    decodeResultMember result ("previous_revision", value) =
      (decodeUInt32 result.previousRevision value).map fun number =>
        { result with previousRevision := number } := by
  unfold decodeResultMember
  simp [resultNames]

theorem decodeResult_rollbackStatus (result : StoredResult) :
    decodeResultMember result ("rollback_status", value) =
      (decodeText result.rollbackStatus value).map fun text =>
        { result with rollbackStatus := text } := by
  unfold decodeResultMember
  simp [resultNames]

theorem decodeResult_errorCode (result : StoredResult) :
    decodeResultMember result ("error_code", value) =
      (decodeText result.errorCode value).map fun text => { result with errorCode := text } := by
  unfold decodeResultMember
  simp [resultNames]

theorem decodeJob_fingerprint (job : StoredJob) :
    decodeJobMember job ("fingerprint", value) =
      (decodeText job.fingerprint value).map fun text => { job with fingerprint := text } := by
  unfold decodeJobMember
  simp [jobNames]

theorem decodeJob_state (job : StoredJob) :
    decodeJobMember job ("state", value) =
      (decodeText job.state value).map fun text => { job with state := text } := by
  unfold decodeJobMember
  simp [jobNames]

theorem decodeJob_result (job : StoredJob) :
    decodeJobMember job ("result", value) =
      (decodeResult job.result value).map fun result => { job with result := result } := by
  unfold decodeJobMember
  simp [jobNames]

theorem decodeJob_updatedAt (job : StoredJob) :
    decodeJobMember job ("updated_at", value) =
      (decodeInt64 job.updatedAt value).map fun time => { job with updatedAt := time } := by
  unfold decodeJobMember
  simp [jobNames]

end Fields

theorem decodeResult_members (result : StoredResult) :
    decodeResult none (.object result.members) = some (some result) := by
  change (result.members.foldlM decodeResultMember .zero).map some = _
  unfold StoredResult.members
  rw [List.foldlM_cons, decodeResult_status]
  change ((omitNumber _ _ ++ _).foldlM decodeResultMember _).map some = _
  rw [List.foldlM_append,
    foldlM_omitNumber (fun record value => decodeResult_helmRevision value record) _ rfl]
  change ((omitNumber _ _ ++ _).foldlM decodeResultMember _).map some = _
  rw [List.foldlM_append,
    foldlM_omitNumber (fun record value => decodeResult_previousRevision value record) _ rfl]
  change ((omitText _ _ ++ _).foldlM decodeResultMember _).map some = _
  rw [List.foldlM_append,
    foldlM_omitText (fun record value => decodeResult_rollbackStatus value record) _ rfl]
  change ((omitText _ _).foldlM decodeResultMember _).map some = _
  rw [foldlM_omitText (fun record value => decodeResult_errorCode value record) _ rfl]
  rfl

theorem foldlM_omitResult {job : StoredJob} (result : Option StoredResult)
    (cleared : job.result = none) :
    (omitResult result).foldlM decodeJobMember job = some { job with result := result } := by
  cases result with
  | none =>
      cases job
      cases cleared
      rfl
  | some result =>
      unfold omitResult
      rw [List.foldlM_cons, decodeJob_result, cleared, decodeResult_members]
      rfl

theorem decodeJob_members (job : StoredJob) : decodeJob (.object job.members) = some job := by
  change job.members.foldlM decodeJobMember .zero = _
  unfold StoredJob.members
  rw [List.foldlM_cons, decodeJob_fingerprint]
  change (("state", _) :: _).foldlM decodeJobMember _ = _
  rw [List.foldlM_cons, decodeJob_state]
  change (omitResult _ ++ _).foldlM decodeJobMember _ = _
  rw [List.foldlM_append, foldlM_omitResult _ rfl]
  change [_].foldlM decodeJobMember _ = _
  rw [List.foldlM_cons, decodeJob_updatedAt, decodeInt64_integer]
  rfl

/-! ## The ledger is read back -/

/-- `encoding/json` on a whole ledger. -/
def encode (state : StoredState) : String :=
  String.ofList (OrderedJson.write escaping (stateJson state))

/-- `readKubernetesState`, of a file that is there or not. -/
def readKubernetesState : Option String -> Option StoredState
  | none => some ∅
  | some text => (OrderedJson.parse text).bind decodeState

/-- Jobs that are inserted one after another, each under an id of its own. -/
theorem lookup_foldl_insert {jobs : List (String × StoredJob)} (old : StoredState) (jobId : String)
    (distinct : (jobs.map Prod.fst).Nodup) :
    (jobs.foldl (fun state job => state.insert job.1 job.2) old).lookup jobId =
      (Dictionary.get jobId jobs).or (old.lookup jobId) := by
  induction jobs generalizing old with
  | nil => rfl
  | cons job rest inductionHypothesis =>
      rw [List.map_cons, List.nodup_cons] at distinct
      rw [List.foldl_cons, inductionHypothesis _ distinct.2]
      by_cases same : job.1 = jobId
      · cases behind : Dictionary.get jobId rest with
        | none =>
            rw [← same, AList.lookup_insert, Dictionary.get_cons_self]
            rfl
        | some other =>
            apply absurd _ distinct.1
            rw [same]
            exact List.mem_map.mpr ⟨_, Dictionary.mem_of_get behind, rfl⟩
      · rw [AList.lookup_insert_ne (Ne.symm same), Dictionary.get_cons_ne same]

theorem decodeJobs_sorted (jobs : List (String × StoredJob)) (old : StoredState) :
    decodeJobs old (.object (jobs.map fun job => (job.1, .object job.2.members))) =
      some (jobs.foldl (fun state job => state.insert job.1 job.2) old) := by
  change List.foldlM _ old (jobs.map _) = _
  rw [List.foldlM_map]
  induction jobs generalizing old with
  | nil => rfl
  | cons job rest inductionHypothesis =>
      rw [List.foldlM_cons, decodeJob_members]
      exact inductionHypothesis _

theorem nodup_sortedJobs (state : StoredState) : ((sortedJobs state).map Prod.fst).Nodup := by
  have arranged := (List.perm_insertionSort (fun left right : String × StoredJob =>
    left.1 ≤ right.1) (state.entries.map fun entry => (entry.1, entry.2))).map Prod.fst
  apply arranged.nodup_iff.mpr
  rw [List.map_map]
  exact state.nodupKeys

/-- The jobs in order are the jobs. -/
theorem get_sortedJobs (state : StoredState) (jobId : String) :
    Dictionary.get jobId (sortedJobs state) = state.lookup jobId := by
  have listed : forall job, (jobId, job) ∈ sortedJobs state <->
      state.lookup jobId = some job := by
    intro job
    unfold sortedJobs
    rw [List.mem_insertionSort, List.mem_map, ← Option.mem_def, AList.mem_lookup_iff]
    constructor
    · rintro ⟨entry, member, same⟩
      cases same
      exact member
    · intro member
      exact ⟨_, member, rfl⟩
  cases found : state.lookup jobId with
  | some job => exact Dictionary.get_of_mem (nodup_sortedJobs state) ((listed job).mpr found)
  | none =>
      cases other : Dictionary.get jobId (sortedJobs state) with
      | none => rfl
      | some job =>
          rw [(listed job).mp (Dictionary.mem_of_get other)] at found
          cases found

/-- What is written is read back, up to the order of the jobs. -/
theorem readKubernetesState_encode (state : StoredState) : Exists fun read : StoredState =>
    readKubernetesState (some (encode state)) = some read ∧
      forall jobId, read.lookup jobId = state.lookup jobId := by
  refine ⟨(sortedJobs state).foldl (fun state job => state.insert job.1 job.2) ∅, ?_, ?_⟩
  · have named : names "jobs" "jobs" = true := by decide +kernel
    change (OrderedJson.parse (encode state)).bind decodeState = _
    unfold encode
    rw [OrderedJson.parse_write, Option.bind_some]
    unfold stateJson decodeState
    dsimp only
    rw [List.foldlM_cons, if_pos named, decodeJobs_sorted]
    rfl
  · intro jobId
    rw [lookup_foldl_insert ∅ jobId (nodup_sortedJobs state), get_sortedJobs, AList.lookup_empty,
      Option.or_none]

end LedgerFile
end Agent
end DjangoOps
