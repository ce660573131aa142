import DjangoOps.Cli.Target

namespace DjangoOps
namespace Cli

open PosixPath

/-!
# The base directory of a target

The release directories and the pointers of a deployment are concatenated onto
the base as it is written, and some of them are given to `rm` and `mv`.
`_validate_remote_base` looks at the text for some of its tests and at the
parts that `pathlib` has simplified for others.
-/

/-- A moment in UTC. -/
structure Moment where
  year : Nat
  month : Nat
  day : Nat
  hour : Nat
  minute : Nat
  second : Nat

/-- A number with leading zeros. -/
def padded (width number : Nat) : List Char :=
  List.replicate (width - (Nat.toDigits 10 number).length) '0' ++ Nat.toDigits 10 number

/-- `_release_id`.  To how many digits `strftime` pads the year is up to the C
library. -/
def releaseId (yearWidth : Nat) (now : Moment) (pid : Nat) : String :=
  let date := padded yearWidth now.year ++ padded 2 now.month ++ padded 2 now.day
  let time := padded 2 now.hour ++ padded 2 now.minute ++ padded 2 now.second
  String.ofList ('r' :: (date ++ 'T' :: (time ++ 'Z' :: '-' :: Nat.toDigits 10 pid)))

namespace DeploymentPlan

def pendingPath (plan : DeploymentPlan) : String :=
  plan.target.remoteBase ++ "/.current-" ++ plan.releaseId

def restorePath (plan : DeploymentPlan) : String :=
  plan.target.remoteBase ++ "/.restore-" ++ plan.releaseId

/-- What a deployment removes or replaces. -/
def replacedPaths (plan : DeploymentPlan) : List String :=
  [plan.releaseDir, plan.pendingPath, plan.previousPath, plan.restorePath, plan.currentPath]

end DeploymentPlan

/-! ## Release ids -/

theorem slash_not_mem_digits (number : Nat) : '/' ∉ Nat.toDigits 10 number :=
  fun member => absurd (Nat.isDigit_of_mem_toDigits (by decide) (by decide) member) (by decide)

theorem slash_not_mem_padded (width number : Nat) : '/' ∉ padded width number := by
  intro member
  unfold padded at member
  rcases List.mem_append.mp member with zero | digit
  · exact absurd (List.eq_of_mem_replicate zero) (by decide)
  · exact slash_not_mem_digits number digit

theorem slash_not_mem_releaseId (yearWidth : Nat) (now : Moment) (pid : Nat) :
    '/' ∉ (releaseId yearWidth now pid).toList := by
  unfold releaseId
  simp only [String.toList_ofList, List.mem_cons, List.mem_append, not_or]
  have number := slash_not_mem_padded
  exact ⟨by decide, ⟨⟨number _ _, number _ _⟩, number _ _⟩, by decide,
    ⟨⟨number _ _, number _ _⟩, number _ _⟩, by decide, by decide, slash_not_mem_digits pid⟩

/-- A text that is one plain name of a path. -/
structure PlainName (text : List Char) : Prop where
  solid : '/' ∉ text
  written : text ≠ []
  dot : text ≠ ['.']
  up : text ≠ ['.', '.']

theorem PlainName.names {text : List Char} (plain : PlainName text) :
    PosixPath.names text = [text] := by
  unfold PosixPath.names
  rw [segments_of_solid plain.solid]
  exact List.filter_eq_self.mpr fun segment listed =>
    List.mem_singleton.mp listed ▸ isName_iff.mpr ⟨plain.written, plain.dot⟩

theorem plainName_releaseId (yearWidth : Nat) (now : Moment) (pid : Nat) :
    PlainName (releaseId yearWidth now pid).toList := by
  have solid := slash_not_mem_releaseId yearWidth now pid
  unfold releaseId at solid ⊢
  rw [String.toList_ofList] at solid ⊢
  exact ⟨solid, List.cons_ne_nil _ _, fun same => absurd (List.cons.inj same).1 (by decide),
    fun same => absurd (List.cons.inj same).1 (by decide)⟩

/-- A pointer bears the id of its release behind a name of its own. -/
theorem PlainName.of_prefix {word id : List Char} (plain : '/' ∉ word) (long : 2 < word.length)
    (solid : '/' ∉ id) : PlainName (word ++ id) := by
  have length : 2 < (word ++ id).length := by
    rw [List.length_append]
    omega
  refine ⟨?_, ?_, ?_, ?_⟩
  · rw [List.mem_append, not_or]
    exact ⟨plain, solid⟩
  · intro same
    rw [same] at length
    exact absurd length (by decide)
  · intro same
    rw [same] at length
    exact absurd length (by decide)
  · intro same
    rw [same] at length
    exact absurd length (by decide)

/-! ## Paths below the base -/

/-- A normalised path that goes on behind the base. -/
def StrictlyBelow (base path : String) : Prop :=
  Exists fun rest : List (List Char) => rest ≠ [] ∧ normal path.toList = normal base.toList ++ rest

/-- One plain name below a path. -/
theorem normal_child (base : List Char) {name : List Char} (plain : PlainName name) :
    normal (base ++ '/' :: name) = normal base ++ [name] := by
  rw [normal_append base, plain.names]
  intro other listed
  rw [plain.names, List.mem_singleton] at listed
  rw [listed]
  exact plain.up

theorem strictlyBelow_child {base path : String} {name : List Char}
    (written : path.toList = base.toList ++ '/' :: name) (plain : PlainName name) :
    StrictlyBelow base path := by
  refine ⟨[name], List.cons_ne_nil _ _, ?_⟩
  rw [written]
  exact normal_child _ plain

/-- Whatever the base is, a deployment replaces only what is strictly below it. -/
theorem replacedPaths_below (plan : DeploymentPlan) (plain : PlainName plan.releaseId.toList) :
    forall path, path ∈ plan.replacedPaths -> StrictlyBelow plan.target.remoteBase path := by
  have pointer : forall (word : List Char) (path : String), '/' ∉ word -> 2 < word.length ->
      path.toList = plan.target.remoteBase.toList ++ '/' :: (word ++ plan.releaseId.toList) ->
      StrictlyBelow plan.target.remoteBase path :=
    fun word path solid long written =>
      strictlyBelow_child written (PlainName.of_prefix solid long plain.solid)
  intro path listed
  unfold DeploymentPlan.replacedPaths at listed
  simp only [List.mem_cons, List.not_mem_nil, or_false] at listed
  rcases listed with rfl | rfl | rfl | rfl | rfl
  · refine ⟨["releases".toList, plan.releaseId.toList], List.cons_ne_nil _ _, ?_⟩
    have written : plan.releaseDir.toList =
        (plan.target.remoteBase.toList ++ '/' :: "releases".toList) ++
          '/' :: plan.releaseId.toList := by
      unfold DeploymentPlan.releaseDir
      simp only [String.toList_append, List.append_assoc]
      rfl
    rw [written, normal_child _ plain, normal_child _ ⟨by decide, by decide, by decide, by decide⟩,
      List.append_assoc]
    rfl
  · refine pointer ".current-".toList _ (by decide) (by decide) ?_
    unfold DeploymentPlan.pendingPath
    simp only [String.toList_append, List.append_assoc]
    rfl
  · refine pointer ".previous-".toList _ (by decide) (by decide) ?_
    unfold DeploymentPlan.previousPath
    simp only [String.toList_append, List.append_assoc]
    rfl
  · refine pointer ".restore-".toList _ (by decide) (by decide) ?_
    unfold DeploymentPlan.restorePath
    simp only [String.toList_append, List.append_assoc]
    rfl
  · have plain : PlainName "current".toList := ⟨by decide, by decide, by decide, by decide⟩
    refine strictlyBelow_child ?_ plain
    unfold DeploymentPlan.currentPath
    rw [String.toList_append]
    rfl

/-! ## Safe bases -/

/-- An absolute path that is not the root, without dot segments. -/
structure BaseSafe (base : String) : Prop where
  absolute : base.toList.head? = some '/'
  notRoot : normal base.toList ≠ []
  plain : forall segment, segment ∈ segments base.toList -> isDotPart segment = false

/-- The bases that the validation accepts and should not: absolute ones with a single
dot as a segment, which `PurePosixPath` leaves out of its parts, and the root when
it is written with more than one slash. -/
structure MissedSpelling (base : String) : Prop where
  printable : base.toList.any isControl = false
  absolute : base.toList.head? = some '/'
  down : forall segment, segment ∈ segments base.toList -> segment ≠ ['.', '.']
  missed : (Exists fun segment : List Char => segment ∈ segments base.toList ∧ segment = ['.']) ∨
    ((forall letter, letter ∈ base.toList -> letter = '/') ∧ base ≠ "/")

theorem isDotPart_root (text : List Char) : isDotPart (root text) = false := by
  unfold root
  split <;> rfl

/-- The parts of a path are its root and its names. -/
theorem mem_parts {text part : List Char} (listed : part ∈ (PurePosixPath.parse text).parts) :
    part = root text ∨ part ∈ names text := by
  have tail : (PurePosixPath.parse text).tail = names text := names_drop_root text
  unfold PurePosixPath.parts at listed
  rw [tail] at listed
  split at listed
  · exact Or.inr listed
  · exact List.mem_cons.mp listed

/-- The tests of the validation, said of the text as it is written. -/
theorem validateRemoteBase_iff {value : String} :
    validateRemoteBase value = .ok () <->
      value.toList.any isControl = false ∧ value.toList.head? = some '/' ∧
        (forall segment, segment ∈ segments value.toList -> segment ≠ ['.', '.']) ∧
        value ≠ "/" := by
  constructor
  · intro accepted
    rcases validateRemoteBase_ok accepted with ⟨printable, absolute, down, other⟩
    refine ⟨printable, absolute, ?_, other⟩
    rintro segment listed rfl
    exact down _ (mem_names.mpr ⟨listed, by decide, by decide⟩) rfl
  · rintro ⟨printable, absolute, down, other⟩
    have written : value ≠ "" := by
      rintro rfl
      cases absolute
    have parts : (PurePosixPath.parse value.toList).parts.any isDotPart = false := by
      apply Bool.eq_false_iff.mpr
      intro dotted
      rcases List.any_eq_true.mp dotted with ⟨part, listed, dot⟩
      rcases mem_parts listed with root | named
      · rw [root, isDotPart_root] at dot
        cases dot
      · have visible := mem_names.mp named
        unfold isDotPart at dot
        rw [Bool.or_eq_true, beq_iff_eq, beq_iff_eq] at dot
        rcases dot with single | double
        · exact visible.2.2 single
        · exact down part visible.1 double
    unfold validateRemoteBase
    dsimp only
    rw [if_neg (by rw [not_or, Bool.not_eq_true]; exact ⟨written, printable⟩), if_neg
      (by rw [(PurePosixPath.isAbsolute_parse _).mpr absolute]; exact Bool.true_eq_false.mp), if_neg
      (by rw [parts]; exact Bool.false_ne_true), if_neg other]

/-- An accepted base is safe unless its spelling is missed. -/
theorem baseSafe_iff {base : String} (accepted : validateRemoteBase base = .ok ()) :
    BaseSafe base <-> ¬ MissedSpelling base := by
  rcases validateRemoteBase_iff.mp accepted with ⟨printable, absolute, down, other⟩
  have names (plain : forall segment, segment ∈ segments base.toList -> segment ≠ ['.']) :
      normal base.toList = [] <-> forall letter, letter ∈ base.toList -> letter = '/' := by
    rw [normal_of_down fun name listed => down name (mem_names.mp listed).1]
    exact names_eq_nil_iff plain
  constructor
  · rintro safe ⟨-, -, -, missed⟩
    have plain : forall segment, segment ∈ segments base.toList -> segment ≠ ['.'] := by
      rintro segment listed rfl
      exact absurd (safe.plain _ listed) (by decide)
    rcases missed with ⟨segment, listed, dot⟩ | ⟨slashes, -⟩
    · exact plain segment listed dot
    · exact safe.notRoot ((names plain).mpr slashes)
  · intro found
    have plain : forall segment, segment ∈ segments base.toList -> segment ≠ ['.'] :=
      fun segment listed dot =>
        found ⟨printable, absolute, down, Or.inl ⟨segment, listed, dot⟩⟩
    refine ⟨absolute, ?_, ?_⟩
    · intro root
      exact found ⟨printable, absolute, down, Or.inr ⟨(names plain).mp root, other⟩⟩
    · intro segment listed
      unfold isDotPart
      rw [Bool.or_eq_false_iff, beq_eq_false_iff_ne, beq_eq_false_iff_ne]
      exact ⟨plain segment listed, down segment listed⟩

/-- A missed spelling is accepted. -/
theorem MissedSpelling.accepted {base : String} (spelling : MissedSpelling base) :
    validateRemoteBase base = .ok () := by
  refine validateRemoteBase_iff.mpr ⟨spelling.printable, spelling.absolute, spelling.down, ?_⟩
  rintro rfl
  rcases spelling.missed with ⟨segment, listed, rfl⟩ | ⟨-, other⟩
  · exact absurd listed (by decide)
  · exact other rfl

/-- Every release id, every process id and every base that is accepted: what the
deployment replaces or removes lies strictly below a base that is safe, exactly
when the base is none of the spellings that the validation misses, as it looks
only at the parts of the path that `PurePosixPath` has kept. -/
theorem remote_base_safe (base : String) :
    (validateRemoteBase base = .ok () -> BaseSafe base ∧
      forall (plan : DeploymentPlan) (yearWidth : Nat) (now : Moment) (pid : Nat),
        plan.target.remoteBase = base -> plan.releaseId = releaseId yearWidth now pid ->
        forall path, path ∈ plan.replacedPaths -> StrictlyBelow base path) <->
      ¬ MissedSpelling base := by
  constructor
  · intro safe missed
    exact (baseSafe_iff missed.accepted).mp (safe missed.accepted).1 missed
  · intro found accepted
    refine ⟨(baseSafe_iff accepted).mpr found, ?_⟩
    intro plan yearWidth now pid target id
    have plain : PlainName plan.releaseId.toList := id ▸ plainName_releaseId yearWidth now pid
    exact target ▸ replacedPaths_below plan plain

/-- Two slashes are the root, and they are accepted. -/
theorem double_slash_accepted :
    validateRemoteBase "//" = .ok () ∧ ¬ BaseSafe "//" := by
  refine ⟨by decide, ?_⟩
  intro safe
  exact safe.notRoot (by decide)

end Cli
end DjangoOps
