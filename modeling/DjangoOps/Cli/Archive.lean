import Mathlib.Data.List.DropRight
import Mathlib.Data.List.Nodup
import Mathlib.Data.List.Sort
import Mathlib.Data.String.Basic

namespace DjangoOps
namespace Cli

/-!
# The files of a deployment

`_iter_deploy_files` walks over a project and leaves out directories by their
name, symbolic links, and files whose name speaks of secrets.
-/

/-- What `os.walk` meets under a name.  Of a symbolic link it is known whether
it leads to a directory. -/
inductive Entry
  | file
  | other
  | link (toDirectory : Bool)
  | directory (entries : List (String × Entry))

namespace Entry

/-- Induction over the entries of directories. -/
theorem induct {property : Entry -> Prop} (file : property .file) (other : property .other)
    (link : forall toDirectory, property (.link toDirectory))
    (directory : forall entries, (forall entry, entry ∈ entries -> property entry.2) ->
      property (.directory entries)) (entry : Entry) : property entry :=
  Entry.rec file other link directory (fun _ impossible => absurd impossible List.not_mem_nil)
    (fun _ _ head tail _ member => by
      rcases List.mem_cons.mp member with same | later
      · rw [same]
        exact head
      · exact tail _ later)
    (fun _ _ inner => inner) entry

/-- No directory has a name twice. -/
inductive WellFormed : Entry -> Prop
  | file : WellFormed .file
  | other : WellFormed .other
  | link (toDirectory : Bool) : WellFormed (.link toDirectory)
  | directory (entries : List (String × Entry)) (names : (entries.map Prod.fst).Nodup)
      (inner : forall entry, entry ∈ entries -> WellFormed entry.2) :
      WellFormed (.directory entries)

def isDirectory : Entry -> Bool
  | .directory _ => true
  | _ => false

def isFile : Entry -> Bool
  | .file => true
  | _ => false

end Entry

/-- The project directory. -/
structure ProjectTree where
  entries : List (String × Entry)
  wellFormed : (Entry.directory entries).WellFormed

/-! ## Names -/

/-- `str.lower`, of which the tables of Unicode are a parameter.  Only the case
of a sigma depends on the text around it. -/
structure LowerCase where
  lower : Char -> List Char
  isFinal : List Char -> List Char -> Bool
  ascii : forall char, char.toNat ≤ 127 -> lower char = [char.toLower]
  stop : forall char, '.' ∈ lower char -> char = '.'

namespace LowerCase

variable (casing : LowerCase)

def lowerAt (front : List Char) (char : Char) (back : List Char) : List Char :=
  if char = 'Σ' then [if casing.isFinal front back then 'ς' else 'σ'] else casing.lower char

/-- The text behind `front`, whose characters are in reverse order. -/
def lowerFrom (front : List Char) : List Char -> List Char
  | [] => []
  | char :: rest => casing.lowerAt front char rest ++ lowerFrom (char :: front) rest

def lowerText (text : List Char) : List Char := casing.lowerFrom [] text

end LowerCase

def excludedDirs : List String :=
  [".git", ".hg", ".svn", ".mypy_cache", ".pytest_cache", ".ruff_cache", ".tox", ".venv",
    "__pycache__", "node_modules", "venv"]

def excludedNames : List String := [".env", ".secrets", "id_ed25519", "id_rsa"]

def excludedSuffixes : List String := [".key", ".pem", ".p12", ".pfx"]

/-- `Path(name).suffix`: from the last dot on, unless it is the first or the
last character. -/
def suffix (name : List Char) : List Char :=
  let ending := name.rtakeWhile fun char => char != '.'
  if '.' ∈ name ∧ ending.length + 1 < name.length ∧ ending ≠ [] then '.' :: ending else []

/-- `_is_secret_or_local_only` -/
def isSecretOrLocalOnly (casing : LowerCase) (name : String) : Bool :=
  if name ∈ excludedNames then true
  else if ".env.".toList <+: name.toList ∧ name ≠ ".env.example" then true
  else decide (String.ofList (casing.lowerText (suffix name.toList)) ∈ excludedSuffixes)

/-! ## The walk -/

section Walk

variable (casing : LowerCase)

/-- What is left of the directories of `os.walk`; a link to a directory is one
of them. -/
def enters (entry : String × Entry) : Bool :=
  decide (entry.1 ∉ excludedDirs) && entry.2.isDirectory

/-- The files that are selected in one directory, in order of their names. -/
def ownFiles (entries : List (String × Entry)) : List (List String) :=
  let names := (entries.filter fun entry =>
    entry.2.isFile && !isSecretOrLocalOnly casing entry.1).map Prod.fst
  (names.insertionSort fun left right => left ≤ right).map fun name => [name]

mutual

/-- The files below an entry, those of the directory itself first. -/
def walk : Entry -> List (List String)
  | .directory entries =>
      ownFiles casing entries ++
        ((walkEntries entries).insertionSort fun left right => left.1 ≤ right.1).flatMap
          fun below => below.2.map (below.1 :: ·)
  | _ => []

/-- What is found in each directory that is entered. -/
def walkEntries : List (String × Entry) -> List (String × List (List String))
  | [] => []
  | entry :: rest =>
      if enters entry then (entry.1, walk entry.2) :: walkEntries rest else walkEntries rest

end

/-- `_iter_deploy_files`, with the paths relative to the project directory. -/
def iterDeployFiles (tree : ProjectTree) : List (List String) :=
  walk casing (.directory tree.entries)

end Walk

/-! ## What is selected -/

/-- A regular file that is reached through directories that are not excluded. -/
inductive Reachable : List (String × Entry) -> List String -> Prop
  | here {entries : List (String × Entry)} {name : String} (listed : (name, Entry.file) ∈ entries) :
      Reachable entries [name]
  | deeper {entries inner : List (String × Entry)} {name : String} {path : List String}
      (listed : (name, Entry.directory inner) ∈ entries) (entered : name ∉ excludedDirs)
      (inside : Reachable inner path) : Reachable entries (name :: path)

/-- The file name of a path. -/
def fileName (path : List String) : String := path.getLast?.getD ""

theorem walkEntries_eq (casing : LowerCase) (entries : List (String × Entry)) :
    walkEntries casing entries =
      (entries.filter enters).map fun entry => (entry.1, walk casing entry.2) := by
  induction entries with
  | nil => rfl
  | cons entry rest inductionHypothesis =>
      unfold walkEntries
      rw [inductionHypothesis]
      cases entered : enters entry with
      | true => rw [if_pos rfl, List.filter_cons_of_pos entered, List.map_cons]
      | false =>
          rw [if_neg Bool.false_ne_true,
            List.filter_cons_of_neg (Bool.eq_false_iff.mp entered)]

theorem mem_ownFiles {casing : LowerCase} {entries : List (String × Entry)} {path : List String} :
    path ∈ ownFiles casing entries <-> Exists fun name : String =>
      (name, Entry.file) ∈ entries ∧ isSecretOrLocalOnly casing name = false ∧ path = [name] := by
  unfold ownFiles
  simp only [List.mem_map, List.mem_insertionSort, List.mem_filter, Bool.and_eq_true,
    Bool.not_eq_true']
  constructor
  · rintro ⟨name, ⟨⟨key, entry⟩, ⟨listed, regular, plain⟩, rfl⟩, rfl⟩
    cases entry with
    | file => exact ⟨key, listed, plain, rfl⟩
    | other => cases regular
    | link toDirectory => cases regular
    | directory entries => cases regular
  · rintro ⟨name, listed, plain, rfl⟩
    exact ⟨name, ⟨(name, Entry.file), ⟨listed, rfl, plain⟩, rfl⟩, rfl⟩

theorem walk_directory (casing : LowerCase) (entries : List (String × Entry)) :
    walk casing (.directory entries) =
      ownFiles casing entries ++
        (((entries.filter enters).map fun entry => (entry.1, walk casing entry.2)).insertionSort
          fun left right => left.1 ≤ right.1).flatMap fun below => below.2.map (below.1 :: ·) := by
  rw [← walkEntries_eq]
  rfl

theorem mem_walk_directory {casing : LowerCase} {entries : List (String × Entry)}
    {path : List String} :
    path ∈ walk casing (.directory entries) <->
      path ∈ ownFiles casing entries ∨ Exists fun entry : String × Entry =>
        entry ∈ entries ∧ enters entry = true ∧ Exists fun rest : List String =>
          rest ∈ walk casing entry.2 ∧ path = entry.1 :: rest := by
  rw [walk_directory, List.mem_append, List.mem_flatMap]
  simp only [List.mem_insertionSort, List.mem_map, List.mem_filter]
  constructor
  · rintro (own | ⟨below, ⟨entry, ⟨listed, entered⟩, rfl⟩, rest, inside, rfl⟩)
    · exact Or.inl own
    · exact Or.inr ⟨entry, listed, entered, rest, inside, rfl⟩
  · rintro (own | ⟨entry, listed, entered, rest, inside, rfl⟩)
    · exact Or.inl own
    · exact Or.inr ⟨_, ⟨entry, ⟨listed, entered⟩, rfl⟩, rest, inside, rfl⟩

/-- The walk finds the reachable files whose names are not classified. -/
theorem mem_walk {casing : LowerCase} {entries : List (String × Entry)} {path : List String} :
    path ∈ walk casing (.directory entries) <->
      Reachable entries path ∧ isSecretOrLocalOnly casing (fileName path) = false := by
  constructor
  · have found : forall (entry : Entry) (path : List String), path ∈ walk casing entry ->
        Exists fun entries : List (String × Entry) => entry = .directory entries ∧
          path ≠ [] ∧ Reachable entries path ∧
            isSecretOrLocalOnly casing (fileName path) = false := by
      intro entry
      induction entry using Entry.induct with
      | file => exact fun _ impossible => absurd impossible List.not_mem_nil
      | other => exact fun _ impossible => absurd impossible List.not_mem_nil
      | link toDirectory => exact fun _ impossible => absurd impossible List.not_mem_nil
      | directory entries inductionHypothesis =>
          intro path listed
          refine ⟨entries, rfl, ?_⟩
          rcases mem_walk_directory.mp listed with own | ⟨entry, member, entered, rest, inside, rfl⟩
          · rcases mem_ownFiles.mp own with ⟨name, file, plain, rfl⟩
            exact ⟨List.cons_ne_nil _ _, .here file, plain⟩
          · rcases inductionHypothesis entry member rest inside with
              ⟨inner, directory, written, reached, plain⟩
            rcases entry with ⟨name, entry⟩
            cases directory
            unfold enters at entered
            rw [Bool.and_eq_true, decide_eq_true_eq] at entered
            refine ⟨List.cons_ne_nil _ _, .deeper member entered.1 reached, ?_⟩
            unfold fileName at plain ⊢
            rw [List.getLast?_cons_of_ne_nil written]
            exact plain
    intro listed
    rcases found _ path listed with ⟨inner, same, -, reached⟩
    cases same
    exact reached
  · rintro ⟨reached, plain⟩
    induction reached with
    | here file => exact mem_walk_directory.mpr (Or.inl (mem_ownFiles.mpr ⟨_, file, plain, rfl⟩))
    | @deeper entries inner name path listed entered inside inductionHypothesis =>
        have written : path ≠ [] := by
          cases inside with
          | here _ => exact List.cons_ne_nil _ _
          | deeper _ _ _ => exact List.cons_ne_nil _ _
        have tail : isSecretOrLocalOnly casing (fileName path) = false := by
          unfold fileName at plain ⊢
          rw [List.getLast?_cons_of_ne_nil written] at plain
          exact plain
        refine mem_walk_directory.mpr (Or.inr ⟨_, listed, ?_, path, inductionHypothesis tail, rfl⟩)
        unfold enters
        rw [Bool.and_eq_true, decide_eq_true_eq]
        exact ⟨entered, rfl⟩

theorem nil_not_mem_walk {casing : LowerCase} {entry : Entry} : [] ∉ walk casing entry := by
  cases entry with
  | file => exact List.not_mem_nil
  | other => exact List.not_mem_nil
  | link toDirectory => exact List.not_mem_nil
  | directory entries =>
      intro listed
      have reached := (mem_walk.mp listed).1
      cases reached

theorem nodup_ownFiles {casing : LowerCase} {entries : List (String × Entry)}
    (names : (entries.map Prod.fst).Nodup) : (ownFiles casing entries).Nodup := by
  unfold ownFiles
  refine List.Nodup.map (fun _ _ same => (List.cons.inj same).1) ?_
  refine (List.perm_insertionSort _ _).nodup_iff.mpr ?_
  exact names.sublist (List.filter_sublist.map Prod.fst)

/-- No file is found twice. -/
theorem nodup_walk {casing : LowerCase} {entry : Entry} (wellFormed : entry.WellFormed) :
    (walk casing entry).Nodup := by
  induction wellFormed with
  | file => exact List.nodup_nil
  | other => exact List.nodup_nil
  | link toDirectory => exact List.nodup_nil
  | directory entries names inner inductionHypothesis =>
      rw [walk_directory, List.nodup_append']
      have keys : ((((entries.filter enters).map fun entry =>
          (entry.1, walk casing entry.2)).insertionSort
            fun left right => left.1 ≤ right.1).map Prod.fst).Nodup := by
        refine ((List.perm_insertionSort _ _).map Prod.fst).nodup_iff.mpr ?_
        rw [List.map_map]
        exact names.sublist (List.filter_sublist.map Prod.fst)
      refine ⟨nodup_ownFiles names, List.nodup_flatMap.mpr ⟨?_, ?_⟩, ?_⟩
      · intro below listed
        rw [List.mem_insertionSort] at listed
        rcases List.mem_map.mp listed with ⟨entry, member, rfl⟩
        exact List.Nodup.map (fun _ _ same => (List.cons.inj same).2)
          (inductionHypothesis entry (List.mem_filter.mp member).1)
      · refine (List.pairwise_map.mp keys).imp ?_
        intro left right different path first second
        rcases List.mem_map.mp first with ⟨rest, -, rfl⟩
        rcases List.mem_map.mp second with ⟨other, -, same⟩
        exact different (List.cons.inj same).1.symm
      · intro path own later
        rcases mem_ownFiles.mp own with ⟨name, -, -, rfl⟩
        rcases List.mem_flatMap.mp later with ⟨below, listed, inside⟩
        rw [List.mem_insertionSort] at listed
        rcases List.mem_map.mp listed with ⟨entry, -, rfl⟩
        rcases List.mem_map.mp inside with ⟨rest, deep, same⟩
        rw [(List.cons.inj same).2] at deep
        exact nil_not_mem_walk deep

/-! ## Names that speak of secrets -/

namespace LowerCase

variable {casing : LowerCase}

theorem stop_of_lowerAt {front back : List Char} {char : Char}
    (listed : '.' ∈ casing.lowerAt front char back) : char = '.' := by
  unfold lowerAt at listed
  split at listed
  · split at listed
    · exact absurd (List.mem_singleton.mp listed) (by decide)
    · exact absurd (List.mem_singleton.mp listed) (by decide)
  · exact casing.stop char listed

theorem lowerAt_stop (front back : List Char) : casing.lowerAt front '.' back = ['.'] := by
  unfold lowerAt
  rw [if_neg (by decide), casing.ascii '.' (by decide)]
  rfl

/-- A dot of the lowered text is a dot of the text. -/
theorem split_at_stop {text front before after : List Char}
    (lowered : casing.lowerFrom front text = before ++ '.' :: after) :
    Exists fun stem : List Char => Exists fun ending : List Char =>
      Exists fun ahead : List Char =>
        text = stem ++ '.' :: ending ∧ casing.lowerFrom ahead ending = after := by
  induction text generalizing front before with
  | nil =>
      unfold lowerFrom at lowered
      exact absurd lowered.symm (List.append_ne_nil_of_right_ne_nil _ (List.cons_ne_nil _ _))
  | cons char rest inductionHypothesis =>
      unfold lowerFrom at lowered
      have later : forall {middle : List Char},
          casing.lowerFrom (char :: front) rest = middle ++ '.' :: after ->
          Exists fun stem : List Char => Exists fun ending : List Char =>
            Exists fun ahead : List Char =>
              char :: rest = stem ++ '.' :: ending ∧ casing.lowerFrom ahead ending = after := by
        intro middle same
        rcases inductionHypothesis same with ⟨stem, ending, ahead, text, behind⟩
        exact ⟨char :: stem, ending, ahead, congrArg (char :: ·) text, behind⟩
      rcases List.append_eq_append_iff.mp lowered with ⟨middle, -, same⟩ | ⟨middle, own, same⟩
      · exact later same
      · cases middle with
        | nil => exact @later [] same.symm
        | cons first more =>
            have first_eq := (List.cons.inj same).1
            have stop : char = '.' := by
              apply stop_of_lowerAt
              rw [own, ← first_eq]
              exact List.mem_append_right _ List.mem_cons_self
            rw [stop, lowerAt_stop] at own
            have none : before = [] ∧ more = [] := by
              have length := congrArg List.length own
              simp only [List.length_append, List.length_cons, List.length_nil] at length
              exact ⟨List.eq_nil_of_length_eq_zero (by omega),
                List.eq_nil_of_length_eq_zero (by omega)⟩
            rw [none.2] at same
            exact ⟨[], rest, char :: front, stop ▸ rfl, ((List.cons.inj same).2).symm⟩

/-- Without a sigma the text around does not matter. -/
theorem lowerFrom_congr {text front : List Char} (other : List Char)
    (plain : 'σ' ∉ casing.lowerFrom front text ∧ 'ς' ∉ casing.lowerFrom front text) :
    casing.lowerFrom other text = casing.lowerFrom front text := by
  induction text generalizing front other with
  | nil => rfl
  | cons char rest inductionHypothesis =>
      unfold lowerFrom at plain ⊢
      rw [List.mem_append, not_or, List.mem_append, not_or] at plain
      rw [inductionHypothesis (char :: other) ⟨plain.1.2, plain.2.2⟩]
      have small : char ≠ 'Σ' := by
        rintro rfl
        unfold lowerAt at plain
        rw [if_pos rfl] at plain
        split at plain
        · exact plain.2.1 List.mem_cons_self
        · exact plain.1.1 List.mem_cons_self
      unfold lowerAt
      rw [if_neg small, if_neg small]

theorem mem_lowerFrom_stop {text : List Char} (front : List Char) (listed : '.' ∈ text) :
    '.' ∈ casing.lowerFrom front text := by
  induction text generalizing front with
  | nil => cases listed
  | cons char rest inductionHypothesis =>
      unfold lowerFrom
      rcases List.mem_cons.mp listed with own | later
      · rw [← own, lowerAt_stop]
        exact List.mem_append_left _ List.mem_cons_self
      · exact List.mem_append_right _ (inductionHypothesis _ later)

theorem lowerFrom_ascii {text : List Char} (front : List Char)
    (ascii : forall char, char ∈ text -> char.toNat ≤ 127) :
    casing.lowerFrom front text = text.map Char.toLower := by
  induction text generalizing front with
  | nil => rfl
  | cons char rest inductionHypothesis =>
      have own := ascii char List.mem_cons_self
      have small : char ≠ 'Σ' := by
        rintro rfl
        exact absurd own (by decide)
      unfold lowerFrom lowerAt
      rw [if_neg small, casing.ascii char own,
        inductionHypothesis _ fun other member => ascii other (List.mem_cons_of_mem _ member)]
      rfl

theorem lowerText_stop (text : List Char) :
    casing.lowerText ('.' :: text) = '.' :: casing.lowerFrom ['.'] text := by
  unfold lowerText
  rw [lowerFrom, lowerAt_stop]
  rfl

end LowerCase

/-- From its last dot on a name has its suffix, unless the dot is at the front. -/
theorem suffix_eq {stem ending : List Char} (solid : '.' ∉ ending) (written : ending ≠ []) :
    suffix (stem ++ '.' :: ending) = if stem = [] then [] else '.' :: ending := by
  have last : (stem ++ '.' :: ending).rtakeWhile (fun char => char != '.') = ending := by
    unfold List.rtakeWhile
    rw [List.reverse_append, List.reverse_cons, List.append_assoc, List.takeWhile_append_of_pos]
    · rw [List.singleton_append, List.takeWhile_cons_of_neg (by decide), List.append_nil,
        List.reverse_reverse]
    · intro char listed
      rw [bne_iff_ne]
      rintro rfl
      exact solid (List.mem_reverse.mp listed)
  unfold suffix
  dsimp only
  rw [last, List.length_append, List.length_cons]
  by_cases first : stem = []
  · rw [if_pos first, if_neg]
    rintro ⟨-, short, -⟩
    rw [first, List.length_nil] at short
    omega
  · rw [if_neg first, if_pos]
    have length := List.length_pos_of_ne_nil first
    exact ⟨List.mem_append_right _ List.mem_cons_self, by omega, written⟩

/-- The words of the secret suffixes. -/
def suffixWords : List (List Char) :=
  [['k', 'e', 'y'], ['p', 'e', 'm'], ['p', '1', '2'], ['p', 'f', 'x']]

theorem mem_excludedSuffixes {text : List Char} :
    String.ofList text ∈ excludedSuffixes <->
      Exists fun word : List Char => word ∈ suffixWords ∧ text = '.' :: word := by
  have listed : excludedSuffixes = suffixWords.map fun word => String.ofList ('.' :: word) := by
    decide
  rw [listed, List.mem_map]
  constructor
  · rintro ⟨word, member, same⟩
    exact ⟨word, member, (String.ofList_inj.mp same).symm⟩
  · rintro ⟨word, member, same⟩
    exact ⟨word, member, congrArg String.ofList same.symm⟩

theorem suffixWord_plain : forall word, word ∈ suffixWords ->
    word ≠ [] ∧ '.' ∉ word ∧ 'σ' ∉ word ∧ 'ς' ∉ word := by
  decide

/-- The name ends, once lowered, with a secret suffix. -/
def EndsSecret (casing : LowerCase) (name : String) : Prop :=
  Exists fun ending : String =>
    ending ∈ excludedSuffixes ∧ ending.toList <:+ casing.lowerText name.toList

/-- The name is a secret suffix and nothing else. -/
def OnlySuffix (casing : LowerCase) (name : String) : Prop :=
  name.toList.head? = some '.' ∧ String.ofList (casing.lowerText name.toList) ∈ excludedSuffixes

variable {casing : LowerCase} {name : String}

/-- What the classification says of a name that it lets through. -/
theorem isSecretOrLocalOnly_eq_false : isSecretOrLocalOnly casing name = false <->
    name ∉ excludedNames ∧ ¬ (".env.".toList <+: name.toList ∧ name ≠ ".env.example") ∧
      String.ofList (casing.lowerText (suffix name.toList)) ∉ excludedSuffixes := by
  unfold isSecretOrLocalOnly
  by_cases listed : name ∈ excludedNames
  · rw [if_pos listed]
    exact iff_of_false Bool.true_eq_false.mp fun plain => plain.1 listed
  · rw [if_neg listed]
    by_cases localOnly : ".env.".toList <+: name.toList ∧ name ≠ ".env.example"
    · rw [if_pos localOnly]
      exact iff_of_false Bool.true_eq_false.mp fun plain => plain.2.1 localOnly
    · rw [if_neg localOnly, decide_eq_false_iff_not]
      exact ⟨fun plain => ⟨listed, localOnly, plain⟩, fun plain => plain.2.2⟩

/-- The classification misses no other secret ending than a whole name. -/
theorem onlySuffix_of_endsSecret (plain : isSecretOrLocalOnly casing name = false)
    (ends : EndsSecret casing name) : OnlySuffix casing name := by
  rcases ends with ⟨secret, excluded, before, lowered⟩
  rw [← @String.ofList_toList secret] at excluded
  rcases mem_excludedSuffixes.mp excluded with ⟨word, member, secretWord⟩
  rw [secretWord] at lowered
  rcases suffixWord_plain word member with ⟨written, solid, sigma⟩
  rcases LowerCase.split_at_stop lowered.symm with ⟨stem, ending, front, text, behind⟩
  have alone : casing.lowerFrom ['.'] ending = word := by
    rw [LowerCase.lowerFrom_congr ['.'] (behind ▸ sigma), behind]
  have tail : casing.lowerText ('.' :: ending) = '.' :: word := by
    rw [LowerCase.lowerText_stop, alone]
  have solidEnding : '.' ∉ ending := fun listed =>
    solid (behind ▸ LowerCase.mem_lowerFrom_stop front listed)
  have writtenEnding : ending ≠ [] := by
    rintro rfl
    exact written alone.symm
  have kept := (isSecretOrLocalOnly_eq_false.mp plain).2.2
  rw [text, suffix_eq solidEnding writtenEnding] at kept
  by_cases first : stem = []
  · unfold OnlySuffix
    rw [text, first, List.nil_append, tail]
    exact ⟨rfl, mem_excludedSuffixes.mpr ⟨word, member, rfl⟩⟩
  · rw [if_neg first, tail] at kept
    exact absurd (mem_excludedSuffixes.mpr ⟨word, member, rfl⟩) kept

theorem excludedNames_ascii {name : String} (listed : name ∈ excludedNames) :
    (forall char, char ∈ name.toList -> char.toNat ≤ 127) ∧
      String.ofList (name.toList.map Char.toLower) ∉ excludedSuffixes := by
  have all : (excludedNames.all fun name =>
      name.toList.all (fun char => decide (char.toNat ≤ 127)) &&
        decide (String.ofList (name.toList.map Char.toLower) ∉ excludedSuffixes)) = true := by
    decide
  have own := List.all_eq_true.mp all name listed
  rw [Bool.and_eq_true, decide_eq_true_eq] at own
  exact ⟨fun char inner => of_decide_eq_true (List.all_eq_true.mp own.1 char inner), own.2⟩

/-- A name that is only a suffix ends with it and is let through. -/
theorem OnlySuffix.missed (only : OnlySuffix casing name) :
    isSecretOrLocalOnly casing name = false ∧ EndsSecret casing name := by
  rcases only with ⟨first, suffixed⟩
  rcases mem_excludedSuffixes.mp suffixed with ⟨word, member, lowered⟩
  rcases suffixWord_plain word member with ⟨written, solid, -⟩
  rcases List.head?_eq_some_iff.mp first with ⟨ending, text⟩
  have behind : casing.lowerFrom ['.'] ending = word := by
    rw [text, LowerCase.lowerText_stop] at lowered
    exact (List.cons.inj lowered).2
  have solidEnding : '.' ∉ ending := fun listed =>
    solid (behind ▸ LowerCase.mem_lowerFrom_stop ['.'] listed)
  have writtenEnding : ending ≠ [] := by
    rintro rfl
    exact written behind.symm
  constructor
  · refine isSecretOrLocalOnly_eq_false.mpr ⟨?_, ?_, ?_⟩
    · intro listed
      have known := excludedNames_ascii listed
      unfold LowerCase.lowerText at suffixed
      rw [LowerCase.lowerFrom_ascii [] known.1] at suffixed
      exact known.2 suffixed
    · rintro ⟨⟨rest, whole⟩, -⟩
      apply solidEnding
      rw [text] at whole
      rw [← (List.cons.inj whole).2]
      exact List.mem_append_left _ (by decide)
    · have alone := @suffix_eq [] ending solidEnding writtenEnding
      rw [List.nil_append, if_pos rfl, ← text] at alone
      rw [alone]
      change String.ofList [] ∉ excludedSuffixes
      decide
  · refine ⟨String.ofList ('.' :: word), mem_excludedSuffixes.mpr ⟨word, member, rfl⟩, ?_⟩
    have same : (String.ofList ('.' :: word)).toList = casing.lowerText name.toList :=
      String.toList_ofList.trans lowered.symm
    exact same ▸ List.suffix_rfl

/-! ## Archives -/

/-- The name of a file that belongs to no release.  The tests of the whole name
read it in one of two ways: as it is written, or lowered. -/
def SpeaksOfSecrets (casing : LowerCase) (read : String -> String) (name : String) : Prop :=
  EndsSecret casing name ∨ read name ∈ excludedNames ∨
    (".env.".toList <+: (read name).toList ∧ read name ≠ ".env.example")

def LowerCase.lowered (casing : LowerCase) (name : String) : String :=
  String.ofList (casing.lowerText name.toList)

/-- A name that only the case of its letters hides from the tests of the whole
name, and that no test of the code excludes. -/
def HiddenByCase (casing : LowerCase) (name : String) : Prop :=
  isSecretOrLocalOnly casing name = false ∧
    (casing.lowered name ∈ excludedNames ∨
      (".env.".toList <+: (casing.lowered name).toList ∧ casing.lowered name ≠ ".env.example"))

theorem speaksOfSecrets_written (plain : isSecretOrLocalOnly casing name = false) :
    SpeaksOfSecrets casing id name <-> OnlySuffix casing name := by
  have kept := isSecretOrLocalOnly_eq_false.mp plain
  constructor
  · rintro (ends | listed | localOnly)
    · exact onlySuffix_of_endsSecret plain ends
    · exact absurd listed kept.1
    · exact absurd localOnly kept.2.1
  · intro only
    exact Or.inl only.missed.2

theorem speaksOfSecrets_lowered (plain : isSecretOrLocalOnly casing name = false) :
    SpeaksOfSecrets casing casing.lowered name <->
      OnlySuffix casing name ∨ HiddenByCase casing name := by
  constructor
  · rintro (ends | whole)
    · exact Or.inl (onlySuffix_of_endsSecret plain ends)
    · exact Or.inr ⟨plain, whole⟩
  · rintro (only | hidden)
    · exact Or.inl only.missed.2
    · exact Or.inr hidden.2

/-- The archive holds every file of the project that can be reached and is not
classified, each of them once.  So no name that speaks of secrets is selected
exactly when no file has a name that is nothing but a suffix of a key: `pathlib`
sees no suffix in it.  Where the names are compared in lower case throughout, the
spellings that escape the other two tests are to be left out as well. -/
theorem archive_selection (casing : LowerCase) (tree : ProjectTree) :
    (forall path, path ∈ iterDeployFiles casing tree <->
      Reachable tree.entries path ∧ isSecretOrLocalOnly casing (fileName path) = false) ∧
    (iterDeployFiles casing tree).Nodup ∧
    ((forall path, path ∈ iterDeployFiles casing tree ->
        ¬ SpeaksOfSecrets casing id (fileName path)) <->
      forall path, Reachable tree.entries path -> ¬ OnlySuffix casing (fileName path)) ∧
    ((forall path, path ∈ iterDeployFiles casing tree ->
        ¬ SpeaksOfSecrets casing casing.lowered (fileName path)) <->
      forall path, Reachable tree.entries path ->
        ¬ (OnlySuffix casing (fileName path) ∨ HiddenByCase casing (fileName path))) := by
  refine ⟨fun path => mem_walk, nodup_walk tree.wellFormed, ?_, ?_⟩
  · constructor
    · intro clean path reached only
      exact clean path (mem_walk.mpr ⟨reached, only.missed.1⟩)
        ((speaksOfSecrets_written only.missed.1).mpr only)
    · intro clean path listed speaks
      have selected := mem_walk.mp listed
      exact clean path selected.1 ((speaksOfSecrets_written selected.2).mp speaks)
  · constructor
    · intro clean path reached escaping
      have plain : isSecretOrLocalOnly casing (fileName path) = false := by
        rcases escaping with only | hidden
        · exact only.missed.1
        · exact hidden.1
      exact clean path (mem_walk.mpr ⟨reached, plain⟩)
        ((speaksOfSecrets_lowered plain).mpr escaping)
    · intro clean path listed speaks
      have selected := mem_walk.mp listed
      exact clean path selected.1 ((speaksOfSecrets_lowered selected.2).mp speaks)

/-- The letters of the ASCII range alone. -/
def LowerCase.basic : LowerCase where
  lower char := [char.toLower]
  isFinal _ _ := false
  ascii _ _ := rfl
  stop := by
    intro char listed
    have dot := (List.mem_singleton.mp listed).symm
    unfold Char.toLower at dot
    split at dot
    · rename_i upper
      have value := congrArg Char.val dot
      change char.val + ('a'.val - 'A'.val) = 46 at value
      have least : 65 ≤ char.val.toNat := UInt32.le_iff_toNat_le.mp upper.1
      have most : char.val.toNat ≤ 90 := UInt32.le_iff_toNat_le.mp upper.2
      have sum := congrArg UInt32.toNat value
      rw [UInt32.toNat_add] at sum
      change (char.val.toNat + 32) % 4294967296 = 46 at sum
      omega
    · exact dot

/-- A project with one private key. -/
def keyProject : ProjectTree where
  entries := [(".key", .file)]
  wellFormed := .directory _ (by decide) (by
    intro entry listed
    rw [List.mem_singleton.mp listed]
    exact .file)

/-- A dotfile that is called as the suffix is shipped. -/
theorem dotfile_key_selected :
    [".key"] ∈ iterDeployFiles LowerCase.basic keyProject ∧
      SpeaksOfSecrets LowerCase.basic id (fileName [".key"]) ∧
      SpeaksOfSecrets LowerCase.basic LowerCase.basic.lowered (fileName [".key"]) := by
  have only : OnlySuffix LowerCase.basic (fileName [".key"]) := ⟨by decide, by decide⟩
  refine ⟨mem_walk.mpr ⟨.here List.mem_cons_self, only.missed.1⟩, Or.inl only.missed.2,
    Or.inl only.missed.2⟩

end Cli
end DjangoOps
