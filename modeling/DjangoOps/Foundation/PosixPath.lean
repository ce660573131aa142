import DjangoOps.Foundation.Splitting

namespace DjangoOps
namespace PosixPath

/-!
# Paths of POSIX systems

One path has many spellings: between two names there may be several slashes
and segments that consist of a single dot.  `pathlib` drops both and keeps
what else it is given.  The file system resolves an absolute path that meets
no symbolic link to its canonical spelling, which has neither.
-/

/-- The text between the slashes. -/
def segments (text : List Char) : List (List Char) := text.splitOn '/'

/-- The segments that `pathlib` keeps. -/
def isName (segment : List Char) : Bool := decide (segment ≠ []) && decide (segment ≠ ['.'])

def names (text : List Char) : List (List Char) := (segments text).filter isName

def join (names : List (List Char)) : List Char := ['/'].intercalate names

/-- The root of `posixpath.splitroot`; exactly two slashes are one of their own. -/
def root : List Char -> List Char
  | '/' :: '/' :: '/' :: _ => ['/']
  | '/' :: '/' :: _ => ['/', '/']
  | '/' :: _ => ['/']
  | _ => []

end PosixPath

/-- `pathlib.PurePosixPath` -/
structure PurePosixPath where
  root : List Char
  tail : List (List Char)
  deriving DecidableEq

namespace PurePosixPath

def parse (text : List Char) : PurePosixPath where
  root := PosixPath.root text
  tail := PosixPath.names (text.drop (PosixPath.root text).length)

def isAbsolute (path : PurePosixPath) : Bool := !path.root.isEmpty

def parts (path : PurePosixPath) : List (List Char) :=
  if path.root = [] then path.tail else path.root :: path.tail

/-- `as_posix` -/
def asPosix (path : PurePosixPath) : List Char :=
  if path.root = [] ∧ path.tail = [] then ['.'] else path.root ++ PosixPath.join path.tail

end PurePosixPath

namespace PosixPath

/-- The spelling of an absolute path that `readlink -f` prints, where no name
on the way is a symbolic link or leads up. -/
def canonical (text : List Char) : List Char := '/' :: join (names text)

/-! ## Segments -/

theorem isName_iff {segment : List Char} :
    isName segment = true <-> segment ≠ [] ∧ segment ≠ ['.'] := by
  unfold isName
  rw [Bool.and_eq_true, decide_eq_true_eq, decide_eq_true_eq]

theorem mem_names {text segment : List Char} :
    segment ∈ names text <-> segment ∈ segments text ∧ segment ≠ [] ∧ segment ≠ ['.'] := by
  unfold names
  rw [List.mem_filter, isName_iff]

/-- The segments of a text have no slash, and their letters are letters of it. -/
theorem mem_of_mem_segments {text segment : List Char} (listed : segment ∈ segments text)
    {letter : Char} (member : letter ∈ segment) : letter ∈ text ∧ letter ≠ '/' := by
  unfold segments at listed
  rw [List.splitOn_eq_splitOnP] at listed
  have found := Splitting.mem_splitOnP listed member
  exact ⟨found.1, beq_eq_false_iff_ne.mp found.2⟩

theorem slash_not_mem {text segment : List Char} (listed : segment ∈ segments text) :
    '/' ∉ segment :=
  fun member => (mem_of_mem_segments listed member).2 rfl

theorem segments_append (front back : List Char) :
    segments (front ++ '/' :: back) = segments front ++ segments back :=
  List.splitOn_append_cons_self front back

theorem names_append (front back : List Char) :
    names (front ++ '/' :: back) = names front ++ names back := by
  unfold names
  rw [segments_append, List.filter_append]

theorem names_slash (rest : List Char) : names ('/' :: rest) = names rest :=
  names_append [] rest

/-- A text without a slash is one segment. -/
theorem segments_of_solid {segment : List Char} (solid : '/' ∉ segment) :
    segments segment = [segment] :=
  List.splitOn_eq_singleton solid

theorem segments_join {pieces : List (List Char)} (some : pieces ≠ [])
    (solid : forall piece, piece ∈ pieces -> '/' ∉ piece) : segments (join pieces) = pieces :=
  List.splitOn_intercalate '/' solid some

theorem join_segments (text : List Char) : join (segments text) = text :=
  List.intercalate_splitOn '/'

/-- Names survive being joined. -/
theorem names_join {pieces : List (List Char)}
    (named : forall piece, piece ∈ pieces -> isName piece = true)
    (solid : forall piece, piece ∈ pieces -> '/' ∉ piece) : names (join pieces) = pieces := by
  by_cases none : pieces = []
  · rw [none]
    rfl
  · unfold names
    rw [segments_join none solid]
    exact List.filter_eq_self.mpr named

theorem join_nil_cons {pieces : List (List Char)} (some : pieces ≠ []) :
    join ([] :: pieces) = '/' :: join pieces := by
  cases pieces with
  | nil => exact absurd rfl some
  | cons piece rest => exact List.intercalate_cons_cons

theorem segments_canonical {text : List Char} (some : names text ≠ []) :
    segments (canonical text) = [] :: names text := by
  unfold canonical
  rw [show '/' :: join (names text) = [] ++ '/' :: join (names text) from rfl, segments_append,
    segments_join some fun piece listed => slash_not_mem (mem_names.mp listed).1]
  rfl

/-- Names below a canonical path make a canonical path. -/
theorem canonical_below {base back : List Char} (plain : names back = segments back)
    (written : base ≠ ['/']) (spelled : canonical base = base) :
    canonical (base ++ '/' :: back) = base ++ '/' :: back := by
  have below : names base ≠ [] := by
    intro none
    unfold canonical at spelled
    rw [none] at spelled
    exact written spelled.symm
  have front : segments base = [] :: names base := by
    conv_lhs => rw [← spelled]
    exact segments_canonical below
  calc canonical (base ++ '/' :: back)
      = '/' :: join (names base ++ names back) := by rw [canonical, names_append]
    _ = join ([] :: (names base ++ names back)) := by
        rw [join_nil_cons fun none => below (List.append_eq_nil_iff.mp none).1]
    _ = join (segments (base ++ '/' :: back)) := by rw [segments_append, front, plain]; rfl
    _ = base ++ '/' :: back := join_segments _

/-- A text that stands in front of a canonical path is canonical itself. -/
theorem canonical_of_starts {base text : List Char} (absolute : base.head? = some '/')
    (named : names text ≠ []) (starts : base ++ ['/'] <+: canonical text) :
    canonical base = base := by
  rcases starts with ⟨rest, whole⟩
  rw [List.append_assoc, List.singleton_append] at whole
  have split := segments_canonical named
  rw [← whole, segments_append] at split
  cases front : segments base with
  | nil => exact absurd front (List.splitOn_ne_nil _ _)
  | cons first pieces =>
      rw [front, List.cons_append, List.cons.injEq] at split
      have kept : names base = pieces := by
        unfold names
        rw [front, split.1, List.filter_cons_of_neg (by decide)]
        apply List.filter_eq_self.mpr
        intro piece listed
        have member : piece ∈ names text := split.2 ▸ List.mem_append_left _ listed
        exact isName_iff.mpr (mem_names.mp member).2
      have spelled := join_segments base
      rw [front, split.1] at spelled
      cases pieces with
      | nil =>
          rw [show base = [] from spelled.symm] at absolute
          cases absolute
      | cons piece more =>
          rw [join_nil_cons (List.cons_ne_nil _ _)] at spelled
          unfold canonical
          rw [kept]
          exact spelled

/-! ## Roots -/

/-- Behind its root a path has the same names. -/
theorem names_drop_root (text : List Char) : names (text.drop (root text).length) = names text := by
  unfold root
  split
  · rw [names_slash]
    rfl
  · rw [names_slash, names_slash]
    rfl
  · rw [names_slash]
    rfl
  · rfl

theorem root_eq_nil {text : List Char} : root text = [] <-> text.head? ≠ some '/' := by
  unfold root
  split
  · exact iff_of_false (by decide) (fun different => different rfl)
  · exact iff_of_false (by decide) (fun different => different rfl)
  · exact iff_of_false (by decide) (fun different => different rfl)
  · rename_i other
    refine iff_of_true rfl ?_
    intro slash
    cases text with
    | nil => cases slash
    | cons first rest =>
        cases slash
        exact other rest rfl

/-- A relative path that is not empty starts with a segment that is not. -/
theorem head_segment {text : List Char} (written : text ≠ []) (relative : text.head? ≠ some '/') :
    Exists fun segment : List Char => segment ∈ segments text ∧ segment ≠ [] := by
  cases text with
  | nil => exact absurd rfl written
  | cons first rest =>
      have plain : (first == '/') = false := by
        rw [beq_eq_false_iff_ne]
        rintro rfl
        exact relative rfl
      unfold segments
      rw [List.splitOn_cons_eq_if_modifyHead, plain, if_neg Bool.false_ne_true]
      cases pieces : rest.splitOn '/' with
      | nil => exact absurd pieces (List.splitOn_ne_nil _ _)
      | cons piece others => exact ⟨first :: piece, List.mem_cons_self, List.cons_ne_nil _ _⟩

/-! ## The normal form of an absolute path -/

/-- The directory that a name leads to.  Above the root is the root. -/
def descend (above : List (List Char)) (name : List Char) : List (List Char) :=
  if name = ['.', '.'] then above.dropLast else above ++ [name]

/-- The names on the way from the root, where no link is met. -/
def normal (text : List Char) : List (List Char) := (names text).foldl descend []

theorem foldl_descend {pieces : List (List Char)} (above : List (List Char))
    (down : forall piece, piece ∈ pieces -> piece ≠ ['.', '.']) :
    pieces.foldl descend above = above ++ pieces := by
  induction pieces generalizing above with
  | nil => exact (List.append_nil above).symm
  | cons piece rest inductionHypothesis =>
      rw [List.foldl_cons, inductionHypothesis _ fun other listed =>
        down other (List.mem_cons_of_mem _ listed)]
      unfold descend
      rw [if_neg (down piece List.mem_cons_self), List.append_assoc]
      rfl

theorem normal_of_down {text : List Char}
    (down : forall name, name ∈ names text -> name ≠ ['.', '.']) : normal text = names text :=
  foldl_descend [] down

theorem normal_append (front : List Char) {back : List Char}
    (down : forall name, name ∈ names back -> name ≠ ['.', '.']) :
    normal (front ++ '/' :: back) = normal front ++ names back := by
  unfold normal
  rw [names_append, List.foldl_append]
  exact foldl_descend _ down

/-- A text of slashes alone has no name, and no other text of plain segments. -/
theorem names_eq_nil_iff {text : List Char}
    (plain : forall segment, segment ∈ segments text -> segment ≠ ['.']) :
    names text = [] <-> forall letter, letter ∈ text -> letter = '/' := by
  constructor
  · intro none letter member
    have joined : letter ∈ join (segments text) := (join_segments text).symm ▸ member
    rcases Splitting.mem_intercalate joined with slash | ⟨segment, listed, inner⟩
    · exact slash
    · have named : segment ∈ names text :=
        mem_names.mpr ⟨listed, List.ne_nil_of_mem inner, plain segment listed⟩
      rw [none] at named
      cases named
  · intro slashes
    apply List.filter_eq_nil_iff.mpr
    intro segment listed named
    cases segment with
    | nil => exact absurd named (by decide)
    | cons letter rest =>
        have found := mem_of_mem_segments listed List.mem_cons_self
        exact found.2 (slashes letter found.1)

end PosixPath

namespace PurePosixPath

open PosixPath

theorem isAbsolute_parse (text : List Char) :
    (parse text).isAbsolute = true <-> text.head? = some '/' := by
  unfold isAbsolute parse
  rw [Bool.not_eq_true', List.isEmpty_eq_false_iff, ne_eq, root_eq_nil, not_not]

/-- What `pathlib` makes of a relative path. -/
theorem parse_relative {text : List Char} (relative : text.head? ≠ some '/') :
    parse text = ⟨[], names text⟩ := by
  unfold parse
  rw [names_drop_root, root_eq_nil.mpr relative]

end PurePosixPath

end DjangoOps
