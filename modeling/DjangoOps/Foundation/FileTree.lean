import DjangoOps.Foundation.PosixPath

namespace DjangoOps

/-!
# File trees with symbolic links

A path is resolved one name at a time from a directory.  A symbolic link puts
its target in front of the names that are left, and only so many links are
followed on the way.  The place that a path leads to is real: no link is met on
the way to it from the root.
-/

/-- What a directory lists under a name. -/
inductive FileNode
  | file
  | directory (entries : List (List Char × FileNode))
  | link (target : List Char)

/-- The entries of the root directory. -/
structure FileTree where
  entries : List (List Char × FileNode)

namespace FileNode

def child? (name : List Char) : FileNode -> Option FileNode
  | .directory entries => (entries.find? fun entry => decide (entry.1 = name)).map Prod.snd
  | _ => none

/-- What the names lead to, where no link is followed. -/
def follow : FileNode -> List (List Char) -> Option FileNode
  | node, [] => some node
  | node, name :: rest => (node.child? name).bind fun inner => inner.follow rest

def isDirectory : FileNode -> Bool
  | .directory _ => true
  | _ => false

end FileNode

namespace FileTree

variable (tree : FileTree)

def node? (place : List (List Char)) : Option FileNode :=
  (FileNode.directory tree.entries).follow place

/-- Where the names lead, up to the first link. -/
inductive Outcome
  | reached (place : List (List Char))
  | missing
  | link (place : List (List Char)) (target : List Char) (rest : List (List Char))
  deriving DecidableEq

/-- Go on from a directory, until a link is met. -/
def advance (place : List (List Char)) : List (List Char) -> Outcome
  | [] => .reached place
  | name :: rest =>
      if (tree.node? place).any FileNode.isDirectory = false then .missing
      else if name = [] ∨ name = ['.'] then advance place rest
      else if name = ['.', '.'] then advance place.dropLast rest
      else
        match tree.node? (place ++ [name]) with
        | none => .missing
        | some (.link target) => .link place target rest
        | some _ => advance (place ++ [name]) rest

/-- The names of a path that is met in a directory, and where they start. -/
def start (place : List (List Char)) (path : List Char) : List (List Char) :=
  if path.head? = some '/' then [] else place

/-- The place that the names lead to, when at most so many links are followed. -/
def locateFrom : Nat -> List (List Char) -> List (List Char) -> Option (List (List Char))
  | links, place, names =>
      match tree.advance place names with
      | .reached found => some found
      | .missing => none
      | .link found target rest =>
          match links with
          | 0 => none
          | links + 1 =>
              if target = [] then none
              else locateFrom links (start found target) (PosixPath.segments target ++ rest)

/-- The place of an absolute path. -/
def locate (links : Nat) (path : List Char) : Option (List (List Char)) :=
  tree.locateFrom links [] (PosixPath.segments path)

/-- The spelling of a place. -/
def render (place : List (List Char)) : List Char := '/' :: PosixPath.join place

/-! ## Real places -/

/-- A name that is neither empty nor one of the dots, and has no slash. -/
structure PlainName (name : List Char) : Prop where
  written : name ≠ []
  dot : name ≠ ['.']
  up : name ≠ ['.', '.']
  solid : '/' ∉ name

/-- No link is met on the way from the root to the place. -/
structure Real (place : List (List Char)) : Prop where
  plain : forall name, name ∈ place -> PlainName name
  reached : tree.advance [] place = .reached place

theorem real_root : Real tree [] :=
  ⟨fun _ impossible => absurd impossible List.not_mem_nil, rfl⟩

variable {tree}

/-- One name of a way without links. -/
theorem advance_name {place : List (List Char)} {name : List Char} (plain : PlainName name)
    (rest : List (List Char)) :
    tree.advance place (name :: rest) =
      if (tree.node? place).any FileNode.isDirectory = false then .missing
      else
        match tree.node? (place ++ [name]) with
        | none => .missing
        | some (.link target) => .link place target rest
        | some _ => tree.advance (place ++ [name]) rest := by
  rw [advance]
  split
  · rfl
  · rw [if_neg (by rw [not_or]; exact ⟨plain.written, plain.dot⟩), if_neg plain.up]

/-- What comes of an outcome when there are more names to go. -/
def Outcome.andThen (tree : FileTree) (back : List (List Char)) : Outcome -> Outcome
  | .reached place => tree.advance place back
  | .missing => .missing
  | .link place target rest => .link place target (rest ++ back)

/-- The way goes through its parts. -/
theorem advance_append (place front back : List (List Char)) :
    tree.advance place (front ++ back) = (tree.advance place front).andThen tree back := by
  induction front generalizing place with
  | nil => rfl
  | cons name rest inductionHypothesis =>
      rw [List.cons_append, advance, advance]
      by_cases directory : (tree.node? place).any FileNode.isDirectory = false
      · rw [if_pos directory, if_pos directory]
        rfl
      · rw [if_neg directory, if_neg directory]
        by_cases skipped : name = [] ∨ name = ['.']
        · rw [if_pos skipped, if_pos skipped]
          exact inductionHypothesis place
        · rw [if_neg skipped, if_neg skipped]
          by_cases up : name = ['.', '.']
          · rw [if_pos up, if_pos up]
            exact inductionHypothesis place.dropLast
          · rw [if_neg up, if_neg up]
            split
            · rfl
            · rfl
            · exact inductionHypothesis (place ++ [name])

/-- Plain names lead below the place. -/
theorem advance_plain {place found names : List (List Char)}
    (plain : forall name, name ∈ names -> PlainName name)
    (reached : tree.advance place names = .reached found) : found = place ++ names := by
  induction names generalizing place with
  | nil =>
      cases reached
      exact (List.append_nil _).symm
  | cons name rest inductionHypothesis =>
      rw [advance_name (plain name List.mem_cons_self)] at reached
      split at reached
      · cases reached
      · split at reached
        · cases reached
        · cases reached
        · have later := inductionHypothesis
            (fun other listed => plain other (List.mem_cons_of_mem _ listed)) reached
          rw [later, List.append_assoc]
          rfl

/-- The way to a real place goes through real places. -/
theorem Real.front {front back : List (List Char)} (real : Real tree (front ++ back)) :
    Real tree front := by
  have plain : forall name, name ∈ front -> PlainName name :=
    fun name listed => real.plain name (List.mem_append_left _ listed)
  have walked := real.reached
  rw [advance_append] at walked
  cases first : tree.advance [] front with
  | reached middle =>
      have same := advance_plain plain first
      rw [List.nil_append] at same
      exact ⟨plain, same ▸ first⟩
  | missing =>
      rw [first] at walked
      cases walked
  | link place target rest =>
      rw [first] at walked
      cases walked

/-- A real place is reached by the names on the way to it. -/
theorem Real.append {place names found : List (List Char)} (real : Real tree place)
    (plain : forall name, name ∈ names -> PlainName name)
    (reached : tree.advance place names = .reached found) : Real tree (place ++ names) := by
  refine ⟨?_, ?_⟩
  · intro name listed
    rcases List.mem_append.mp listed with before | behind
    · exact real.plain name before
    · exact plain name behind
  · rw [advance_append, real.reached, Outcome.andThen, reached, advance_plain plain reached]

/-- Where the way ends, or a link stands, is a real place. -/
def Outcome.Sound (tree : FileTree) : Outcome -> Prop
  | .reached place => Real tree place
  | .missing => True
  | .link place _ rest => Real tree place ∧ forall name, name ∈ rest -> '/' ∉ name

theorem Real.advance {place names : List (List Char)} (real : Real tree place)
    (solid : forall name, name ∈ names -> '/' ∉ name) : (tree.advance place names).Sound tree := by
  induction names generalizing place with
  | nil => exact real
  | cons name rest inductionHypothesis =>
      have later : forall other, other ∈ rest -> '/' ∉ other :=
        fun other listed => solid other (List.mem_cons_of_mem _ listed)
      rw [FileTree.advance]
      by_cases directory : (tree.node? place).any FileNode.isDirectory = false
      · rw [if_pos directory]
        trivial
      · rw [if_neg directory]
        by_cases skipped : name = [] ∨ name = ['.']
        · rw [if_pos skipped]
          exact inductionHypothesis real later
        · rw [if_neg skipped]
          rw [not_or] at skipped
          by_cases up : name = ['.', '.']
          · rw [if_pos up]
            apply inductionHypothesis _ later
            by_cases root : place = []
            · rw [root]
              exact real_root tree
            · rw [← List.dropLast_append_getLast root] at real
              exact real.front
          · rw [if_neg up]
            have plain : PlainName name :=
              ⟨skipped.1, skipped.2, up, solid name List.mem_cons_self⟩
            have single : forall piece, piece ∈ [name] -> PlainName piece := by
              intro piece listed
              rw [List.mem_singleton.mp listed]
              exact plain
            have step := @advance_name tree place name plain []
            rw [if_neg directory] at step
            split
            · trivial
            · exact ⟨real, later⟩
            · rename_i node other found
              apply inductionHypothesis _ later
              apply real.append single
              rw [step, found]
              cases node with
              | file => rfl
              | directory entries => rfl
              | link target => exact absurd rfl (other target)

/-- What is located is a real place. -/
theorem Real.locateFrom {links : Nat} {place names found : List (List Char)}
    (real : Real tree place) (solid : forall name, name ∈ names -> '/' ∉ name)
    (located : tree.locateFrom links place names = some found) : Real tree found := by
  induction links generalizing place names with
  | zero =>
      rw [FileTree.locateFrom] at located
      have sound := real.advance solid
      split at located
      · rename_i reached
        rw [reached] at sound
        cases located
        exact sound
      · cases located
      · cases located
  | succ links inductionHypothesis =>
      rw [FileTree.locateFrom] at located
      have sound := real.advance solid
      split at located
      · rename_i reached
        rw [reached] at sound
        cases located
        exact sound
      · cases located
      · rename_i stopped
        rw [stopped] at sound
        dsimp only at located
        split at located
        · cases located
        · refine inductionHypothesis ?_ ?_ located
          · unfold start
            split
            · exact real_root tree
            · exact sound.1
          · intro name listed
            rcases List.mem_append.mp listed with target | behind
            · exact PosixPath.slash_not_mem target
            · exact sound.2 name behind

theorem Real.locate {links : Nat} {path : List Char} {found : List (List Char)}
    (located : tree.locate links path = some found) : Real tree found :=
  (real_root tree).locateFrom (fun _ listed => PosixPath.slash_not_mem listed) located

/-- More links may be followed than are met. -/
theorem locateFrom_mono {links more : Nat} (fewer : links ≤ more)
    {place names found : List (List Char)}
    (located : tree.locateFrom links place names = some found) :
    tree.locateFrom more place names = some found := by
  induction links generalizing more place names with
  | zero =>
      rw [FileTree.locateFrom] at located ⊢
      cases outcome : tree.advance place names with
      | reached place => rwa [outcome] at located
      | missing =>
          rw [outcome] at located
          cases located
      | link place target rest =>
          rw [outcome] at located
          cases located
  | succ links inductionHypothesis =>
      obtain ⟨more, rfl⟩ : Exists fun one => more = one + 1 := ⟨more - 1, by omega⟩
      rw [FileTree.locateFrom] at located ⊢
      cases outcome : tree.advance place names with
      | reached place => rwa [outcome] at located
      | missing =>
          rw [outcome] at located
          cases located
      | link place target rest =>
          rw [outcome] at located
          dsimp only at located ⊢
          split at located
          · cases located
          · rename_i written
            rw [if_neg written]
            exact inductionHypothesis (by omega) located

theorem segments_render {place : List (List Char)}
    (plain : forall name, name ∈ place -> PlainName name) :
    PosixPath.segments (render place) = [] :: (if place = [] then [[]] else place) := by
  have cut := PosixPath.segments_append [] (PosixPath.join place)
  change PosixPath.segments ('/' :: PosixPath.join place) = _
  rw [List.nil_append] at cut
  rw [cut]
  by_cases root : place = []
  · rw [if_pos root, root]
    rfl
  · rw [if_neg root, PosixPath.segments_join root fun name listed => (plain name listed).solid]
    rfl

/-- The spelling of a real place leads there, and no link is followed. -/
theorem Real.locate_render {place : List (List Char)} (real : Real tree place) (links : Nat) :
    tree.locate links (render place) = some place := by
  have skip : forall names, tree.advance [] ([] :: names) = tree.advance [] names := by
    intro names
    rfl
  have reached : tree.advance [] (PosixPath.segments (render place)) = .reached place := by
    rw [segments_render real.plain, skip]
    by_cases root : place = []
    · rw [if_pos root, skip, root]
      rfl
    · rw [if_neg root]
      exact real.reached
  unfold FileTree.locate
  cases links with
  | zero => rw [FileTree.locateFrom, reached]
  | succ links => rw [FileTree.locateFrom, reached]

end FileTree
end DjangoOps
