import DjangoOps.Foundation.PosixPath
import DjangoOps.Agent.Paths

namespace DjangoOps
namespace Agent

open PosixPath (names isName)

/-!
# The Compose path of the agent

`validateComposeFile` of the configuration, and what Go's lexical functions do
to a path that has no dot segments.
-/

/-- `char < 32 || char == 127` -/
def isControl (char : Char) : Bool := decide (char.toNat < 32) || char.toNat == 127

def isDotSegment (segment : List Char) : Bool := segment == ['.'] || segment == ['.', '.']

/-- `validateComposeFile` -/
def validateComposeFile (value : String) : Except String String :=
  if value = "" then .error "Compose file path is required"
  else if value.toList.any isControl then .error "Compose file path contains control characters"
  else if Paths.isAbs value then .error "Compose file path must be project-relative"
  else if (value.toList.splitOn '/').any isDotSegment then
    .error "Compose file path must not contain '.' or '..' segments"
  else if Paths.clean value = "." then .error "Compose file path is required"
  else .ok (Paths.clean value)

namespace Paths

/-- A name that is neither of the dot segments. -/
structure Plain (segment : List Char) : Prop where
  written : segment ≠ []
  moves : isDotSegment segment = false
  solid : '/' ∉ segment

theorem Plain.isName {segment : List Char} (plain : Plain segment) : isName segment = true := by
  refine PosixPath.isName_iff.mpr ⟨plain.written, ?_⟩
  rintro rfl
  exact absurd plain.moves (by decide)

theorem Plain.up {segment : List Char} (plain : Plain segment) : segment ≠ ['.', '.'] := by
  rintro rfl
  exact absurd plain.moves (by decide)

theorem pushElement_empty (rooted : Bool) (kept : List (List Char)) :
    pushElement rooted kept [] = kept := rfl

theorem pushElement_name {rooted : Bool} {kept : List (List Char)} {piece : List Char}
    (named : isName piece = true) (up : piece ≠ ['.', '.']) :
    pushElement rooted kept piece = piece :: kept := by
  have visible := PosixPath.isName_iff.mp named
  unfold pushElement
  rw [if_neg (by rw [not_or]; exact visible), if_neg up]

/-- Without dot segments the names are kept in their order. -/
theorem foldl_pushElement {rooted : Bool} {pieces kept : List (List Char)}
    (plain : forall piece, piece ∈ pieces -> isDotSegment piece = false) :
    pieces.foldl (pushElement rooted) kept = (pieces.filter isName).reverse ++ kept := by
  induction pieces generalizing kept with
  | nil => rfl
  | cons piece rest inductionHypothesis =>
      have own := plain piece List.mem_cons_self
      have later := fun {kept} =>
        @inductionHypothesis kept fun other listed => plain other (List.mem_cons_of_mem _ listed)
      have dot : piece ≠ ['.'] := by
        rintro rfl
        exact absurd own (by decide)
      have up : piece ≠ ['.', '.'] := by
        rintro rfl
        exact absurd own (by decide)
      rw [List.foldl_cons]
      by_cases empty : piece = []
      · subst empty
        rw [pushElement_empty, later]
        rfl
      · have named : isName piece = true := PosixPath.isName_iff.mpr ⟨empty, dot⟩
        rw [pushElement_name named up, later, List.filter_cons_of_pos named, List.reverse_cons,
          List.append_assoc]
        rfl

/-- A rooted path keeps plain names only. -/
theorem plain_pushElement {kept : List (List Char)} {piece : List Char}
    (plain : forall name, name ∈ kept -> Plain name) (solid : '/' ∉ piece) :
    forall name, name ∈ pushElement true kept piece -> Plain name := by
  intro name listed
  unfold pushElement at listed
  split at listed
  · exact plain name listed
  · rename_i visible
    rw [not_or] at visible
    split at listed
    · cases kept with
      | nil =>
          rw [if_pos rfl] at listed
          cases listed
      | cons last rest =>
          have other : last ≠ ['.', '.'] := (plain last List.mem_cons_self).up
          dsimp only at listed
          rw [if_neg other] at listed
          exact plain name (List.mem_cons_of_mem _ listed)
    · rename_i up
      rcases List.mem_cons.mp listed with same | earlier
      · rw [same]
        refine ⟨visible.1, ?_, solid⟩
        unfold isDotSegment
        rw [Bool.or_eq_false_iff, beq_eq_false_iff_ne, beq_eq_false_iff_ne]
        exact ⟨visible.2, up⟩
      · exact plain name earlier

theorem plain_foldl {pieces kept : List (List Char)}
    (solid : forall piece, piece ∈ pieces -> '/' ∉ piece)
    (plain : forall name, name ∈ kept -> Plain name) :
    forall name, name ∈ pieces.foldl (pushElement true) kept -> Plain name := by
  induction pieces generalizing kept with
  | nil => exact plain
  | cons piece rest inductionHypothesis =>
      apply inductionHypothesis
      · exact fun other listed => solid other (List.mem_cons_of_mem _ listed)
      · exact plain_pushElement plain (solid piece List.mem_cons_self)

/-! ## Cleaning -/

/-- A relative path without dot segments is cleaned to its names. -/
theorem clean_relative {value : String} (relative : isAbs value = false)
    (plain : (value.toList.splitOn '/').any isDotSegment = false) :
    clean value = if names value.toList = [] then "."
      else String.ofList (PosixPath.join (names value.toList)) := by
  have kept := @foldl_pushElement false (value.toList.splitOn '/') []
    fun piece listed => Bool.eq_false_iff.mpr (List.any_eq_false.mp plain piece listed)
  rw [List.append_nil] at kept
  unfold clean
  rw [relative, kept, List.reverse_reverse]
  rfl

/-- The names of an absolute path, cleaned. -/
def cleanNames (path : String) : List (List Char) :=
  ((path.toList.splitOn '/').foldl (pushElement true) []).reverse

theorem clean_absolute {path : String} (absolute : isAbs path = true) :
    clean path = String.ofList ('/' :: PosixPath.join (cleanNames path)) := by
  unfold clean
  rw [absolute]
  rfl

theorem plain_cleanNames {path : String} {name : List Char} (listed : name ∈ cleanNames path) :
    Plain name := by
  unfold cleanNames at listed
  rw [List.mem_reverse] at listed
  exact plain_foldl (fun piece member => PosixPath.slash_not_mem member)
    (fun other impossible => absurd impossible List.not_mem_nil) name listed

/-- The names of a path that is made of plain names. -/
theorem cleanNames_join {pieces : List (List Char)}
    (plain : forall piece, piece ∈ pieces -> Plain piece) :
    cleanNames (String.ofList ('/' :: PosixPath.join pieces)) = pieces := by
  have split : (('/' :: PosixPath.join pieces).splitOn '/').foldl (pushElement true) [] =
      pieces.reverse := by
    by_cases none : pieces = []
    · rw [none]
      rfl
    · have parts : ('/' :: PosixPath.join pieces).splitOn '/' = [] :: pieces := by
        rw [List.splitOn_cons_eq_if_modifyHead, if_pos (by decide)]
        exact congrArg (List.cons []) (PosixPath.segments_join none fun piece listed =>
          (plain piece listed).solid)
      rw [parts, List.foldl_cons, pushElement_empty,
        foldl_pushElement fun piece listed => (plain piece listed).moves, List.append_nil,
        List.filter_eq_self.mpr fun piece listed => (plain piece listed).isName]
  unfold cleanNames
  rw [String.toList_ofList, split, List.reverse_reverse]

/-- What is joined behind an absolute path. -/
theorem cleanNames_append {root : String} {pieces : List (List Char)} (some : pieces ≠ [])
    (plain : forall piece, piece ∈ pieces -> Plain piece) :
    cleanNames (root ++ "/" ++ String.ofList (PosixPath.join pieces)) = cleanNames root ++ pieces := by
  have text : (root ++ "/" ++ String.ofList (PosixPath.join pieces)).toList =
      root.toList ++ '/' :: PosixPath.join pieces := by
    simp only [String.toList_append, String.toList_ofList, List.append_assoc]
    rfl
  have parts : (PosixPath.join pieces).splitOn '/' = pieces :=
    PosixPath.segments_join some fun piece listed => (plain piece listed).solid
  unfold cleanNames
  rw [text, List.splitOn_append_cons_self, List.foldl_append, parts,
    foldl_pushElement fun piece listed => (plain piece listed).moves,
    List.filter_eq_self.mpr fun piece listed => (plain piece listed).isName, List.reverse_append,
    List.reverse_reverse]

/-! ## Relative to a root -/

theorem elements_join {pieces : List (List Char)}
    (plain : forall piece, piece ∈ pieces -> Plain piece) :
    elements (String.ofList ('/' :: PosixPath.join pieces)) = pieces := by
  cases pieces with
  | nil => rfl
  | cons piece rest =>
      have some : PosixPath.join (piece :: rest) ≠ [] := by
        intro empty
        have names := @PosixPath.names_join (piece :: rest)
          (fun other listed => (plain other listed).isName)
          (fun other listed => (plain other listed).solid)
        rw [empty] at names
        cases names
      have parts : (PosixPath.join (piece :: rest)).splitOn '/' = piece :: rest :=
        PosixPath.segments_join (List.cons_ne_nil _ _) fun other listed => (plain other listed).solid
      unfold elements
      rw [String.toList_ofList]
      cases text : PosixPath.join (piece :: rest) with
      | nil => exact absurd text some
      | cons first more =>
          rw [text] at parts
          exact parts

theorem dropCommon_append (front back : List (List Char)) :
    dropCommon front (front ++ back) = ([], back) := by
  induction front with
  | nil => cases back <;> rfl
  | cons piece rest inductionHypothesis =>
      rw [List.cons_append, dropCommon, if_pos rfl]
      exact inductionHypothesis

/-- A path below an absolute root does not escape from it. -/
theorem rel_join {root : String} (absolute : isAbs root = true) {pieces : List (List Char)}
    (some : pieces ≠ []) (plain : forall piece, piece ∈ pieces -> Plain piece) :
    Paths.join root (String.ofList (PosixPath.join pieces)) =
        String.ofList ('/' :: PosixPath.join (cleanNames root ++ pieces)) ∧
      rel root (Paths.join root (String.ofList (PosixPath.join pieces))) =
        Option.some (String.ofList (PosixPath.join pieces)) := by
  have both : forall piece, piece ∈ cleanNames root ++ pieces -> Plain piece := by
    intro piece listed
    rcases List.mem_append.mp listed with below | behind
    · exact plain_cleanNames below
    · exact plain piece behind
  have written : root ≠ "" := by
    rintro rfl
    cases absolute
  have rooted : forall text : List Char, isAbs (String.ofList ('/' :: text)) = true := by
    intro text
    unfold isAbs
    rw [String.toList_ofList]
    rfl
  have longer : isAbs (root ++ "/" ++ String.ofList (PosixPath.join pieces)) = true := by
    unfold isAbs at absolute ⊢
    rw [String.toList_append, String.toList_append]
    cases text : root.toList with
    | nil =>
        rw [text] at absolute
        cases absolute
    | cons first rest =>
        rw [text] at absolute
        exact absolute
  have joined : Paths.join root (String.ofList (PosixPath.join pieces)) =
      String.ofList ('/' :: PosixPath.join (cleanNames root ++ pieces)) := by
    unfold Paths.join
    rw [if_neg written, clean_absolute longer, cleanNames_append some plain]
  refine ⟨joined, ?_⟩
  rw [joined]
  have target : clean (String.ofList ('/' :: PosixPath.join (cleanNames root ++ pieces))) =
      String.ofList ('/' :: PosixPath.join (cleanNames root ++ pieces)) := by
    rw [clean_absolute (rooted _), cleanNames_join both]
  have base := clean_absolute absolute
  have below : elements (clean root) = cleanNames root := by
    rw [base, elements_join fun piece listed => plain_cleanNames listed]
  have different : clean (String.ofList ('/' :: PosixPath.join (cleanNames root ++ pieces))) ≠
      clean root := by
    intro same
    have lists := congrArg elements same
    rw [target, below, elements_join both, List.append_right_eq_self] at lists
    exact some lists
  have dot : clean root ≠ "." := by
    rw [base]
    intro same
    have first := congrArg (fun text : String => text.toList.head?) same
    rw [String.toList_ofList] at first
    cases first
  unfold rel
  dsimp only
  rw [if_neg different, target, base, rooted, rooted, if_neg (not_not_intro rfl), ← base,
    if_neg dot, below, elements_join both, dropCommon_append]
  rfl

/-- The first name of a plain path does not lead up. -/
theorem escapes_join {pieces : List (List Char)} (some : pieces ≠ [])
    (plain : forall piece, piece ∈ pieces -> Plain piece) :
    escapes (String.ofList (PosixPath.join pieces)) = false := by
  have parts : PosixPath.segments (PosixPath.join pieces) = pieces :=
    PosixPath.segments_join some fun piece listed => (plain piece listed).solid
  have up : ['.', '.'] ∉ pieces := fun listed => (plain _ listed).up rfl
  cases escaped : escapes (String.ofList (PosixPath.join pieces)) with
  | false => rfl
  | true =>
      exfalso
      unfold escapes at escaped
      rw [Bool.or_eq_true, beq_iff_eq, String.toList_ofList, List.isPrefixOf_iff_prefix] at escaped
      rcases escaped with same | ⟨rest, starts⟩
      · have text := congrArg String.toList same
        rw [String.toList_ofList] at text
        rw [text] at parts
        exact up (parts ▸ List.mem_cons_self)
      · rw [String.toList_ofList] at starts
        rw [← starts] at parts
        have first := PosixPath.segments_append ['.', '.'] rest
        exact up (parts ▸ first ▸ List.mem_cons_self)

end Paths

/-! ## The two validators of the agent -/

/-- A relative path with a name, and without control characters and dot segments. -/
structure Relative (value : String) : Prop where
  printable : value.toList.any isControl = false
  relative : Paths.isAbs value = false
  moves : (value.toList.splitOn '/').any isDotSegment = false
  named : names value.toList ≠ []

/-- The names of a path without dot segments are plain. -/
theorem Relative.plain {value : String} (accepted : Relative value) {name : List Char}
    (listed : name ∈ names value.toList) : Paths.Plain name := by
  have found := PosixPath.mem_names.mp listed
  exact ⟨found.2.1, Bool.eq_false_iff.mpr (List.any_eq_false.mp accepted.moves name found.1),
    PosixPath.slash_not_mem found.1⟩

theorem Relative.clean {value : String} (accepted : Relative value) :
    Paths.clean value = String.ofList (PosixPath.join (names value.toList)) := by
  rw [Paths.clean_relative accepted.relative accepted.moves, if_neg accepted.named]

/-- A name has other letters than dots. -/
theorem Relative.not_dot {value : String} (accepted : Relative value) :
    Paths.clean value ≠ "." := by
  rw [accepted.clean]
  intro same
  have text := congrArg String.toList same
  rw [String.toList_ofList] at text
  have parts := PosixPath.segments_join accepted.named fun piece listed =>
    (accepted.plain listed).solid
  rw [text] at parts
  have dot : ['.'] ∈ names value.toList := parts ▸ List.mem_cons_self
  exact absurd (accepted.plain dot).moves (by decide)

theorem Relative.written {value : String} (accepted : Relative value) : value ≠ "" := by
  rintro rfl
  exact accepted.named rfl

theorem validateComposeFile_iff {value normal : String} :
    validateComposeFile value = .ok normal <->
      Relative value ∧ normal = String.ofList (PosixPath.join (names value.toList)) := by
  constructor
  · intro accepted
    unfold validateComposeFile at accepted
    split at accepted
    · cases accepted
    · split at accepted
      · cases accepted
      · rename_i printable
        split at accepted
        · cases accepted
        · rename_i relative
          rw [Bool.not_eq_true] at printable relative
          split at accepted
          · cases accepted
          · rename_i moves
            rw [Bool.not_eq_true] at moves
            have cleaned := Paths.clean_relative relative moves
            split at accepted
            · cases accepted
            · rename_i other
              by_cases none : names value.toList = []
              · rw [if_pos none] at cleaned
                exact absurd cleaned other
              · rw [if_neg none] at cleaned
                exact ⟨⟨printable, relative, moves, none⟩, cleaned ▸ (Except.ok.inj accepted).symm⟩
  · rintro ⟨accepted, rfl⟩
    unfold validateComposeFile
    rw [if_neg accepted.written, accepted.printable, accepted.relative, accepted.moves,
      if_neg Bool.false_ne_true, if_neg Bool.false_ne_true, if_neg Bool.false_ne_true,
      if_neg accepted.not_dot, accepted.clean]

/-- The cleaned path is accepted again, with the same names. -/
theorem Relative.again {value : String} (accepted : Relative value) :
    names (PosixPath.join (names value.toList)) = names value.toList ∧
      Relative (String.ofList (PosixPath.join (names value.toList))) := by
  have solid := fun piece listed => (@Relative.plain value accepted piece listed).solid
  have same := PosixPath.names_join
    (fun piece listed => (@Relative.plain value accepted piece listed).isName) solid
  have parts := PosixPath.segments_join accepted.named solid
  refine ⟨same, ⟨?_, ?_, ?_, ?_⟩⟩
  · rw [String.toList_ofList]
    apply List.any_eq_false.mpr
    intro char member
    rcases Splitting.mem_intercalate member with slash | ⟨name, listed, inner⟩
    · rw [slash]
      decide
    · have letter := (PosixPath.mem_of_mem_segments (PosixPath.mem_names.mp listed).1 inner).1
      exact List.any_eq_false.mp accepted.printable char letter
  · unfold Paths.isAbs
    rw [String.toList_ofList, beq_eq_false_iff_ne]
    intro slash
    cases text : PosixPath.join (names value.toList) with
    | nil =>
        rw [text] at slash
        cases slash
    | cons first rest =>
        rw [text] at slash parts
        cases slash
        have empty : [] ∈ names value.toList := by
          rw [← parts]
          exact List.mem_cons_self
        exact (accepted.plain empty).written rfl
  · rw [String.toList_ofList]
    apply List.any_eq_false.mpr
    intro piece listed
    have named : piece ∈ names value.toList := parts ▸ listed
    rw [Bool.not_eq_true]
    exact (accepted.plain named).moves
  · rw [String.toList_ofList, same]
    exact accepted.named

/-- The runner resolves a relative path to the file of its names below the root. -/
theorem resolveComposeFile_of_relative {value : String} (accepted : Relative value)
    (projectRoot : String) {root : String} (absolute : Paths.isAbs root = true) :
    DiagnosticsRunner.resolveComposeFile ⟨projectRoot, value⟩ root =
      some (Paths.join root (String.ofList (PosixPath.join (names value.toList)))) := by
  have plain := fun piece listed => @Relative.plain value accepted piece listed
  have below := (Paths.rel_join absolute accepted.named plain).2
  unfold DiagnosticsRunner.resolveComposeFile
  dsimp only
  rw [if_neg accepted.written]
  have printable : (value.toList.any fun char => decide (char.toNat < 32) || char.toNat == 127) =
      false := accepted.printable
  have moves : ((value.toList.splitOn '/').any fun part => part == ['.'] || part == ['.', '.']) =
      false := accepted.moves
  rw [printable, accepted.relative, moves, if_neg Bool.false_ne_true, if_neg Bool.false_ne_true,
    if_neg Bool.false_ne_true, if_neg accepted.not_dot, accepted.clean, below]
  dsimp only
  rw [Paths.escapes_join accepted.named plain, if_neg Bool.false_ne_true]

end Agent
end DjangoOps
