import DjangoOps.Foundation.FileTree
import DjangoOps.Agent.ComposePath

namespace DjangoOps
namespace Agent

/-!
# The release root of a diagnostic

`resolveRoot` on a file tree with symbolic links.  It cleans the path that is
named before it asks the file system, and it compares the real place of that
path with the project root as the configuration spells it.  So it does what is
expected of it when the project root is spelled without links and cleaning
does not move the path, and when the path leads out of the project root and
its cleaned spelling does so too.
-/

namespace Paths

/-! ## Cleaned paths -/

theorem isAbs_rooted (text : List Char) : isAbs (String.ofList ('/' :: text)) = true := by
  unfold isAbs
  rw [String.toList_ofList]
  rfl

theorem isAbs_append {path : String} (absolute : isAbs path = true) (text : String) :
    isAbs (path ++ text) = true := by
  unfold isAbs at absolute ⊢
  rw [String.toList_append]
  cases start : path.toList with
  | nil =>
      rw [start] at absolute
      cases absolute
  | cons first rest =>
      rw [start] at absolute
      exact absolute

/-- `Join` behind an absolute path. -/
theorem join_absolute {directory : String} (absolute : isAbs directory = true) (path : String) :
    join directory path = clean (directory ++ "/" ++ path) := by
  unfold join
  rw [if_neg]
  rintro rfl
  cases absolute

theorem isAbs_clean {path : String} (absolute : isAbs path = true) :
    isAbs (clean path) = true := by
  rw [clean_absolute absolute]
  exact isAbs_rooted _

theorem cleanNames_clean {path : String} (absolute : isAbs path = true) :
    cleanNames (clean path) = cleanNames path := by
  rw [clean_absolute absolute]
  exact cleanNames_join fun _ listed => plain_cleanNames listed

theorem clean_clean {path : String} (absolute : isAbs path = true) :
    clean (clean path) = clean path := by
  rw [clean_absolute (isAbs_clean absolute), cleanNames_clean absolute, ← clean_absolute absolute]

theorem clean_eq_iff {first second : String} (firstAbsolute : isAbs first = true)
    (secondAbsolute : isAbs second = true) :
    clean first = clean second <-> cleanNames first = cleanNames second := by
  constructor
  · intro same
    rw [← cleanNames_clean firstAbsolute, same, cleanNames_clean secondAbsolute]
  · intro same
    rw [clean_absolute firstAbsolute, clean_absolute secondAbsolute, same]

theorem plain_iff {name : List Char} : Plain name <-> FileTree.PlainName name := by
  constructor
  · intro plain
    refine ⟨plain.written, ?_, plain.up, plain.solid⟩
    rintro rfl
    exact absurd plain.moves (by decide)
  · intro plain
    refine ⟨plain.written, ?_, plain.solid⟩
    unfold isDotSegment
    rw [Bool.or_eq_false_iff, beq_eq_false_iff_ne, beq_eq_false_iff_ne]
    exact ⟨plain.dot, plain.up⟩

/-! ## The test on a relative path -/

theorem dropCommon_eq_nil_iff (base target : List (List Char)) :
    (dropCommon base target).1 = [] <-> base <+: target := by
  induction base generalizing target with
  | nil =>
      refine iff_of_true ?_ List.nil_prefix
      cases target <;> rfl
  | cons piece rest inductionHypothesis =>
      cases target with
      | nil =>
          refine iff_of_false (List.cons_ne_nil _ _) ?_
          intro starts
          exact List.cons_ne_nil _ _ (List.prefix_nil.mp starts)
      | cons other others =>
          rw [dropCommon, List.cons_prefix_cons]
          by_cases same : piece = other
          · rw [if_pos same, inductionHypothesis]
            exact ⟨fun starts => ⟨same, starts⟩, fun starts => starts.2⟩
          · rw [if_neg same]
            exact iff_of_false (List.cons_ne_nil _ _) fun starts => same starts.1

/-- What is left of the lists stands behind a common start. -/
theorem dropCommon_split (base target : List (List Char)) :
    Exists fun common : List (List Char) => base = common ++ (dropCommon base target).1 ∧
      target = common ++ (dropCommon base target).2 := by
  induction base generalizing target with
  | nil => cases target <;> exact ⟨[], rfl, rfl⟩
  | cons piece rest inductionHypothesis =>
      cases target with
      | nil => exact ⟨[], rfl, rfl⟩
      | cons other others =>
          rw [dropCommon]
          by_cases same : piece = other
          · rw [if_pos same]
            rcases inductionHypothesis others with ⟨common, front, back⟩
            exact ⟨piece :: common, congrArg (List.cons piece) front,
              same ▸ congrArg (List.cons other) back⟩
          · rw [if_neg same]
            exact ⟨[], rfl, rfl⟩

/-- A relative path that starts with the way up escapes. -/
theorem escapes_up (rest : List (List Char)) :
    escapes (String.ofList (joinElements (['.', '.'] :: rest))) = true := by
  unfold escapes joinElements
  rw [Bool.or_eq_true, beq_iff_eq, String.toList_ofList]
  cases rest with
  | nil => exact Or.inl rfl
  | cons next more =>
      refine Or.inr (List.isPrefixOf_iff_prefix.mpr ?_)
      rw [String.toList_ofList, List.intercalate_cons_cons]
      exact ⟨['/'].intercalate (next :: more), rfl⟩

/-- `Rel` of two absolute paths leads up unless the one lies below the other. -/
theorem rel_escapes {base target : String} (baseAbsolute : isAbs base = true)
    (targetAbsolute : isAbs target = true) :
    Exists fun relative : String => rel base target = some relative ∧
      (escapes relative = false <-> cleanNames base <+: cleanNames target) := by
  have rooted : forall path : String, isAbs path = true -> clean path ≠ "." := by
    intro path absolute same
    have first := isAbs_clean absolute
    rw [same] at first
    cases first
  have below : forall path : String, isAbs path = true ->
      elements (clean path) = cleanNames path := by
    intro path absolute
    rw [clean_absolute absolute, elements_join fun piece listed => plain_cleanNames listed]
  unfold rel
  dsimp only
  by_cases same : clean target = clean base
  · rw [if_pos same]
    refine ⟨".", rfl, iff_of_true rfl ?_⟩
    have names := (clean_eq_iff targetAbsolute baseAbsolute).mp same
    exact names ▸ List.prefix_rfl
  · rw [if_neg same, isAbs_clean baseAbsolute, isAbs_clean targetAbsolute,
      if_neg (not_not_intro rfl), if_neg (rooted base baseAbsolute), below base baseAbsolute,
      below target targetAbsolute]
    rcases dropCommon_split (cleanNames base) (cleanNames target) with ⟨common, front, back⟩
    have starts := dropCommon_eq_nil_iff (cleanNames base) (cleanNames target)
    rw [← starts]
    generalize dropCommon (cleanNames base) (cleanNames target) = left at front back
    have plainBase : forall name, name ∈ left.1 -> Plain name := fun name listed =>
      plain_cleanNames (front ▸ List.mem_append_right common listed)
    have plainTarget : forall name, name ∈ left.2 -> Plain name := fun name listed =>
      plain_cleanNames (back ▸ List.mem_append_right common listed)
    have down : left.1.head? ≠ some ['.', '.'] := by
      intro first
      exact (plainBase _ (List.mem_of_head? first)).up rfl
    rw [if_neg down]
    refine ⟨_, rfl, ?_⟩
    cases first : left.1 with
    | nil =>
        refine iff_of_true ?_ rfl
        rw [List.map_nil, List.nil_append]
        refine escapes_join ?_ plainTarget
        intro nothing
        apply same
        rw [clean_eq_iff targetAbsolute baseAbsolute, front, back, first, nothing]
    | cons piece rest =>
        refine iff_of_false ?_ (List.cons_ne_nil _ _)
        rw [List.map_cons, List.cons_append, escapes_up]
        exact Bool.true_eq_false.mp

end Paths

/-! ## The file system of a host -/

/-- The file tree, and the directory in which the agent was started. -/
structure Host where
  tree : FileTree
  getwd : Option { path : String // Paths.isAbs path = true }

namespace Host

/-- The links that the kernel follows in one path. -/
def kernelLinks : Nat := 40

/-- The links that `filepath.EvalSymlinks` follows in one path. -/
def evalLinks : Nat := 255

/-- The real place that an existing path leads to. -/
def place? (host : Host) (path : String) : Option (List (List Char)) :=
  host.tree.locate kernelLinks path.toList

def isDirectory (host : Host) (path : String) : Bool :=
  match host.place? path with
  | none => false
  | some place => (host.tree.node? place).any FileNode.isDirectory

def render (place : List (List Char)) : String := String.ofList (FileTree.render place)

/-- What the runner asks of the host. -/
def files (host : Host) : FileSystem where
  getwd := host.getwd.map Subtype.val
  stat := fun path => (host.place? path).isSome
  evalSymlinks := fun path => (host.tree.locate evalLinks path.toList).map render

/-- The project root of `config.Load`. -/
def loadProjectRoot (host : Host) (value : String) : Option String :=
  if value = "" then none
  else
    (DiagnosticsRunner.abs host.files value).bind fun root =>
      if host.isDirectory root then some (Paths.clean root) else none

/-- The path that a request names: a relative one starts at the project root. -/
def requestedPath (projectRoot requested : String) : String :=
  if Paths.isAbs requested then requested else projectRoot ++ "/" ++ requested

/-- The real place of a request, when it names an existing path. -/
def requestedPlace? (host : Host) (projectRoot requested : String) :
    Option (List (List Char)) :=
  if requested = "" then none else host.place? (requestedPath projectRoot requested)

end Host

section ResolveRoot

variable {host : Host}

/-- A project root that was loaded is a cleaned absolute path of a directory. -/
theorem loaded_spec {value projectRoot : String}
    (loaded : host.loadProjectRoot value = some projectRoot) :
    Paths.isAbs projectRoot = true ∧ Paths.clean projectRoot = projectRoot ∧
      host.isDirectory projectRoot = true := by
  unfold Host.loadProjectRoot at loaded
  split at loaded
  · cases loaded
  · rcases Option.bind_eq_some_iff.mp loaded with ⟨root, found, made⟩
    have cleaned : Paths.isAbs root = true ∧ Paths.clean root = root := by
      unfold DiagnosticsRunner.abs at found
      split at found
      · rename_i absolute
        cases found
        exact ⟨Paths.isAbs_clean absolute, Paths.clean_clean absolute⟩
      · rcases Option.map_eq_some_iff.mp found with ⟨directory, started, rfl⟩
        rcases Option.map_eq_some_iff.mp started with ⟨⟨path, absolute⟩, _, rfl⟩
        have longer := Paths.isAbs_append (Paths.isAbs_append absolute "/") value
        rw [Paths.join_absolute absolute]
        exact ⟨Paths.isAbs_clean longer, Paths.clean_clean longer⟩
    split at made
    · rename_i directory
      cases made
      rw [cleaned.2]
      exact ⟨cleaned.1, cleaned.2, directory⟩
    · cases made

theorem isAbs_requestedPath {projectRoot : String} (absolute : Paths.isAbs projectRoot = true)
    (requested : String) : Paths.isAbs (Host.requestedPath projectRoot requested) = true := by
  unfold Host.requestedPath
  split
  · assumption
  · exact Paths.isAbs_append (Paths.isAbs_append absolute "/") requested

/-- The runner asks for the cleaned spelling of the path that is named. -/
theorem cleaned_request {projectRoot : String} (absolute : Paths.isAbs projectRoot = true)
    (requested : String) :
    (DiagnosticsRunner.abs host.files (if Paths.isAbs requested then requested
      else Paths.join projectRoot requested)).map Paths.clean =
      some (Paths.clean (Host.requestedPath projectRoot requested)) := by
  have named := isAbs_requestedPath absolute requested
  unfold Host.requestedPath at named ⊢
  unfold DiagnosticsRunner.abs
  by_cases rooted : Paths.isAbs requested = true
  · rw [if_pos rooted, if_pos rooted, if_pos rooted, Option.map_some, Paths.clean_clean rooted]
  · rw [if_neg rooted] at named ⊢
    rw [if_neg rooted, Paths.join_absolute absolute, if_pos (Paths.isAbs_clean named),
      Option.map_some, Paths.clean_clean (Paths.isAbs_clean named), Paths.clean_clean named]

theorem plain_of_real {place : List (List Char)} (real : FileTree.Real host.tree place) :
    forall name, name ∈ place -> Paths.Plain name :=
  fun name listed => Paths.plain_iff.mpr (real.plain name listed)

theorem isAbs_render (place : List (List Char)) : Paths.isAbs (Host.render place) = true :=
  Paths.isAbs_rooted _

theorem cleanNames_render {place : List (List Char)} (real : FileTree.Real host.tree place) :
    Paths.cleanNames (Host.render place) = place :=
  Paths.cleanNames_join (plain_of_real real)

theorem clean_render {place : List (List Char)} (real : FileTree.Real host.tree place) :
    Paths.clean (Host.render place) = Host.render place := by
  rw [Paths.clean_absolute (isAbs_render place), cleanNames_render real]
  rfl

theorem render_injective {first second : List (List Char)}
    (firstReal : FileTree.Real host.tree first) (secondReal : FileTree.Real host.tree second)
    (same : Host.render first = Host.render second) : first = second := by
  rw [← cleanNames_render firstReal, same, cleanNames_render secondReal]

/-- A spelling that exists is replaced by the one of its real place. -/
theorem followLinks_eq (path : String) : DiagnosticsRunner.followLinks host.files path =
    some (match host.place? path with
      | some place => Host.render place
      | none => path) := by
  unfold DiagnosticsRunner.followLinks
  change (if (host.place? path).isSome = true then _ else _) = _
  cases found : host.place? path with
  | none => rfl
  | some place =>
      have evaluated : host.tree.locate Host.evalLinks path.toList = some place :=
        FileTree.locateFrom_mono (by decide) found
      change ((host.tree.locate Host.evalLinks path.toList).map Host.render).map Paths.clean = _
      rw [evaluated, Option.map_some, Option.map_some, clean_render (FileTree.Real.locate found)]

/-- The spec of `resolveRoot`: the real place of the cleaned spelling, or this
spelling when it names nothing, has to lie below the spelling of the root. -/
theorem resolveRoot_eq {projectRoot requested : String}
    (absolute : Paths.isAbs projectRoot = true) (given : requested ≠ "") (composeFile : String) :
    DiagnosticsRunner.resolveRoot ⟨projectRoot, composeFile⟩ host.files requested =
      (host.place? (Paths.clean (Host.requestedPath projectRoot requested))).elim
        (if Paths.cleanNames projectRoot <+:
            Paths.cleanNames (Host.requestedPath projectRoot requested) then
          some (Paths.clean (Host.requestedPath projectRoot requested))
        else none)
        fun place =>
          if Paths.cleanNames projectRoot <+: place then some (Host.render place) else none := by
  have named := isAbs_requestedPath absolute requested
  have asked := @cleaned_request host projectRoot absolute requested
  have test : forall (relative : String) (names : List (List Char)) (path : String),
      (Paths.escapes relative = false <-> Paths.cleanNames projectRoot <+: names) ->
        (if Paths.escapes relative then none else some path) =
          if Paths.cleanNames projectRoot <+: names then some path else none := by
    intro relative names path inside
    by_cases below : Paths.cleanNames projectRoot <+: names
    · rw [if_pos below, inside.mpr below, if_neg Bool.false_ne_true]
    · rw [if_neg below, if_pos]
      rw [← Bool.not_eq_false]
      exact fun stays => below (inside.mp stays)
  unfold DiagnosticsRunner.resolveRoot
  rw [if_neg given]
  dsimp only
  rcases Option.map_eq_some_iff.mp asked with ⟨root, found, cleaned⟩
  rw [found, Option.bind_some, cleaned, followLinks_eq, Option.bind_some]
  cases located : host.place? (Paths.clean (Host.requestedPath projectRoot requested)) with
  | some place =>
      rcases Paths.rel_escapes absolute (isAbs_render place) with ⟨relative, made, inside⟩
      rw [cleanNames_render (FileTree.Real.locate located)] at inside
      dsimp only [Option.elim_some]
      rw [made]
      exact test relative place _ inside
  | none =>
      rcases Paths.rel_escapes absolute (Paths.isAbs_clean named) with ⟨relative, made, inside⟩
      rw [Paths.cleanNames_clean named] at inside
      dsimp only [Option.elim_none]
      rw [made]
      exact test relative _ _ inside

/-- A spelled root above a real place is its own real place. -/
theorem place_of_prefix {projectRoot : String} (absolute : Paths.isAbs projectRoot = true)
    (cleaned : Paths.clean projectRoot = projectRoot) {place : List (List Char)}
    (real : FileTree.Real host.tree place) (below : Paths.cleanNames projectRoot <+: place) :
    host.place? projectRoot = some (Paths.cleanNames projectRoot) := by
  rcases below with ⟨rest, rfl⟩
  have text : projectRoot.toList = FileTree.render (Paths.cleanNames projectRoot) := by
    conv_lhs => rw [← cleaned]
    rw [Paths.clean_absolute absolute, String.toList_ofList]
    rfl
  unfold Host.place?
  rw [text]
  exact real.front.locate_render Host.kernelLinks

/-- A cleaned spelling that is the one of a real place leads there. -/
theorem place_of_clean {path : String} {place : List (List Char)}
    (real : FileTree.Real host.tree place) (same : Paths.clean path = Host.render place) :
    host.place? (Paths.clean path) = some place := by
  unfold Host.place?
  rw [same]
  unfold Host.render
  rw [String.toList_ofList]
  exact real.locate_render Host.kernelLinks

/-- The runner accepts a request for what lies in the real root, and returns
the real place. -/
def Contained (host : Host) (runner : DiagnosticsRunner) (requested : String)
    (realRoot place : List (List Char)) : Prop :=
  forall result, runner.resolveRoot host.files requested = some result <->
    realRoot <+: place ∧ result = Host.render place

/-- The cleaned spelling of a request is as good as the request: the project
root is spelled without links and the two lead to one place, or the request
leads out of the real root and its cleaned spelling out of the spelled one. -/
def SpellingAgrees (host : Host) (projectRoot requested : String)
    (realRoot place : List (List Char)) : Prop :=
  let cleaned := Paths.clean (Host.requestedPath projectRoot requested)
  (realRoot = Paths.cleanNames projectRoot ∧ host.place? cleaned = some place) ∨
    (¬realRoot <+: place ∧
      (forall other, host.place? cleaned = some other ->
        realRoot = Paths.cleanNames projectRoot -> ¬realRoot <+: other) ∧
      (host.place? cleaned = none -> ¬Paths.cleanNames projectRoot <+: Paths.cleanNames cleaned))

/-- A request for an existing path is accepted, and resolved, as it should be
exactly when its cleaned spelling is as good as the request.  The root is compared
as it is spelled with a request whose links have been followed, and the request is
cleaned before that, so that `..` behind a link leads elsewhere. -/
theorem contained_iff {configured projectRoot requested : String}
    {realRoot place : List (List Char)}
    (loaded : host.loadProjectRoot configured = some projectRoot)
    (rooted : host.place? projectRoot = some realRoot)
    (existing : host.requestedPlace? projectRoot requested = some place) (composeFile : String) :
    Contained host ⟨projectRoot, composeFile⟩ requested realRoot place <->
      SpellingAgrees host projectRoot requested realRoot place := by
  rcases loaded_spec loaded with ⟨absolute, cleaned, _⟩
  have named := isAbs_requestedPath absolute requested
  unfold Host.requestedPlace? at existing
  by_cases given : requested = ""
  · rw [if_pos given] at existing
    cases existing
  · rw [if_neg given] at existing
    have real : FileTree.Real host.tree place := FileTree.Real.locate existing
    have spelled : forall other, FileTree.Real host.tree other ->
        Paths.cleanNames projectRoot <+: other -> realRoot = Paths.cleanNames projectRoot := by
      intro other otherReal below
      have own := place_of_prefix absolute cleaned otherReal below
      rw [rooted] at own
      exact Option.some.inj own
    have spec := @resolveRoot_eq host projectRoot requested absolute given composeFile
    unfold Contained SpellingAgrees
    dsimp only
    rw [spec, Paths.cleanNames_clean named]
    cases located : host.place? (Paths.clean (Host.requestedPath projectRoot requested)) with
    | some other =>
        have otherReal : FileTree.Real host.tree other := FileTree.Real.locate located
        dsimp only [Option.elim_some]
        constructor
        · intro contained
          by_cases inside : realRoot <+: place
          · have accepted := (contained (Host.render place)).mpr ⟨inside, rfl⟩
            split at accepted
            · rename_i below
              have same := render_injective otherReal real (Option.some.inj accepted)
              exact Or.inl ⟨spelled other otherReal below, congrArg some same⟩
            · cases accepted
          · refine Or.inr ⟨inside, ?_, fun impossible => by cases impossible⟩
            rintro found ⟨⟩ rootSame below
            have accepted := (contained (Host.render other)).mp (if_pos (rootSame ▸ below))
            exact inside accepted.1
        · rintro (⟨rootSame, found⟩ | ⟨outside, elsewhere, _⟩) result
          · cases found
            rw [← rootSame]
            by_cases inside : realRoot <+: place
            · rw [if_pos inside]
              exact ⟨fun same => ⟨inside, (Option.some.inj same).symm⟩, fun both => both.2 ▸ rfl⟩
            · rw [if_neg inside]
              exact iff_of_false (fun impossible => by cases impossible) fun both => inside both.1
          · rw [if_neg]
            · exact iff_of_false (fun impossible => by cases impossible) fun both =>
                outside both.1
            · intro below
              have rootSame := spelled other otherReal below
              exact elsewhere other rfl rootSame (rootSame ▸ below)
    | none =>
        dsimp only [Option.elim_none]
        constructor
        · intro contained
          by_cases inside : realRoot <+: place
          · have accepted := (contained (Host.render place)).mpr ⟨inside, rfl⟩
            split at accepted
            · have found := place_of_clean real (Option.some.inj accepted)
              rw [located] at found
              cases found
            · cases accepted
          · refine Or.inr ⟨inside, ?_, ?_⟩
            · intro other impossible
              cases impossible
            · intro _ below
              exact inside ((contained _).mp (if_pos below)).1
        · rintro (⟨_, found⟩ | ⟨outside, _, elsewhere⟩) result
          · cases found
          · rw [if_neg (elsewhere rfl)]
            exact iff_of_false (fun impossible => by cases impossible) fun both => outside both.1

end ResolveRoot

/-! ## Samples -/

/-- A project at `/data/app` with a release, and a link to it at `/srv/app`. -/
def linkedHost : Host where
  tree :=
    { entries := [("data".toList, .directory [("app".toList, .directory
        [("releases".toList, .directory [("r1".toList, .directory [])]),
          ("current".toList, .link "releases/r1".toList)])]),
        ("srv".toList, .directory [("app".toList, .link "/data/app".toList)])] }
  getwd := none

/-- With the project root spelled without links, a release that is named by a
link is resolved. -/
theorem contained_linked : Contained linkedHost ⟨"/data/app", ""⟩ "current"
    ["data".toList, "app".toList] ["data".toList, "app".toList, "releases".toList, "r1".toList] :=
  (@contained_iff linkedHost "/data/app" "/data/app" "current" _ _ (by decide) (by decide)
    (by decide) "").mpr (Or.inl (by decide))

/-- With the project root spelled as a link to it, its own directory is refused. -/
theorem linked_root_refused :
    linkedHost.loadProjectRoot "/srv/app" = some "/srv/app" ∧
      linkedHost.place? "/srv/app" = some ["data".toList, "app".toList] ∧
      linkedHost.requestedPlace? "/srv/app" "." = some ["data".toList, "app".toList] ∧
      ¬Contained linkedHost ⟨"/srv/app", ""⟩ "." ["data".toList, "app".toList]
        ["data".toList, "app".toList] := by
  refine ⟨by decide, by decide, by decide, ?_⟩
  intro contained
  have accepted := (contained (Host.render ["data".toList, "app".toList])).mpr
    ⟨List.prefix_rfl, rfl⟩
  exact absurd accepted (by decide)

/-- Where a link is followed by the way up, the cleaned spelling leads elsewhere. -/
example : DiagnosticsRunner.resolveRoot ⟨"/data/app", ""⟩ linkedHost.files "current/.." =
    some "/data/app" ∧ linkedHost.requestedPlace? "/data/app" "current/.." =
      some ["data".toList, "app".toList, "releases".toList] := by
  decide

end Agent
end DjangoOps
