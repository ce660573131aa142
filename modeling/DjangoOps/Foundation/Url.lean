import Mathlib.Data.List.DropRight
import Mathlib.Tactic.Common

namespace DjangoOps
namespace Url

universe u

/-!
# Splitting URLs

`urllib.parse.urlsplit` of Python 3.12 and the properties of its result.  What
it checks of a network location besides its brackets, the address between them
and the normal form of the host, are parameters: both look at nothing but the
network location.

A URL with neither a query nor a fragment keeps its parts, up to the slashes of
its path, when slashes are dropped from its end.
-/

/-! ## The parts -/

structure Split where
  scheme : List Char
  netloc : List Char
  path : List Char
  query : List Char
  fragment : List Char
  deriving DecidableEq

/-- The checks of a network location that are left open, of what stands between
its brackets and of its characters under NFKC, and the error for brackets that
do not match. -/
structure Checks (Error : Type u) where
  unbalanced : Error
  bracketed : List Char -> Except Error Unit
  normalised : List Char -> Except Error Unit

variable {Error : Type u}

/-- The characters that are skipped in front of a URL. -/
def isControlOrSpace (char : Char) : Bool := decide (char.toNat ≤ 32)

/-- The characters that are removed wherever they stand. -/
def isUnsafe (char : Char) : Bool := char == '\t' || char == '\r' || char == '\n'

def isSchemeChar (char : Char) : Bool :=
  char.isAlphanum || char == '+' || char == '-' || char == '.'

/-- The characters that end a network location. -/
def isDelimiter (char : Char) : Bool := char == '/' || char == '?' || char == '#'

def clean (url : List Char) : List Char :=
  (url.dropWhile isControlOrSpace).filter fun char => !isUnsafe char

/-- The scheme in front of the first colon, and the rest. -/
def splitScheme (url : List Char) : List Char × List Char :=
  match url.takeWhile (fun char => char != ':'), url.dropWhile (fun char => char != ':') with
  | first :: more, _ :: rest =>
      if first.isAlpha && (first :: more).all isSchemeChar then
        ((first :: more).map Char.toLower, rest)
      else ([], url)
  | _, _ => ([], url)

/-- The network location behind two slashes, and the rest. -/
def splitNetloc : List Char -> List Char × List Char
  | '/' :: '/' :: rest =>
      (rest.takeWhile fun char => !isDelimiter char, rest.dropWhile fun char => !isDelimiter char)
  | url => ([], url)

/-- `str.partition` without the separator. -/
def partition (separator : Char) (text : List Char) : List Char × List Char :=
  (text.takeWhile fun char => char != separator,
    (text.dropWhile fun char => char != separator).drop 1)

def checkNetloc (checks : Checks Error) (netloc : List Char) : Except Error Unit :=
  if ('[' ∈ netloc ∧ ']' ∉ netloc) ∨ (']' ∈ netloc ∧ '[' ∉ netloc) then .error checks.unbalanced
  else
    (if '[' ∈ netloc then checks.bracketed netloc else .ok ()).bind fun _ =>
      checks.normalised netloc

/-- The split of a cleaned URL. -/
def splitClean (checks : Checks Error) (url : List Char) : Except Error Split :=
  let behindScheme := splitScheme url
  let behindNetloc := splitNetloc behindScheme.2
  let behindFragment := partition '#' behindNetloc.2
  let behindQuery := partition '?' behindFragment.1
  (checkNetloc checks behindNetloc.1).map fun _ =>
    { scheme := behindScheme.1, netloc := behindNetloc.1, path := behindQuery.1
      query := behindQuery.2, fragment := behindFragment.2 }

/-- `urlsplit` -/
def split (checks : Checks Error) (url : List Char) : Except Error Split :=
  splitClean checks (clean url)

/-! ## The properties of the network location -/

/-- The user information in front of the last `@`, when there is one. -/
def Split.userinfo (parts : Split) : Option (List Char) :=
  if '@' ∈ parts.netloc then
    some ((parts.netloc.reverse.dropWhile fun char => char != '@').drop 1).reverse
  else none

/-- What stands behind the last `@`. -/
def Split.hostinfo (parts : Split) : List Char :=
  (parts.netloc.reverse.takeWhile fun char => char != '@').reverse

def Split.username (parts : Split) : Option (List Char) :=
  parts.userinfo.map fun userinfo => (partition ':' userinfo).1

def Split.password (parts : Split) : Option (List Char) :=
  parts.userinfo.bind fun userinfo =>
    if ':' ∈ userinfo then some (partition ':' userinfo).2 else none

/-- The host as it is written; the property of the class folds its case. -/
def Split.hostname (parts : Split) : Option (List Char) :=
  let host :=
    if '[' ∈ parts.hostinfo then (partition ']' (partition '[' parts.hostinfo).2).1
    else (partition ':' parts.hostinfo).1
  if host = [] then none else some host

theorem netloc_of_hostname {parts : Split} (host : parts.hostname ≠ none) : parts.netloc ≠ [] := by
  intro empty
  apply host
  simp only [Split.hostname, Split.hostinfo, empty, List.reverse_nil, List.takeWhile_nil,
    List.not_mem_nil, if_false, partition, if_true]

/-! ## Slashes at the end -/

/-- The path is at most a slash and nothing follows it. -/
structure Split.Bare (parts : Split) : Prop where
  netloc : parts.netloc ≠ []
  path : parts.path = [] ∨ parts.path = ['/']
  query : parts.query = []
  fragment : parts.fragment = []

/-- What follows a text does not move the place where it is cut. -/
theorem cut_append {kind : Char -> Bool} {text : List Char} (stops : text.dropWhile kind ≠ [])
    (tail : List Char) : (text ++ tail).takeWhile kind = text.takeWhile kind ∧
      (text ++ tail).dropWhile kind = text.dropWhile kind ++ tail := by
  constructor
  · rw [List.takeWhile_append, if_neg]
    intro whole
    apply stops
    have same := (List.takeWhile_prefix kind (l := text)).eq_of_length whole
    exact List.dropWhile_eq_nil_iff.mpr (List.takeWhile_eq_self_iff.mp same)
  · rw [List.dropWhile_append, if_neg]
    intro empty
    exact stops (List.isEmpty_iff.mp empty)

theorem clean_append_slashes (url : List Char) (count : Nat) :
    clean (url ++ List.replicate count '/') = clean url ++ List.replicate count '/' := by
  have kept : (List.replicate count '/').filter (fun char => !isUnsafe char) =
      List.replicate count '/' := by
    apply List.filter_eq_self.mpr
    intro char member
    rw [(List.mem_replicate.mp member).2]
    rfl
  have skipped : (List.replicate count '/').dropWhile isControlOrSpace =
      List.replicate count '/' := by
    cases count with
    | zero => rfl
    | succ count => rfl
  unfold clean
  rw [List.dropWhile_append]
  by_cases blank : (url.dropWhile isControlOrSpace).isEmpty = true
  · rw [if_pos blank, skipped, kept, List.isEmpty_iff.mp blank]
    rfl
  · rw [if_neg blank, List.filter_append, kept]

/-- What follows a URL follows the rest behind its scheme. -/
theorem splitScheme_append (url : List Char) {tail : List Char} (colonless : ':' ∉ tail) :
    splitScheme (url ++ tail) = ((splitScheme url).1, (splitScheme url).2 ++ tail) := by
  have plain : forall char, char ∈ tail -> (char != ':') = true := by
    intro char member
    apply bne_iff_ne.mpr
    intro colon
    exact colonless (colon ▸ member)
  by_cases colon : ':' ∈ url
  · have behind : (url.dropWhile fun char => char != ':') ≠ [] := by
      intro empty
      exact absurd (List.dropWhile_eq_nil_iff.mp empty ':' colon) (by decide)
    have cut := cut_append behind tail
    unfold splitScheme
    rw [cut.1, cut.2]
    cases front : url.takeWhile fun char => char != ':' with
    | nil => rfl
    | cons first more =>
        cases back : url.dropWhile fun char => char != ':' with
        | nil => exact absurd back behind
        | cons head rest =>
            by_cases valid : (first.isAlpha && (first :: more).all isSchemeChar) = true
            · simp only [List.cons_append, if_pos valid]
            · simp only [List.cons_append, if_neg valid]
  · have all : forall char, char ∈ url -> (char != ':') = true := by
      intro char member
      apply bne_iff_ne.mpr
      intro same
      exact colon (same ▸ member)
    have both : forall char, char ∈ url ++ tail -> (char != ':') = true := by
      intro char member
      rcases List.mem_append.mp member with inner | outer
      · exact all char inner
      · exact plain char outer
    have unsplit : forall text : List Char, (forall char, char ∈ text -> (char != ':') = true) ->
        splitScheme text = ([], text) := by
      intro text without
      unfold splitScheme
      rw [List.dropWhile_eq_nil_iff.mpr without]
      cases text.takeWhile (fun char => char != ':') with
      | nil => rfl
      | cons first more => rfl
    rw [unsplit _ both, unsplit _ all]

/-- A network location in front of slashes ends before them. -/
theorem netloc_append_slashes {url : List Char} {count : Nat}
    (netloc : (splitNetloc (url ++ List.replicate count '/')).1 ≠ []) :
    Exists fun rest : List Char => url = '/' :: '/' :: rest := by
  have slashes : forall count, (splitNetloc (List.replicate count '/')).1 = [] := by
    intro count
    match count with
    | 0 => rfl
    | 1 => rfl
    | 2 => rfl
    | count + 3 => rfl
  have single : forall tail : List Char, (forall rest, tail ≠ '/' :: rest) ->
      (splitNetloc ('/' :: tail)).1 = [] := by
    intro tail other
    unfold splitNetloc
    split
    · rename_i rest same
      exact absurd (List.cons.inj same).2 (other rest)
    · rfl
  cases url with
  | nil => exact absurd (slashes count) netloc
  | cons first more =>
      by_cases slash : first = '/'
      · subst slash
        cases more with
        | nil => exact absurd (slashes (count + 1)) netloc
        | cons second rest =>
            by_cases again : second = '/'
            · exact ⟨rest, by rw [again]⟩
            · refine absurd (single _ ?_) netloc
              intro rest same
              exact again (List.cons.inj same).1
      · refine absurd ?_ netloc
        unfold splitNetloc
        split
        · rename_i rest same
          exact absurd (List.cons.inj same).1 slash
        · rfl

/-- Nothing stands behind the path. -/
structure Split.Plain (parts : Split) : Prop where
  netloc : parts.netloc ≠ []
  query : parts.query = []
  fragment : parts.fragment = []

theorem Split.Bare.plain {parts : Split} (bare : parts.Bare) : parts.Plain :=
  ⟨bare.netloc, bare.query, bare.fragment⟩

/-- A separator in front of slashes would leave them behind it. -/
theorem not_mem_of_partition {separator : Char} {front : List Char} {count : Nat}
    (ends : 0 < count)
    (nothing : (partition separator (front ++ List.replicate count '/')).2 = []) :
    separator ∉ front := by
  intro member
  have behind : (front.dropWhile fun char => char != separator) ≠ [] := by
    intro empty
    exact absurd (List.dropWhile_eq_nil_iff.mp empty separator member) (by simp)
  unfold partition at nothing
  dsimp only at nothing
  rw [(cut_append behind _).2, List.drop_append] at nothing
  have length := congrArg List.length (List.append_eq_nil_iff.mp nothing).2
  have positive := List.length_pos_iff.mpr behind
  simp only [List.length_drop, List.length_replicate, List.length_nil] at length
  omega

theorem partition_of_not_mem {separator : Char} {text : List Char} (missing : separator ∉ text) :
    partition separator text = (text, []) := by
  have whole : forall char, char ∈ text -> (char != separator) = true := by
    intro char member
    apply bne_iff_ne.mpr
    intro same
    exact missing (same ▸ member)
  refine Prod.ext (List.takeWhile_eq_self_iff.mpr whole) ?_
  unfold partition
  rw [List.dropWhile_eq_nil_iff.mpr whole]
  rfl

/-- Without a query and a fragment, what follows a network location is the
path, and so it is without the slashes at its end. -/
theorem tail_of_plain {text : List Char} {count : Nat} (ends : 0 < count)
    (query : (partition '?' (partition '#' (text ++ List.replicate count '/')).1).2 = [])
    (fragment : (partition '#' (text ++ List.replicate count '/')).2 = []) :
    (partition '?' (partition '#' (text ++ List.replicate count '/')).1).1 =
        text ++ List.replicate count '/' ∧
      partition '#' text = (text, []) ∧ partition '?' text = (text, []) := by
  have slashes : forall separator, separator ≠ '/' -> separator ∉ text ->
      separator ∉ text ++ List.replicate count '/' := by
    intro separator other missing member
    rcases List.mem_append.mp member with inner | outer
    · exact missing inner
    · exact other (List.mem_replicate.mp outer).2
  have hashless := not_mem_of_partition ends fragment
  rw [partition_of_not_mem (slashes '#' (by decide) hashless)] at query ⊢
  have markless := not_mem_of_partition ends query
  rw [partition_of_not_mem (slashes '?' (by decide) markless)]
  exact ⟨rfl, partition_of_not_mem hashless, partition_of_not_mem markless⟩

/-- Slashes behind a plain URL change nothing but its path. -/
theorem splitClean_of_slashes (checks : Checks Error) {url : List Char} {count : Nat}
    (ends : 0 < count) {parts : Split}
    (accepted : splitClean checks (url ++ List.replicate count '/') = .ok parts)
    (plain : parts.Plain) :
    Exists fun path : List Char => parts.path = path ++ List.replicate count '/' ∧
      splitClean checks url = .ok { parts with path } := by
  have colonless : ':' ∉ List.replicate count '/' := by
    intro member
    exact absurd (List.mem_replicate.mp member).2 (by decide)
  have moved := splitScheme_append url colonless
  unfold splitClean at accepted
  rw [moved] at accepted
  dsimp only at accepted
  cases checked : checkNetloc checks
      (splitNetloc ((splitScheme url).2 ++ List.replicate count '/')).1 with
  | error error =>
      rw [checked] at accepted
      cases accepted
  | ok passed =>
      rw [checked] at accepted
      have made := Except.ok.inj accepted
      subst made
      rcases netloc_append_slashes plain.netloc with ⟨rest, behind⟩
      rw [behind] at plain checked ⊢
      have query := plain.query
      have fragment := plain.fragment
      dsimp only at query fragment
      by_cases more : (rest.dropWhile fun char => !isDelimiter char) = []
      · have all := List.dropWhile_eq_nil_iff.mp more
        have alone : splitNetloc ('/' :: '/' :: rest) = (rest, []) :=
          Prod.ext (List.takeWhile_eq_self_iff.mpr all) more
        have followed : splitNetloc ('/' :: '/' :: rest ++ List.replicate count '/') =
            (rest, List.replicate count '/') := by
          obtain ⟨count, rfl⟩ : Exists fun fewer => count = fewer + 1 := ⟨count - 1, by omega⟩
          refine Prod.ext ?_ ?_
          · refine (List.takeWhile_append_of_pos all).trans ?_
            exact List.append_nil rest
          · exact List.dropWhile_append_of_pos all
        rw [followed] at query fragment checked ⊢
        dsimp only at query fragment checked ⊢
        refine ⟨[], (@tail_of_plain [] count ends query fragment).1, ?_⟩
        unfold splitClean
        dsimp only
        rw [behind, alone, query, fragment]
        dsimp only
        rw [checked]
        rfl
      · have cut := cut_append more (List.replicate count '/')
        have followed : splitNetloc ('/' :: '/' :: rest ++ List.replicate count '/') =
            (rest.takeWhile fun char => !isDelimiter char,
              (rest.dropWhile fun char => !isDelimiter char) ++ List.replicate count '/') :=
          Prod.ext cut.1 cut.2
        have alone : splitNetloc ('/' :: '/' :: rest) =
            (rest.takeWhile fun char => !isDelimiter char,
              rest.dropWhile fun char => !isDelimiter char) := rfl
        rw [followed] at query fragment checked ⊢
        dsimp only at query fragment checked ⊢
        rcases tail_of_plain ends query fragment with ⟨whole, hashless, markless⟩
        refine ⟨_, whole, ?_⟩
        unfold splitClean
        dsimp only
        rw [behind, alone, query, fragment]
        dsimp only
        rw [checked, hashless, markless]
        rfl

/-- `urlsplit` of a plain URL without the slashes at its end. -/
theorem split_plain (checks : Checks Error) {url : List Char} {parts : Split}
    (accepted : split checks url = .ok parts) (plain : parts.Plain) :
    Exists fun path : List Char => Exists fun count : Nat =>
      parts.path = path ++ List.replicate count '/' ∧
        split checks (url.rdropWhile (fun char => char == '/')) = .ok { parts with path } := by
  have slashes : url.rtakeWhile (fun char => char == '/') =
      List.replicate (url.rtakeWhile fun char => char == '/').length '/' := by
    apply List.eq_replicate_iff.mpr
    refine ⟨rfl, ?_⟩
    intro char member
    exact beq_iff_eq.mp (@List.mem_rtakeWhile_imp _ (fun char => char == '/') url char member)
  have joined : url.rdropWhile (fun char => char == '/') ++
      List.replicate (url.rtakeWhile fun char => char == '/').length '/' = url := by
    rw [← slashes]
    exact List.rdropWhile_append_rtakeWhile
  generalize url.rdropWhile (fun char => char == '/') = front at joined
  generalize (url.rtakeWhile fun char => char == '/').length = count at joined
  subst joined
  by_cases ends : 0 < count
  · unfold split at accepted
    rw [clean_append_slashes] at accepted
    rcases splitClean_of_slashes checks ends accepted plain with ⟨path, same, shorter⟩
    exact ⟨path, count, same, shorter⟩
  · have none : count = 0 := by omega
    subst none
    refine ⟨parts.path, 0, (List.append_nil _).symm, ?_⟩
    simpa only [List.replicate_zero, List.append_nil] using accepted

/-- `urlsplit` of a bare URL without the slashes at its end. -/
theorem split_rdropWhile (checks : Checks Error) {url : List Char} {parts : Split}
    (accepted : split checks url = .ok parts) (bare : parts.Bare) :
    Exists fun path : List Char => (path = [] ∨ path = ['/']) ∧
      split checks (url.rdropWhile (fun char => char == '/')) = .ok { parts with path } := by
  rcases split_plain checks accepted bare.plain with ⟨path, count, whole, shorter⟩
  refine ⟨path, ?_, shorter⟩
  have start : path <+: parts.path := whole ▸ List.prefix_append path _
  rcases bare.path with nothing | slash
  · rw [nothing] at start
    exact Or.inl (List.prefix_nil.mp start)
  · rw [slash] at start
    rcases List.prefix_cons_iff.mp start with empty | ⟨rest, same, short⟩
    · exact Or.inl empty
    · rw [List.prefix_nil.mp short] at same
      exact Or.inr same

end Url
end DjangoOps
