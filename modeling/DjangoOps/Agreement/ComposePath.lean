import DjangoOps.Agent.ComposePath
import DjangoOps.Cli.Health

namespace DjangoOps
namespace Agreement

/-!
# The Compose path on both sides

The command line looks at the parts that `pathlib` has left, the agent at the
segments as they are written.  A segment that is a single dot is no part, so
only the agent refuses it.
-/

/-- The two sides accept the same texts with the same normal form, resolve an accepted
text to one file below the root, and accept nothing that is absolute, has a dot
segment or names no file. -/
structure ComposePathsAgree (value : String) : Prop where
  same : forall normal, Cli.validateComposeFile value = .ok normal <->
    Agent.validateComposeFile value = .ok normal
  resolved : forall normal, Agent.validateComposeFile value = .ok normal ->
    forall projectRoot root, Agent.Paths.isAbs root = true ->
      Agent.DiagnosticsRunner.resolveComposeFile ⟨projectRoot, value⟩ root =
          some (Agent.Paths.join root normal) ∧
        Agent.DiagnosticsRunner.resolveComposeFile ⟨projectRoot, normal⟩ root =
          some (Agent.Paths.join root normal)
  clean : forall normal, Cli.validateComposeFile value = .ok normal ->
    value.toList.any Cli.isControl = false ∧ value.toList.head? ≠ some '/' ∧
      (PosixPath.segments value.toList).any Cli.isDotPart = false ∧
      PosixPath.names normal.toList ≠ []

/-- The text is relative and without control characters, and has segments with a single
dot but none with two. -/
def OnlySingleDots (value : String) : Prop :=
  ['.'] ∈ PosixPath.segments value.toList ∧ ['.', '.'] ∉ PosixPath.segments value.toList ∧
    value.toList.head? ≠ some '/' ∧ value.toList.any Cli.isControl = false

theorem isAbs_iff {value : String} :
    Agent.Paths.isAbs value = false <-> value.toList.head? ≠ some '/' :=
  beq_eq_false_iff_ne

theorem any_isDotPart_iff {value : String} :
    (PosixPath.segments value.toList).any Cli.isDotPart = false <->
      ['.'] ∉ PosixPath.segments value.toList ∧ ['.', '.'] ∉ PosixPath.segments value.toList := by
  constructor
  · intro none
    exact ⟨fun listed => List.any_eq_false.mp none _ listed rfl,
      fun listed => List.any_eq_false.mp none _ listed rfl⟩
  · rintro ⟨single, double⟩
    apply List.any_eq_false.mpr
    intro segment listed dots
    unfold Cli.isDotPart at dots
    rw [Bool.or_eq_true, beq_iff_eq, beq_iff_eq] at dots
    rcases dots with same | same
    · exact single (same ▸ listed)
    · exact double (same ▸ listed)

/-- The agent accepts what the command line accepts, without single dots. -/
theorem relative_iff {value : String} :
    Agent.Relative value <->
      Cli.ComposePath value ∧ ['.'] ∉ PosixPath.segments value.toList := by
  constructor
  · intro accepted
    have moves := any_isDotPart_iff.mp accepted.moves
    exact ⟨⟨accepted.written, accepted.printable, isAbs_iff.mp accepted.relative, moves.2⟩, moves.1⟩
  · rintro ⟨accepted, single⟩
    refine ⟨accepted.printable, isAbs_iff.mpr accepted.relative,
      any_isDotPart_iff.mpr ⟨single, accepted.moves⟩, ?_⟩
    intro none
    have written : value.toList ≠ [] := fun empty => accepted.written (String.toList_eq_nil_iff.mp empty)
    rcases PosixPath.head_segment written accepted.relative with ⟨segment, listed, some⟩
    have named : segment ∈ PosixPath.names value.toList :=
      PosixPath.mem_names.mpr ⟨listed, some, fun same => single (same ▸ listed)⟩
    rw [none] at named
    cases named

/-- Both normal forms are the names, joined. -/
theorem asPosix_relative {value : String} (accepted : Agent.Relative value) :
    (PurePosixPath.parse value.toList).asPosix =
      PosixPath.join (PosixPath.names value.toList) := by
  rw [PurePosixPath.parse_relative (isAbs_iff.mp accepted.relative)]
  unfold PurePosixPath.asPosix
  rw [if_neg (fun both => accepted.named both.2)]
  rfl

/-- The sides agree on every text but those whose dot segments are single dots,
which the command line accepts: it looks at the parts of a path that has been
normalised, and the agent at the segments as they are written.  Paths that climb,
absolute ones and those with control characters are refused by both. -/
theorem compose_paths_agree (value : String) :
    ComposePathsAgree value <-> ¬ OnlySingleDots value := by
  constructor
  · rintro agree ⟨single, double, relative, printable⟩
    have written : value ≠ "" := by
      rintro rfl
      cases List.mem_singleton.mp single
    have accepted := Cli.validateComposeFile_iff.mpr
      ⟨⟨written, printable, relative, double⟩, rfl⟩
    exact (any_isDotPart_iff.mp (agree.clean _ accepted).2.2.1).1 single
  · intro other
    have single : forall {normal}, Cli.validateComposeFile value = .ok normal ->
        Agent.Relative value := by
      intro normal accepted
      have facts := (Cli.validateComposeFile_iff.mp accepted).1
      refine relative_iff.mpr ⟨facts, fun listed => other ?_⟩
      exact ⟨listed, facts.moves, facts.relative, facts.printable⟩
    constructor
    · intro normal
      constructor
      · intro accepted
        have relative := single accepted
        refine Agent.validateComposeFile_iff.mpr ⟨relative, ?_⟩
        rw [(Cli.validateComposeFile_iff.mp accepted).2, asPosix_relative relative]
      · intro accepted
        have facts := Agent.validateComposeFile_iff.mp accepted
        refine Cli.validateComposeFile_iff.mpr ⟨(relative_iff.mp facts.1).1, ?_⟩
        rw [facts.2, asPosix_relative facts.1]
    · intro normal accepted projectRoot root absolute
      rcases Agent.validateComposeFile_iff.mp accepted with ⟨relative, same⟩
      have again := relative.again
      have first := Agent.resolveComposeFile_of_relative relative projectRoot absolute
      have second := Agent.resolveComposeFile_of_relative again.2 projectRoot absolute
      rw [String.toList_ofList, again.1] at second
      rw [same]
      exact ⟨first, second⟩
    · intro normal accepted
      have relative := single accepted
      have same := (Cli.validateComposeFile_iff.mp accepted).2
      rw [asPosix_relative relative] at same
      refine ⟨relative.printable, isAbs_iff.mp relative.relative, relative.moves, ?_⟩
      rw [same, String.toList_ofList, relative.again.1]
      exact relative.named

/-- The command line takes a path through the current directory, the agent
does not. -/
theorem single_dot_disagrees :
    Cli.validateComposeFile "./docker-compose.yml" = .ok "docker-compose.yml" ∧
      Agent.validateComposeFile "./docker-compose.yml" =
        .error "Compose file path must not contain '.' or '..' segments" ∧
      ¬ ComposePathsAgree "./docker-compose.yml" := by
  refine ⟨by rfl, by rfl, ?_⟩
  intro agree
  have accepted := (agree.same "docker-compose.yml").mp (by rfl)
  cases accepted

end Agreement
end DjangoOps
