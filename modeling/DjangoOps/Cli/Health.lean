import DjangoOps.Cli.Target
import DjangoOps.Foundation.Splitting

namespace DjangoOps
namespace Cli

/-!
# Health diagnostics

The Compose path of the command line, and the check `compose_services` of the
remote command.
-/

/-- `_validate_compose_file` -/
def validateComposeFile (value : String) : Except ConfigError String :=
  if value = "" ∨ value.toList.any isControl = true then
    .error (.valueError "Compose file path contains control characters")
  else
    let path := PurePosixPath.parse value.toList
    if path.isAbsolute then .error (.valueError "Compose file path must be project-relative")
    else if path.parts.any isDotPart then
      .error (.valueError "Compose file path must not contain '.' or '..' segments")
    else .ok (String.ofList path.asPosix)

/-- A relative path without control characters that does not lead up.  Single
dots are allowed. -/
structure ComposePath (value : String) : Prop where
  written : value ≠ ""
  printable : value.toList.any isControl = false
  relative : value.toList.head? ≠ some '/'
  moves : ['.', '.'] ∉ PosixPath.segments value.toList

/-- `pathlib` has dropped the single dots before the parts are looked at. -/
theorem validateComposeFile_iff {value normal : String} :
    validateComposeFile value = .ok normal <->
      ComposePath value ∧
        normal = String.ofList (PurePosixPath.parse value.toList).asPosix := by
  have parts : value.toList.head? ≠ some '/' ->
      ((PurePosixPath.parse value.toList).parts.any isDotPart = false <->
        ['.', '.'] ∉ PosixPath.segments value.toList) := by
    intro relative
    have tail : (PurePosixPath.parse value.toList).parts = PosixPath.names value.toList := by
      rw [PurePosixPath.parse_relative relative]
      rfl
    rw [tail]
    constructor
    · intro none listed
      have named : ['.', '.'] ∈ PosixPath.names value.toList :=
        PosixPath.mem_names.mpr ⟨listed, by decide, by decide⟩
      exact List.any_eq_false.mp none _ named rfl
    · intro absent
      apply List.any_eq_false.mpr
      intro name named dots
      have found := PosixPath.mem_names.mp named
      unfold isDotPart at dots
      rw [Bool.or_eq_true, beq_iff_eq, beq_iff_eq] at dots
      rcases dots with single | double
      · exact found.2.2 single
      · exact absent (double ▸ found.1)
  constructor
  · intro accepted
    unfold validateComposeFile at accepted
    dsimp only at accepted
    split at accepted
    · cases accepted
    · rename_i printable
      rw [not_or, Bool.not_eq_true] at printable
      split at accepted
      · cases accepted
      · rename_i relative
        rw [PurePosixPath.isAbsolute_parse] at relative
        split at accepted
        · cases accepted
        · rename_i moves
          rw [Bool.not_eq_true] at moves
          exact ⟨⟨printable.1, printable.2, relative, (parts relative).mp moves⟩,
            (Except.ok.inj accepted).symm⟩
  · rintro ⟨⟨written, printable, relative, moves⟩, rfl⟩
    unfold validateComposeFile
    dsimp only
    have absolute : ¬ (PurePosixPath.parse value.toList).isAbsolute = true := by
      rw [PurePosixPath.isAbsolute_parse]
      exact relative
    rw [if_neg (by rw [not_or, Bool.not_eq_true]; exact ⟨written, printable⟩), if_neg absolute,
      (parts relative).mpr moves, if_neg Bool.false_ne_true]

/-! ## `compose_services` -/

/-- What a command has written to its standard output, and whether it succeeded. -/
structure CommandOutput where
  stdout : List Char
  succeeded : Bool

/-- `$(command)` -/
def CommandOutput.substitution (output : CommandOutput) : List Char :=
  output.stdout.rdropWhile fun char => char == '\n'

/-- A character of the default `IFS`. -/
def isFieldSeparator (char : Char) : Bool := char == ' ' || char == '\t' || char == '\n'

/-- The value of `ok` behind the loop over the declared services. -/
def scanServices (found : List Char -> Bool) : Option Bool -> List (List Char) -> Option Bool
  | ok, [] => ok
  | ok, service :: rest => scanServices found (if found service then ok else some false) rest

/-- The condition of `compose_services`.  `grep` tells whether `grep -Fx` with
the given word finds a line.  `running` stays unset when the first command
fails, and `ok` when anything in front of its assignment does; under `set -u`
the shell gives up at the first use of either. -/
def composeServices (grep : List Char -> List (List Char) -> Bool)
    (declared running : CommandOutput) : Bool :=
  let services := Splitting.words isFieldSeparator declared.substitution
  let ok : Option Bool :=
    if declared.succeeded ∧ running.succeeded ∧ declared.substitution ≠ [] ∧
      running.substitution ≠ [] then some true else none
  if declared.succeeded = false ∧ services ≠ [] then false
  else
    scanServices (fun service => grep service (running.substitution.splitOn '\n')) ok services ==
      some true

theorem scanServices_eq {found : List Char -> Bool} {ok : Option Bool}
    {services : List (List Char)} :
    scanServices found ok services = some true <->
      ok = some true ∧ forall service, service ∈ services -> found service = true := by
  induction services generalizing ok with
  | nil => exact ⟨fun same => ⟨same, fun _ listed => absurd listed List.not_mem_nil⟩, And.left⟩
  | cons service rest inductionHypothesis =>
      rw [scanServices, inductionHypothesis, List.forall_mem_cons]
      by_cases present : found service = true
      · rw [if_pos present]
        exact ⟨fun both => ⟨both.1, present, both.2⟩, fun all => ⟨all.1, all.2.2⟩⟩
      · rw [if_neg present]
        refine ⟨fun both => ?_, fun all => absurd all.2.1 present⟩
        cases both.1

/-- The check passes when both commands succeed, both print something, and
every declared service is found. -/
theorem composeServices_iff {grep : List Char -> List (List Char) -> Bool}
    {declared running : CommandOutput} :
    composeServices grep declared running = true <->
      declared.succeeded = true ∧ running.succeeded = true ∧ declared.substitution ≠ [] ∧
        running.substitution ≠ [] ∧
        forall service, service ∈ Splitting.words isFieldSeparator declared.substitution ->
          grep service (running.substitution.splitOn '\n') = true := by
  unfold composeServices
  dsimp only
  split
  · rename_i unset
    refine iff_of_false Bool.false_ne_true ?_
    rintro ⟨succeeded, _⟩
    rw [unset.1] at succeeded
    cases succeeded
  · rw [beq_iff_eq, scanServices_eq]
    constructor
    · rintro ⟨set, all⟩
      split at set
      · rename_i facts
        exact ⟨facts.1, facts.2.1, facts.2.2.1, facts.2.2.2, all⟩
      · cases set
    · rintro ⟨first, second, written, shown, all⟩
      exact ⟨if_pos ⟨first, second, written, shown⟩, all⟩

end Cli
end DjangoOps
