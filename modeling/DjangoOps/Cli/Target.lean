import DjangoOps.Cli.Config
import DjangoOps.Foundation.PosixPath

namespace DjangoOps
namespace Cli

/-!
# Deployment targets

The validated address of a target, and the paths of one release on it.
-/

/-- `ord(char) < 32 or ord(char) == 127` -/
def isControl (char : Char) : Bool := decide (char.toNat < 32) || char.toNat == 127

def isDotPart (part : List Char) : Bool := part == ['.'] || part == ['.', '.']

/-- `_HOST_RE.fullmatch` -/
def matchesHost (text : List Char) : Bool :=
  matchesEnclosed Char.isAlphanum (fun char => char.isAlphanum || char == '.' || char == '-') 1 253
    text

/-- `_USER_RE.fullmatch` -/
def matchesUser (text : List Char) : Bool :=
  matchesRun (fun char => char.isAlpha || char == '_')
    (fun char => char.isAlphanum || char == '_' || char == '.' || char == '-') 31 text

/-- `_validate_remote_base` -/
def validateRemoteBase (value : String) : Except ConfigError Unit :=
  let path := PurePosixPath.parse value.toList
  if value = "" ∨ value.toList.any isControl = true then
    .error (.valueError "remote base directory contains control characters")
  else if path.isAbsolute = false then
    .error (.valueError "remote base directory must be an absolute POSIX path")
  else if path.parts.any isDotPart = true then
    .error (.valueError "remote base directory must not contain '.' or '..' segments")
  else if value = "/" then
    .error (.valueError "remote base directory must not be the filesystem root")
  else .ok ()

/-- `DeploymentTarget` -/
structure DeploymentTarget where
  host : String
  user : String
  port : Int
  remoteBase : String
  identityFile : Option String
  deriving DecidableEq

/-- `DeploymentTarget.create`, with the test whether a path is a file. -/
def DeploymentTarget.create (isFile : String -> Bool) (host user : String) (port : Int)
    (remoteBase : String) (identityFile : Option String) : Except ConfigError DeploymentTarget := do
  if matchesHost host.toList = false ∨ contains "..".toList host.toList = true ∨
      host.toList.head? = some '-' then
    .error (.valueError "SSH host must be a DNS name or IPv4-style host without shell syntax")
  else if matchesUser user.toList = false ∨ user.toList.head? = some '-' then
    .error (.valueError "SSH user contains unsupported characters")
  else if ¬ (1 ≤ port ∧ port ≤ 65535) then
    .error (.valueError "SSH port must be between 1 and 65535")
  else
    let _ <- validateRemoteBase remoteBase
    match identityFile with
    | none => .ok ⟨host, user, port, remoteBase, none⟩
    | some file =>
        if isFile file then .ok ⟨host, user, port, remoteBase, some file⟩
        else .error (.valueError ("SSH identity file does not exist: " ++ file))

/-- `DeploymentPlan` -/
structure DeploymentPlan where
  projectRoot : String
  projectName : String
  target : DeploymentTarget
  releaseId : String
  composeFile : String
  deriving DecidableEq

namespace DeploymentPlan

def releaseDir (plan : DeploymentPlan) : String :=
  plan.target.remoteBase ++ "/releases/" ++ plan.releaseId

def currentPath (plan : DeploymentPlan) : String := plan.target.remoteBase ++ "/current"

def previousPath (plan : DeploymentPlan) : String :=
  plan.target.remoteBase ++ "/.previous-" ++ plan.releaseId

end DeploymentPlan

/-- A target keeps a base that the validation has let through. -/
theorem DeploymentTarget.create_ok {isFile : String -> Bool} {host user : String} {port : Int}
    {remoteBase : String} {identityFile : Option String} {target : DeploymentTarget}
    (created : DeploymentTarget.create isFile host user port remoteBase identityFile = .ok target) :
    target.remoteBase = remoteBase ∧ validateRemoteBase remoteBase = .ok () := by
  unfold DeploymentTarget.create at created
  split at created
  · cases created
  · split at created
    · cases created
    · split at created
      · cases created
      · cases base : validateRemoteBase remoteBase with
        | error error =>
            rw [base] at created
            cases created
        | ok value =>
            rw [base] at created
            refine ⟨?_, rfl⟩
            cases identityFile with
            | none =>
                cases created
                rfl
            | some file =>
                change (if isFile file = true then _ else _) = _ at created
                split at created
                · cases created
                  rfl
                · cases created

/-- What the validation of the base says about its text. -/
theorem validateRemoteBase_ok {value : String} (accepted : validateRemoteBase value = .ok ()) :
    value.toList.any isControl = false ∧ value.toList.head? = some '/' ∧
      (forall name, name ∈ PosixPath.names value.toList -> name ≠ ['.', '.']) ∧ value ≠ "/" := by
  unfold validateRemoteBase at accepted
  dsimp only at accepted
  split at accepted
  · cases accepted
  · rename_i printable
    split at accepted
    · cases accepted
    · rename_i absolute
      split at accepted
      · cases accepted
      · rename_i moves
        split at accepted
        · cases accepted
        · rename_i other
          rw [not_or, Bool.not_eq_true] at printable
          rw [Bool.not_eq_false, PurePosixPath.isAbsolute_parse] at absolute
          refine ⟨printable.2, absolute, ?_, other⟩
          rintro name listed rfl
          apply moves
          apply List.any_eq_true.mpr
          refine ⟨['.', '.'], ?_, rfl⟩
          have tail : ['.', '.'] ∈ (PurePosixPath.parse value.toList).tail := by
            unfold PurePosixPath.parse
            dsimp only
            rw [PosixPath.names_drop_root]
            exact listed
          unfold PurePosixPath.parts
          split
          · exact tail
          · exact List.mem_cons_of_mem _ tail

end Cli
end DjangoOps
