import Mathlib.Data.List.Basic
import Mathlib.Data.Char

namespace DjangoOps
namespace Agent

/-!
# Paths of the diagnostics runner

The lexical functions of Go's `path` and `path/filepath` packages on a POSIX
system, and the two resolutions of `diagnostics.Runner` on top of them.  What
only the file system can tell is a parameter: the working directory, which
paths exist, and where their symbolic links lead.
-/

namespace Paths

def isAbs (path : String) : Bool := path.toList.head? == some '/'

/-- One element of a path that is being cleaned.  The elements kept so far are
in reverse order. -/
def pushElement (rooted : Bool) (kept : List (List Char)) (element : List Char) :
    List (List Char) :=
  if element = [] ∨ element = ['.'] then kept
  else if element = ['.', '.'] then
    match kept with
    | [] => if rooted then [] else [element]
    | last :: rest => if last = ['.', '.'] then element :: kept else rest
  else element :: kept

def joinElements (elements : List (List Char)) : List Char := List.intercalate ['/'] elements

/-- `Clean` -/
def clean (path : String) : String :=
  let kept := ((path.toList.splitOn '/').foldl (pushElement (isAbs path)) []).reverse
  if isAbs path then String.ofList ('/' :: joinElements kept)
  else if kept = [] then "."
  else String.ofList (joinElements kept)

/-- `Join` of two elements; empty ones at the front are ignored. -/
def join (directory path : String) : String :=
  if directory = "" then if path = "" then "" else clean path
  else clean (directory ++ "/" ++ path)

/-- The elements of a cleaned path behind its root. -/
def elements (cleaned : String) : List (List Char) :=
  match cleaned.toList with
  | [] => []
  | ['/'] => []
  | '/' :: rest => rest.splitOn '/'
  | text => text.splitOn '/'

/-- What is left of two lists behind their longest common start. -/
def dropCommon : List (List Char) -> List (List Char) -> List (List Char) × List (List Char)
  | base :: bases, target :: targets =>
      if base = target then dropCommon bases targets else (base :: bases, target :: targets)
  | bases, targets => (bases, targets)

/-- `Rel` -/
def rel (basePath targetPath : String) : Option String :=
  let base := clean basePath
  let target := clean targetPath
  if target = base then some "."
  else if isAbs base ≠ isAbs target then none
  else
    let left := dropCommon (if base = "." then [] else elements base) (elements target)
    if left.1.head? = some ['.', '.'] then none
    else some (String.ofList (joinElements (left.1.map (fun _ => ['.', '.']) ++ left.2)))

/-- `Base` -/
def base (path : String) : String :=
  if path = "" then "."
  else
    match ((path.toList.splitOn '/').filter (· ≠ [])).getLast? with
    | none => "/"
    | some last => String.ofList last

/-- The test of both resolutions on the result of `Rel`. -/
def escapes (relative : String) : Bool :=
  relative == ".." || "../".toList.isPrefixOf relative.toList

end Paths

/-- What the operating system answers. -/
structure FileSystem where
  getwd : Option String
  stat : String -> Bool
  evalSymlinks : String -> Option String

/-- `diagnostics.Runner`. -/
structure DiagnosticsRunner where
  projectRoot : String
  composeFile : String

namespace DiagnosticsRunner

open Paths

def defaultComposeFile : String := "docker-compose.yml"

/-- `filepath.Abs`. -/
def abs (files : FileSystem) (path : String) : Option String :=
  if isAbs path then some (clean path) else files.getwd.map fun directory => join directory path

/-- The symbolic links of an existing path are resolved. -/
def followLinks (files : FileSystem) (root : String) : Option String :=
  if files.stat root then (files.evalSymlinks root).map clean else some root

/-- `resolveRoot` -/
def resolveRoot (runner : DiagnosticsRunner) (files : FileSystem) (requested : String) :
    Option String :=
  if requested = "" then none
  else
    let joined := if isAbs requested then requested else join runner.projectRoot requested
    (abs files joined).bind fun root =>
      (followLinks files (clean root)).bind fun resolved =>
        match rel runner.projectRoot resolved with
        | none => none
        | some relative => if escapes relative then none else some resolved

/-- `resolveComposeFile` -/
def resolveComposeFile (runner : DiagnosticsRunner) (root : String) : Option String :=
  let value := if runner.composeFile = "" then defaultComposeFile else runner.composeFile
  if value.toList.any fun char => decide (char.toNat < 32) || char.toNat == 127 then none
  else if isAbs value then none
  else if (value.toList.splitOn '/').any fun part => part == ['.'] || part == ['.', '.'] then none
  else if clean value = "." then none
  else
    let candidate := join root (clean value)
    match rel root candidate with
    | none => none
    | some relative => if escapes relative then none else some candidate

end DiagnosticsRunner

example : Paths.clean "/srv/./project//releases/../current/" = "/srv/project/current" := by
  decide +kernel

end Agent
end DjangoOps
