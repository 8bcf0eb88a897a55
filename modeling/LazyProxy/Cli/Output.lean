import LazyProxy.Cli.Report
import LazyProxy.Files.Path
import LazyProxy.Generator

/-!
Generated sources in the files of a directory.
-/

namespace LazyProxy

/-- The path of the file of a source. -/
def Source.pathIn (s : Source) (directory : String) : String :=
  appendPath directory s.path

namespace Cli

variable {m : Type → Type} [Monad m] [FileAccess m]

/-- Whether the file of a source holds its code. -/
def isCurrent (directory : String) (s : Source) : m Bool := do
  match ← FileAccess.readText (s.pathIn directory) with
  | .ok text => return text = s.code
  | .error _ => return false

/-- The paths of the files that do not hold the code of their sources. -/
def outdatedPaths (directory : String) : List Source → m (List String)
  | [] => return []
  | s :: ss => do
    if ← isCurrent directory s then outdatedPaths directory ss
    else return s.pathIn directory :: (← outdatedPaths directory ss)

/-- Compares sources with their files. -/
def checkSources (directory : String) (ss : List Source) : m Report := do
  let paths ← outdatedPaths directory ss
  if paths.isEmpty then
    return { output := "✓ " ++ toString ss.length ++ " proxy file(s) up to date\n" }
  else
    let lines := paths.map fun path => "Out of date: " ++ path ++ "\n"
    return { output := Text.join "" lines, failure := some (.outdated paths.length ss.length) }

/-- Puts the code of a source into its file unless it is there already. The result tells whether it
was not. -/
def writeSource (directory : String) (s : Source) : m (Except CommandError Bool) := do
  if ← isCurrent directory s then return .ok false
  else
    let path := s.pathIn directory
    match ← FileAccess.makeDirectories (parentPath path) with
    | .error e => return .error (.notCreated (parentPath path) e)
    | .ok () =>
      match ← FileAccess.writeText path s.code with
      | .error e => return .error (.notWritten path e)
      | .ok () => return .ok true

/-- Writes sources in order, up to the first that fails. The result is the number of files that were
written. -/
def writeEach (directory : String) : List Source → m (Except CommandError Nat)
  | [] => return .ok 0
  | s :: ss => do
    match ← writeSource directory s with
    | .error e => return .error e
    | .ok written => return (← writeEach directory ss).map (written.toNat + ·)

def writeSources (directory : String) (ss : List Source) : m Report := do
  let result ← writeEach directory ss
  return .ofResult (result.map fun written =>
    "✓ " ++ toString written ++ " proxy file(s) written, " ++ toString (ss.length - written) ++
      " unchanged\n")

end Cli

end LazyProxy
