import LazyProxy.Cli.Diagnostic
import LazyProxy.Files.Access

/-!
What a command has to say when it is over.
-/

namespace LazyProxy.Cli

/-- The greatest size of a manifest in bytes. -/
def maxManifestSize : Nat := 16 * 1024 * 1024

/-- Why a command fails. -/
inductive CommandError where
  | inaccessible (path : String) (e : FileError)
  | tooLarge (path : String) (size : Nat)
  | manifest (e : ManifestError)
  | generation (e : GenerationError)
  | upwards (directory : String)
  | notCreated (directory : String) (e : FileError)
  | notWritten (path : String) (e : FileError)
  | outdated (stale total : Nat)
deriving DecidableEq, Repr

def CommandError.message : CommandError → String
  | inaccessible path e => "Cannot access file '" ++ path ++ "': " ++ e.message
  | tooLarge path size =>
    "Manifest '" ++ path ++ "' is too large (" ++ toString size ++ " bytes, max " ++
      toString maxManifestSize ++ " bytes)"
  | manifest e => (Diagnostic.ofManifest e).render
  | generation e => (Diagnostic.ofGeneration e).render
  | upwards directory => "Output directory '" ++ directory ++ "' contains path traversal (..)"
  | notCreated directory e => "Error creating " ++ directory ++ ": " ++ e.message
  | notWritten path e => "Error writing " ++ path ++ ": " ++ e.message
  | outdated stale total =>
    "\n" ++ toString stale ++ " of " ++ toString total ++ " proxy file(s) out of date"

/-- What a command prints, and why it fails if it does. -/
structure Report where
  output : String := ""
  failure : Option CommandError := none
deriving DecidableEq, Repr

namespace Report

def exitCode (r : Report) : Nat :=
  if r.failure.isSome then 1 else 0

/-- The report of a command that prints nothing before it may fail. -/
def ofResult : Except CommandError String → Report
  | .ok output => { output }
  | .error e => { failure := some e }

end Report

end LazyProxy.Cli
