import LazyProxy.Cli.Execute

/-!
The program on the files of a disk.
-/

namespace LazyProxy

/-- What a failure on a disk says of a file. Error codes may be negated. -/
def fileError : IO.Error → FileError
  | .noFileOrDirectory .. => .notFound
  | .alreadyExists .. => .alreadyExists
  | .inappropriateType _ code _ =>
    if code = 21 ∨ 0 - code = 21 then .isDirectory else .notDirectory
  | e => .other (toString e)

/-- Performs an action on files. -/
def attempt {α : Type} (action : IO α) : IO (Except FileError α) := do
  return (← action.toBaseIO).mapError fileError

/-- Whether there is a directory, which is what no bytes can be read from. -/
def directoryExists (path : String) : IO Bool := do
  match ← attempt (IO.FS.readBinFile path) with
  | .error .isDirectory => return true
  | _ => return false

/-- Makes a directory unless it exists, after those that lead to it if they are missing. -/
partial def createDirectories (path : String) : IO (Except FileError Unit) := do
  if path = "" then return .ok ()
  match ← attempt (IO.FS.createDir path) with
  | .error .notFound =>
    match ← createDirectories (parentPath path) with
    | .ok () => attempt (IO.FS.createDir path)
    | .error e => return .error e
  | .error e => return if ← directoryExists path then .ok () else .error e
  | .ok () => return .ok ()

instance : FileAccess IO where
  fileSize path := do
    match ← attempt (IO.FS.readBinFile path) with
    | .ok bytes => return .ok bytes.size
    | .error .isDirectory => return .ok 0
    | .error e => return .error e
  readText path := do
    match ← attempt (IO.FS.readBinFile path) with
    | .ok bytes =>
      match String.fromUTF8? bytes with
      | some text => return .ok text
      | none => return .error .notText
    | .error e => return .error e
  makeDirectories := createDirectories
  writeText path text := attempt (IO.FS.writeFile path text)

end LazyProxy

/-- Does what the arguments ask for. -/
def main (arguments : List String) : IO UInt32 := do
  match LazyProxy.Cli.Request.ofArguments arguments with
  | .error e =>
    IO.eprintln ("error: " ++ e.message)
    return 2
  | .ok request =>
    let report : LazyProxy.Cli.Report ← request.serve
    IO.print report.output
    match report.failure with
    | none => return 0
    | some e =>
      IO.eprintln e.message
      return 1
