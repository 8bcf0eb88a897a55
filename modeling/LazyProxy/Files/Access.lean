/-!
What a command asks of a file system, and how that may fail.
-/

namespace LazyProxy

/-- Why a file cannot be used. -/
inductive FileError where
  | notFound
  | alreadyExists
  | notDirectory
  | isDirectory
  | nameTooLong
  | notText
  /-- Anything else, as the system describes it. -/
  | other (description : String)
deriving DecidableEq, Repr

def FileError.message : FileError → String
  | notFound => "No such file or directory (os error 2)"
  | alreadyExists => "File exists (os error 17)"
  | notDirectory => "Not a directory (os error 20)"
  | isDirectory => "Is a directory (os error 21)"
  | nameTooLong => "File name too long (os error 36)"
  | notText => "stream did not contain valid UTF-8"
  | other description => description

/-- Access to files by their paths. -/
class FileAccess (m : Type → Type) where
  /-- The size of a file in bytes. -/
  fileSize : String → m (Except FileError Nat)
  /-- The text that a file holds. -/
  readText : String → m (Except FileError String)
  /-- Makes a directory with all that lead to it. -/
  makeDirectories : String → m (Except FileError Unit)
  /-- Makes a text the content of a file, which may be a new one. -/
  writeText : String → String → m (Except FileError Unit)

end LazyProxy
