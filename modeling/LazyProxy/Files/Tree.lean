import LazyProxy.Files.Access
import LazyProxy.Files.Path

/-!
Directories and files as a value. Commands run in one of the directories, where paths start unless
they start at the root.
-/

namespace LazyProxy

/-- What a file holds. -/
inductive FileContent where
  | text (s : String)
  /-- Bytes that are no text: how many, and what can be shown of them. -/
  | binary (size : Nat) (shown : String)
deriving DecidableEq, Repr

namespace FileContent

def size : FileContent → Nat
  | text s => s.utf8ByteSize
  | binary size _ => size

def shown : FileContent → String
  | text s => s
  | binary _ shown => shown

end FileContent

/-- Files and directories by the names that lead to them from the root, which is none of them. -/
structure FileTree where
  files : List (List String × FileContent) := []
  directories : List (List String) := []
  /-- The directory that commands run in. -/
  home : List String := []
deriving Repr

namespace FileTree

/-- The content of a file. -/
def file? (t : FileTree) (names : List String) : Option FileContent :=
  t.files.lookup names

def isDirectory (t : FileTree) (names : List String) : Bool :=
  names.isEmpty || t.directories.contains names

/-- Makes something the content of a file, whether it exists or not. -/
def setFile (t : FileTree) (names : List String) (c : FileContent) : FileTree :=
  { t with files := (names, c) :: t.files.filter (·.1 ≠ names) }

def addDirectory (t : FileTree) (names : List String) : FileTree :=
  if t.isDirectory names then t else { t with directories := names :: t.directories }

/-- Removes a file, or a directory with all that is in it. -/
def remove (t : FileTree) (names : List String) : FileTree :=
  { t with
    files := t.files.filter fun f => !names.isPrefixOf f.1
    directories := t.directories.filter fun d => !names.isPrefixOf d }

/-- The greatest number of bytes in a name. -/
def maxNameLength : Nat := 255

/-- Why what the names lead to is no directory. -/
def whyNoDirectory (t : FileTree) (names : List String) : FileError :=
  if (t.file? names).isSome then .notDirectory else .notFound

/-- The names that pieces of a path lead to from a directory. All but the last have to lead to
directories. Nothing is above the root. -/
def follow (t : FileTree) (names : List String) : List String → Except FileError (List String)
  | [] => .ok names
  | p :: ps =>
    if !t.isDirectory names then .error (t.whyNoDirectory names)
    else if isStill p then t.follow names ps
    else if p = ".." then t.follow names.dropLast ps
    else if maxNameLength < p.utf8ByteSize then .error .nameTooLong
    else t.follow (names ++ [p]) ps

/-- The directory that a path starts in. -/
def start (t : FileTree) (path : String) : List String :=
  if path.startsWith "/" then [] else t.home

/-- The names that a path leads to. -/
def locate (t : FileTree) (path : String) : Except FileError (List String) :=
  if path = "" then .error .notFound else t.follow (t.start path) (pathPieces path)

/-- The size of a file. Directories count as empty. -/
def fileSize (t : FileTree) (path : String) : Except FileError Nat := do
  let names ← t.locate path
  match t.file? names with
  | some c => .ok c.size
  | none => if t.isDirectory names then .ok 0 else .error .notFound

def readText (t : FileTree) (path : String) : Except FileError String := do
  let names ← t.locate path
  match t.file? names with
  | some (.text s) => .ok s
  | some (.binary ..) => .error .notText
  | none => .error (if t.isDirectory names then .isDirectory else .notFound)

/-- Makes the directories that pieces of a path lead through. -/
def makeAlong (t : FileTree) (names : List String) : List String → Except FileError FileTree
  | [] => .ok t
  | p :: ps =>
    if isStill p then t.makeAlong names ps
    else if p = ".." then t.makeAlong names.dropLast ps
    else
      let names := names ++ [p]
      if (t.file? names).isSome then .error (if ps.isEmpty then .alreadyExists else .notDirectory)
      else if maxNameLength < p.utf8ByteSize then .error .nameTooLong
      else (t.addDirectory names).makeAlong names ps

def makeDirectories (t : FileTree) (path : String) : Except FileError FileTree :=
  t.makeAlong (t.start path) (pathPieces path)

def writeText (t : FileTree) (path text : String) : Except FileError FileTree := do
  let names ← t.locate path
  if t.isDirectory names then .error .isDirectory else .ok (t.setFile names (.text text))

/-- Performs a change, or leaves the tree as it is if that fails. -/
def change (f : FileTree → Except FileError FileTree) : StateM FileTree (Except FileError Unit) :=
  fun t =>
    match f t with
    | .ok t => (.ok (), t)
    | .error e => (.error e, t)

instance : FileAccess (StateM FileTree) where
  fileSize path := fun t => (t.fileSize path, t)
  readText path := fun t => (t.readText path, t)
  makeDirectories path := change (·.makeDirectories path)
  writeText path text := change (·.writeText path text)

end FileTree

end LazyProxy
