import LazyProxy.Text.Split

/-!
Paths as texts: pieces between slashes.
-/

namespace LazyProxy

/-- What stands between the slashes of a path. -/
def pathPieces (path : String) : List String :=
  (Text.splitWhen (· == '/') path.toList).map String.ofList

/-- A path with one more piece. An absolute piece replaces what is in front of it. -/
def appendPath (path piece : String) : String :=
  if piece.startsWith "/" || path = "" then piece
  else if path.endsWith "/" then path ++ piece
  else path ++ "/" ++ piece

/-- Whether a path leads upwards at some piece. -/
def leadsUpwards (path : String) : Bool :=
  (pathPieces path).contains ".."

/-- A piece that leads nowhere else. -/
def isStill (piece : String) : Bool :=
  piece = "" || piece = "."

/-- The path of the directory that the last piece is in. -/
def parentPath (path : String) : String :=
  match (pathPieces path).dropLast with
  | [] => ""
  | first :: rest => Text.join "/" (first :: (rest.reverse.dropWhile isStill).reverse)

end LazyProxy
