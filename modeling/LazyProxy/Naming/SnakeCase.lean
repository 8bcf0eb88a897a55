import LazyProxy.Text.Casing
import LazyProxy.Text.Cluster

/-!
Snake case: a name is cut into words where its letter case, digits and separators say so, and the
words are written in lower case with underscores between them.
-/

namespace LazyProxy.SnakeCase

open Text

/-- Whether case conversion changes a cluster at all and its upper case is the cluster itself. -/
def isUpper (k : Cluster) : Bool :=
  upper k != lower k && upper k == k

/-- Whether case conversion changes a cluster at all and its lower case is the cluster itself. -/
def isLower (k : Cluster) : Bool :=
  upper k != lower k && lower k == k

/-- A single ASCII digit. -/
def isDigit : Cluster → Bool
  | [c] => c.isDigit
  | _ => false

/-- An underscore, hyphen or space, which ends a word and belongs to none. -/
def isSeparator : Cluster → Bool
  | [c] => c == '_' || c == '-' || c == ' '
  | _ => false

/-- Whether a word ends between `a` and `rest`: where small letters turn to capitals, where letters
and digits meet, and before the last of several capitals that a small letter follows. -/
def endsWord (a : Cluster) : List Cluster → Bool
  | [] => false
  | b :: rest =>
    (isLower a && (isUpper b || isDigit b)) || (isUpper a && isDigit b) ||
      (isDigit a && (isLower b || isUpper b)) ||
      (isUpper a && isUpper b && (rest.head?.map isLower).getD false)

/-- The words of a name. Separators that follow each other enclose empty words, which are kept. -/
def words : List Cluster → List (List Cluster)
  | [] => [[]]
  | a :: rest =>
    if isSeparator a then [] :: words rest
    else if endsWord a rest then [a] :: words rest
    else
      match words rest with
      | w :: ws => (a :: w) :: ws
      | [] => [[a]]

/-- The snake case of a name, character by character. -/
def chars (name : List Char) : List Char :=
  List.intercalate ['_'] ((words (clusters name)).map fun w => lower w.flatten)

end LazyProxy.SnakeCase

namespace LazyProxy

/-- The snake case of a name, which Rust accessors are called by: `getPublishedAt` becomes
`get_published_at`. -/
def snakeCase (name : String) : String :=
  String.ofList (SnakeCase.chars name.toList)

end LazyProxy
