import LazyProxy.Text.Blank
import LazyProxy.Text.Split

/-!
Namespaced type names. They are kept as segments, so that each target language can write them with
its own separator.
-/

namespace LazyProxy

open Text

/-- A type name by its segments, outermost first: `App\Document\Article` has three. -/
structure QualifiedName where
  segments : List String
deriving DecidableEq, Repr, Inhabited

namespace QualifiedName

/-- A written name without the blanks around it and the separators in front. Double colons are taken
off first, backslashes after them. -/
def body (written : List Char) : List Char :=
  (dropColons (trim written)).dropWhile (· == '\\')

/-- The pieces of a name between double colons or, if it has none, between backslashes. -/
def pieces (body : List Char) : List (List Char) :=
  if hasColons body then splitColons body else splitWhen (· == '\\') body

/-- Reads a name whose segments are separated by `\` or by `::`. There is none if nothing is left
between two separators. -/
def parse? (written : String) : Option QualifiedName :=
  let ps := pieces (body written.toList)
  if ps.any List.isEmpty then none else some ⟨ps.map String.ofList⟩

/-- The name with a separator between its segments. -/
def join (n : QualifiedName) (separator : String) : String :=
  Text.join separator n.segments

/-- The form in which names are reported. -/
def display (n : QualifiedName) : String :=
  n.join "\\"

/-- All segments but the last. -/
def enclosing (n : QualifiedName) : List String :=
  n.segments.dropLast

/-- The last segment, empty if there is none. -/
def shortName (n : QualifiedName) : String :=
  n.segments.getLast?.getD ""

end QualifiedName

end LazyProxy
