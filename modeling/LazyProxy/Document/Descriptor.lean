import LazyProxy.Document.Property
import LazyProxy.Naming.Accessor
import LazyProxy.Naming.QualifiedName

/-!
Document types as the generator sees them: what a type declares itself, and what each of its
ancestors declares.
-/

namespace LazyProxy

/-- What one class of an inheritance chain declares. -/
structure ClassLevel where
  name : QualifiedName
  properties : List Property := []
  methods : List String := []
deriving DecidableEq, Repr, Inhabited

/-- A class level for a written name. A name that cannot be read leaves it without segments, which
validation rejects. -/
def ClassLevel.ofName (written : String) (properties : List Property) (methods : List String) :
    ClassLevel :=
  ⟨(QualifiedName.parse? written).getD ⟨[]⟩, properties, methods⟩

/-- Whether the class itself declares a method of the name, in any ASCII case. -/
def ClassLevel.declares (c : ClassLevel) (method : String) : Bool :=
  c.methods.any fun m => foldCase m == foldCase method

/-- A document type with its ancestors, nearest first. -/
structure Descriptor where
  own : ClassLevel
  ancestors : List ClassLevel := []
deriving DecidableEq, Repr, Inhabited

namespace Descriptor

/-- The type and its ancestors. -/
def levels (d : Descriptor) : List ClassLevel :=
  d.own :: d.ancestors

def name (d : Descriptor) : QualifiedName :=
  d.own.name

/-- The descriptor of the direct parent. -/
def parent? (d : Descriptor) : Option Descriptor :=
  match d.ancestors with
  | [] => none
  | p :: ps => some ⟨p, ps⟩

/-- Whether the type or an ancestor declares a method of the name, in any ASCII case. -/
def hasMethod (d : Descriptor) (method : String) : Bool :=
  d.levels.any (·.declares method)

end Descriptor

end LazyProxy
