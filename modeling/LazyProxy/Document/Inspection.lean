import LazyProxy.Document.Descriptor
import LazyProxy.Document.Resolution
import LazyProxy.Naming.Identifier

/-!
The properties of a document type, its own first and then those of each ancestor.
-/

namespace LazyProxy

/-- Checks the names of one class level: its short name, its namespace, its properties. -/
def ClassLevel.validate (c : ClassLevel) : Except ResolutionError Unit :=
  let invalid (part : NamePart) (name : String) :=
    Except.error (.invalidIdentifier c.name.display part name)
  if c.name.shortName = "" then .error .emptyName
  else if !isIdentifier c.name.shortName then invalid .shortName c.name.shortName
  else
    match c.name.enclosing.find? (!isIdentifier ·) with
    | some segment => invalid .namespaceSegment segment
    | none =>
      match c.properties.find? (!isIdentifier ·.name) with
      | some p => invalid .propertyName p.name
      | none => .ok ()

namespace Descriptor

/-- Collects properties from levels until one is invalid, none is left, or `room` of them were
taken and there is one more. -/
def collectFrom (d : Descriptor) (found : PropertySet) :
    (room : Nat) → List ClassLevel → Except ResolutionError PropertySet
  | _, [] => .ok found
  | 0, _ :: _ => .error (.tooDeep d.name.display)
  | room + 1, c :: cs => do
    c.validate
    d.collectFrom (c.properties.foldl PropertySet.insert found) room cs

/-- The properties declared by the type and its ancestors. Of several declarations of one name, the
one nearest to the type counts. -/
def collectProperties (d : Descriptor) : Except ResolutionError PropertySet :=
  d.collectFrom ∅ maxInheritanceDepth d.levels

/-- An endless inheritance chain, by the levels that inspection looks at. -/
def ofEndless (level : Nat → ClassLevel) : Descriptor :=
  ⟨level 0, (List.range maxInheritanceDepth).map fun n => level (n + 1)⟩

end Descriptor

end LazyProxy
