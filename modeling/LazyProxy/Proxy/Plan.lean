import LazyProxy.Document.Descriptor
import LazyProxy.Naming.SnakeCase

/-!
Which accessors a proxy adds: those that the document type does not have yet, in either spelling,
and that no earlier property of the plan claims.
-/

namespace LazyProxy

/-- An accessor's name, and whether the proxy has to define it. -/
structure Accessor where
  name : String
  generate : Bool
deriving DecidableEq, Repr, Inhabited

/-- The decision on both accessors of a property. -/
structure AccessorPlan where
  property : Property
  getter : Accessor
  setter : Accessor
deriving DecidableEq, Repr, Inhabited

/-- How many accessors the plan has generated. -/
def AccessorPlan.count (p : AccessorPlan) : Nat :=
  p.getter.generate.toNat + p.setter.generate.toNat

namespace Descriptor

/-- Whether the type has an accessor of the name, as written or in snake case. -/
def hasAccessor (d : Descriptor) (name : String) : Bool :=
  d.hasMethod name || d.hasMethod (snakeCase name)

/-- Decides on one accessor and adds it to the names claimed so far if it is generated. -/
def decide (d : Descriptor) (claimed : List String) (name : String) : Accessor × List String :=
  if d.hasAccessor name || claimed.contains (foldCase name) then (⟨name, false⟩, claimed)
  else (⟨name, true⟩, foldCase name :: claimed)

/-- Plans the accessors of properties in order, getter before setter. -/
def planAfter (d : Descriptor) (claimed : List String) : List Property → List AccessorPlan
  | [] => []
  | p :: ps =>
    let (getter, claimed) := d.decide claimed (getterName p.name)
    let (setter, claimed) := d.decide claimed (setterName p.name)
    ⟨p, getter, setter⟩ :: d.planAfter claimed ps

def plan (d : Descriptor) (properties : PropertySet) : List AccessorPlan :=
  d.planAfter [] properties.properties

end Descriptor

end LazyProxy
