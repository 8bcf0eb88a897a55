/-!
Why a document type cannot be resolved and inspected.
-/

namespace LazyProxy

/-- The number of levels an inheritance chain may have. -/
def maxInheritanceDepth : Nat := 64

/-- The part of a class level that holds a bad identifier. -/
inductive NamePart where
  | shortName
  | namespaceSegment
  | propertyName
deriving DecidableEq, Repr

def NamePart.text : NamePart → String
  | shortName => "short name"
  | namespaceSegment => "namespace segment"
  | propertyName => "property name"

inductive ResolutionError where
  | unknownType (name : String)
  | unknownParent (child parent : String)
  | cycle (name : String)
  | emptyName
  | invalidIdentifier (typeName : String) (part : NamePart) (name : String)
  | tooDeep (name : String)
deriving DecidableEq, Repr

/-- The text in which an error is reported. -/
def ResolutionError.message : ResolutionError → String
  | unknownType name => s!"unknown type `{name}`"
  | unknownParent child parent => s!"type `{child}` extends unknown type `{parent}`"
  | cycle name => s!"inheritance cycle through `{name}`"
  | emptyName => "type name is empty"
  | invalidIdentifier typeName part name =>
    s!"type `{typeName}` has invalid {part.text} `{name}`"
  | tooDeep name =>
    s!"inheritance chain of `{name}` is deeper than {toString maxInheritanceDepth} levels"

end LazyProxy
