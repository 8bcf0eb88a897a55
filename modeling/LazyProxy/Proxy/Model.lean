import LazyProxy.Proxy.Plan

/-!
The shape of a generated proxy, apart from any target language: where it lives, what it extends and
implements, and its members in order.
-/

namespace LazyProxy

inductive Member where
  /-- The initialization flag, false at first. -/
  | flag
  /-- The operation that reads the flag. -/
  | isInitialized
  /-- The operation that sets the flag. -/
  | setInitialized
  /-- A method that returns an inherited property. -/
  | getter (method : String) (property : Property)
  /-- A method that assigns an inherited property. -/
  | setter (method : String) (property : Property)
deriving DecidableEq, Repr, Inhabited

namespace Member

/-- The method of a getter or setter. -/
def method? : Member → Option String
  | getter method _ | setter method _ => some method
  | _ => none

def isAccessor (m : Member) : Bool :=
  m.method?.isSome

end Member

/-- A generated proxy class. -/
structure ProxyClass where
  namespaceSegments : List String
  name : String
  base : QualifiedName
  marker : QualifiedName
  members : List Member
deriving DecidableEq, Repr, Inhabited

/-- The accessors that a plan has generated. -/
def AccessorPlan.members (p : AccessorPlan) : List Member :=
  (if p.getter.generate then [.getter p.getter.name p.property] else []) ++
    (if p.setter.generate then [.setter p.setter.name p.property] else [])

/-- Where proxies go: below the document's namespace in a segment of their own, and in one of the
document's name below that if `withName` says so. -/
def Descriptor.proxyNamespace (d : Descriptor) (segment : String) (withName : Bool) : List String :=
  d.name.enclosing ++ [segment] ++ (if withName then [d.name.shortName] else [])

namespace ProxyClass

/-- The proxy of a type. The members that keep the initialization flag are always there and come
first. -/
def build (d : Descriptor) (plans : List AccessorPlan) (segment : String) (withName : Bool)
    (marker : QualifiedName) : ProxyClass where
  namespaceSegments := d.proxyNamespace segment withName
  name := d.name.shortName
  base := d.name
  marker
  members := [.flag, .isInitialized, .setInitialized] ++ plans.flatMap AccessorPlan.members

def qualifiedName (c : ProxyClass) : QualifiedName :=
  ⟨c.namespaceSegments ++ [c.name]⟩

def accessors (c : ProxyClass) : List Member :=
  c.members.filter Member.isAccessor

/-- Whether one of the accessors has exactly this name. -/
def definesMethod (c : ProxyClass) (method : String) : Bool :=
  c.accessors.any (·.method? == some method)

end ProxyClass

end LazyProxy
