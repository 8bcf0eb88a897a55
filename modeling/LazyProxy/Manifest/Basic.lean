import LazyProxy.Document.Registry
import LazyProxy.Json.Value

/-!
Manifests: the declarations of document types as a file holds them.
-/

namespace LazyProxy

/-- A property in a manifest: its name alone, or an object that may give a type. -/
inductive PropertyEntry where
  | name (s : String)
  | typed (name : String) (type : Option String)
deriving DecidableEq, Repr

structure TypeEntry where
  name : String
  parent : Option String := none
  properties : List PropertyEntry := []
  methods : List String := []
deriving DecidableEq, Repr

structure Manifest where
  types : List TypeEntry := []
deriving DecidableEq, Repr

def PropertyEntry.property : PropertyEntry → Property
  | name s => { name := s }
  | typed s type => { name := s, type }

def TypeEntry.declaration (e : TypeEntry) : Declaration where
  name := e.name
  parent := e.parent
  properties := e.properties.map PropertyEntry.property
  methods := e.methods

namespace Manifest

/-- Adds the declarations of entries to a registry, up to the first whose type is declared already,
which is given by its name. -/
def addTo (r : Registry) : List TypeEntry → Except String Registry
  | [] => .ok r
  | e :: es =>
    if (r.find? e.declaration.key).isSome then .error e.name
    else addTo (r.insert e.declaration) es

/-- The declared types, or the name of the first one that is declared again. -/
def registry (m : Manifest) : Except String Registry :=
  addTo ∅ m.types

end Manifest

/-! Manifests as JSON. -/

def PropertyEntry.toJson : PropertyEntry → Json
  | name s => .string s
  | typed s none => .object [("name", .string s)]
  | typed s (some type) => .object [("name", .string s), ("type", .string type)]

def TypeEntry.toJson (e : TypeEntry) : Json :=
  .object ([("name", .string e.name)] ++
    (match e.parent with | none => [] | some p => [("extends", .string p)]) ++
    [("properties", .array (e.properties.map PropertyEntry.toJson)),
      ("methods", .array (e.methods.map .string))])

def Manifest.toJson (m : Manifest) : Json :=
  .object [("types", .array (m.types.map TypeEntry.toJson))]

end LazyProxy
