import LazyProxy.Json.Fault
import LazyProxy.Json.Number
import LazyProxy.Text.Quoted

/-!
Why a manifest cannot be used.
-/

namespace LazyProxy

/-- A value of a kind that does not fit. -/
inductive FoundValue where
  | null
  | bool (b : Bool)
  | number (n : Json.Number)
  | string (s : String)
  | array
  | object
deriving DecidableEq, Repr

def FoundValue.text : FoundValue → String
  | null => "null"
  | bool b => "boolean " ++ if b then "`true`" else "`false`"
  | number (.integer n) => s!"integer `{toString n}`"
  | number n => s!"floating point `{n.text}`"
  | string s => "string " ++ Text.quote s
  | array => "sequence"
  | object => "map"

/-- What a manifest has at a place. -/
inductive Schema where
  | manifest
  | typeEntry
  | list
  | text
deriving DecidableEq, Repr

namespace Schema

def description : Schema → String
  | manifest => "struct Manifest"
  | typeEntry => "struct TypeEntry"
  | list => "a sequence"
  | text => "a string"

/-- The fields of an object, in the order in which an array holds them. -/
def fields : Schema → List String
  | manifest => ["types"]
  | typeEntry => ["name", "extends", "properties", "methods"]
  | _ => []

end Schema

/-- What is wrong with the text of a manifest. -/
inductive Misfit where
  | fault (r : Json.Reason)
  | wrongKind (found : FoundValue) (expected : Schema)
  | unknownField (name : String) (place : Schema)
  | duplicateField (name : String)
  | missingField (name : String)
  | emptyEntry
  | badProperty
deriving DecidableEq, Repr

namespace Misfit

def quoted (name : String) : String :=
  "`" ++ name ++ "`"

/-- The names that a field may have. -/
def expectedNames : List String → String
  | [name] => quoted name
  | names => "one of " ++ ", ".intercalate (names.map quoted)

def message : Misfit → String
  | fault r => r.message
  | wrongKind found expected => s!"invalid type: {found.text}, expected {expected.description}"
  | unknownField name place =>
    s!"unknown field {quoted name}, expected {expectedNames place.fields}"
  | duplicateField name => s!"duplicate field {quoted name}"
  | missingField name => s!"missing field {quoted name}"
  | emptyEntry => "invalid length 0, expected struct TypeEntry with 4 elements"
  | badProperty => "data did not match any variant of untagged enum PropertyEntry"

end Misfit

/-- Something wrong at a place of the text. -/
structure MisfitAt where
  misfit : Misfit
  place : Json.Place
deriving DecidableEq, Repr

inductive ManifestError where
  | unreadable (path cause : String)
  | misfit (m : Misfit) (position : Json.Position)
  | duplicateType (name : String)
deriving DecidableEq, Repr

namespace ManifestError

/-- What is wrong with the text, and where. -/
def misfitText (m : Misfit) (p : Json.Position) : String :=
  s!"{m.message} at line {toString p.line} column {toString p.column}"

def message : ManifestError → String
  | unreadable path cause => s!"cannot read manifest `{path}`: {cause}"
  | misfit m p => "invalid manifest: " ++ misfitText m p
  | duplicateType name => s!"type `{name}` is declared more than once"

/-- The errors behind this one. -/
def causes : ManifestError → List String
  | unreadable _ cause => [cause]
  | misfit m p => [misfitText m p]
  | duplicateType _ => []

def code : ManifestError → String
  | unreadable .. => "docproxy::manifest::io"
  | misfit .. => "docproxy::manifest::json"
  | duplicateType _ => "docproxy::manifest::duplicate"

def help? : ManifestError → Option String
  | misfit .. =>
    some "expected a `types` array of objects with `name`, `extends`, `properties` and `methods`"
  | _ => none

end ManifestError

end LazyProxy
