import LazyProxy.Document.Resolution

/-!
Why a proxy cannot be written in a target language.
-/

namespace LazyProxy

inductive RustError where
  | missingType (className property : String)
  | invalidType (property type : String)
  /-- A text that is no path. `keyword` is the first reserved word in the place of a name. -/
  | invalidPath (path : String) (keyword : Option String)
  | reservedIdentifier (name : String)
deriving DecidableEq, Repr

/-- The error without the reason why a text is no type or no path. -/
def RustError.summary : RustError → String
  | missingType className property => s!"property `{property}` of `{className}` has no Rust type"
  | invalidType property type =>
    s!"property `{property}` has type `{type}`, which is not a Rust type"
  | invalidPath path _ => s!"`{path}` is not a Rust path"
  | reservedIdentifier name => s!"`{name}` cannot be used as a Rust identifier"

def RustError.message (e : RustError) : String :=
  match e with
  | invalidPath _ (some word) => s!"{e.summary}: expected identifier, found keyword `{word}`"
  | _ => e.summary

/-- What a name was given for. -/
inductive NameRole where
  | proxySegment
  | marker
  | setterParameter
deriving DecidableEq, Repr

def NameRole.text : NameRole → String
  | proxySegment => "proxy segment"
  | marker => "marker"
  | setterParameter => "setter parameter"

inductive EmissionError where
  /-- The code written for a proxy is no Rust. -/
  | unreadable
  | rust (e : RustError)
  | invalidName (role : NameRole) (name : String)
deriving DecidableEq, Repr

def EmissionError.summary : EmissionError → String
  | unreadable => "generated Rust code does not parse"
  | rust e => e.summary
  | invalidName role name => s!"{role.text} `{name}` is not a valid name"

def EmissionError.message : EmissionError → String
  | rust e => e.message
  | e => e.summary

/-- Why no proxy can be generated for a type. -/
inductive GenerationError where
  | resolution (e : ResolutionError)
  | emission (e : EmissionError)
deriving DecidableEq, Repr

namespace GenerationError

def summary : GenerationError → String
  | resolution e => e.message
  | emission e => "cannot emit proxy: " ++ e.summary

def message : GenerationError → String
  | resolution e => e.message
  | emission e => "cannot emit proxy: " ++ e.message

/-- The errors behind this one. -/
def causes : GenerationError → List String
  | resolution _ => []
  | emission e => [e.message]

def code : GenerationError → String
  | resolution _ => "docproxy::resolution"
  | emission _ => "docproxy::emission"

def help : GenerationError → String
  | resolution _ => "check the type's name, its parent chain and its property names"
  | emission _ => "Rust targets need a type for every property that receives an accessor"

end GenerationError

end LazyProxy
