import LazyProxy.Code.Definition
import LazyProxy.Code.Reroot
import LazyProxy.Derive.Setting
import LazyProxy.Document.Inspection
import LazyProxy.Target.Rust

/-!
The proxy of a structure as a module beside it.
-/

namespace LazyProxy

open Code

/-- Why no proxy can be derived. -/
inductive DeriveError where
  | generic
  | unnamedFields
  | noStructure
  | setting (e : SettingError)
  | resolution (e : ResolutionError)
  | rust (e : RustError)
  | invalidModule (name : String)
deriving DecidableEq, Repr

def DeriveError.message : DeriveError → String
  | generic => "Proxy cannot be derived for generic types"
  | unnamedFields => "Proxy requires a struct with named fields"
  | noStructure => "Proxy can only be derived for structs"
  | setting e => e.message
  | resolution e => e.message
  | rust e => e.message
  | invalidModule name => s!"`{name}` is not a valid module name"

namespace Derive

/-- What ends the name of a proxy's module unless another name is set. -/
def moduleSuffix : String := "_proxy"

/-- A field as the proxy sees it, one module below the structure. -/
structure DocumentField where
  property : Property
  settings : FieldSettings
deriving DecidableEq, Repr

namespace DocumentField

/-- The accessors that the structure has by itself. -/
def ownMethods (f : DocumentField) : List String :=
  (if f.settings.getter then [] else [getterName f.property.name]) ++
    (if f.settings.setter then [] else [setterName f.property.name])

end DocumentField

/-- The property of a field. Its type is written for use one module below. -/
def propertyOf (f : FieldDef) : Property :=
  { name := f.name.name, type := some (Token.textOf f.type.reroot.tokens) }

/-- The fields that are properties, in order. -/
def documentFields : List FieldDef → Except SettingError (List DocumentField)
  | [] => .ok []
  | f :: fs => do
    let settings ← fieldSettings f.attributes
    let rest ← documentFields fs
    .ok (if settings.skipped then rest else ⟨propertyOf f, settings⟩ :: rest)

/-- The structure as a document type of the enclosing module. -/
def descriptor (name : Ident) (fields : List DocumentField) : Descriptor where
  own :=
    { name := ⟨["super", name.name]⟩
      properties := fields.map (·.property)
      methods := fields.flatMap DocumentField.ownMethods }
  ancestors := []

/-- The trait that derived proxies implement. -/
def markerTrait : QualifiedName :=
  ⟨["docproxy", "ProxyInterface"]⟩

/-- Proxies of public structures are public, others are visible to the enclosing module. -/
def proxyVisibility : Visibility → Visibility
  | .everyone => .everyone
  | _ => .within false (.ofIdent ⟨"super", false⟩)

/-- The named fields of a structure without parameters. -/
def fieldsOf (d : Definition) : Except DeriveError (List FieldDef) :=
  if !d.parameters.isEmpty then .error .generic
  else
    match d.shape with
    | .record fields => .ok fields
    | .tuple _ | .unit => .error .unnamedFields
    | .enumeration _ | .union _ => .error .noStructure

/-- The module that holds the items of a proxy. What the enclosing module has is visible in it. -/
def moduleItem (name : Ident) (typeName : String) (items : List Item) : Item :=
  .module [Rust.docAttribute (" Lazy-initialization proxy for `" ++ typeName ++ "`.")] .everyone
    name
    (.importAll [Rust.allowAttribute "unused_imports"] .inherited (.ofIdent ⟨"super", false⟩) ::
      items)

/-- The proxy class of a structure in a module of the given name. -/
def proxyClass (name : Ident) (fields : List DocumentField) (moduleName : String) :
    Except ResolutionError ProxyClass := do
  let d := descriptor name fields
  let properties ← d.collectProperties
  .ok (.build d (d.plan properties) moduleName false markerTrait)

/-- The module with the proxy of a structure. -/
def expand (d : Definition) : Except DeriveError Item := do
  let fields ← fieldsOf d
  let set ← (moduleSetting? d.attributes).mapError .setting
  let fields ← (documentFields fields).mapError .setting
  let moduleName := set.getD (snakeCase d.name.name ++ moduleSuffix)
  let proxy ← (proxyClass d.name fields moduleName).mapError .resolution
  let items ← (Rust.items proxy (proxyVisibility d.visibility)).mapError .rust
  match Ident.ofText? moduleName with
  | none => .error (.invalidModule moduleName)
  | some name => .ok (moduleItem name d.name.name items)

end Derive

end LazyProxy
