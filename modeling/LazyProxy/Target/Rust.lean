import LazyProxy.Code.Item.Printer
import LazyProxy.Code.Item.Reader
import LazyProxy.Code.Item.Writer
import LazyProxy.Naming.SnakeCase
import LazyProxy.Proxy.Model
import LazyProxy.Target.Config
import LazyProxy.Target.Error
import LazyProxy.Text.Split

/-!
Proxies in Rust: structures that own a document and give access to it, with the missing accessors
and an implementation of the marker trait.
-/

namespace LazyProxy.Rust

open Code

/-- The field that holds the document. -/
def baseField : Ident := ⟨"base", false⟩

/-- The field that holds the initialization flag. -/
def flagField : Ident := ⟨"__is_initialized", false⟩

/-- A plain name. -/
def plain (name : String) : Ident := ⟨name, false⟩

/-- The identifier for a name of a document, in the raw form if it is a keyword. -/
def identifier (name : String) : Except RustError Ident :=
  if isUnrawable name then .error (.reservedIdentifier name)
  else .ok ⟨name, isRustKeyword name⟩

/-- The first word in the place of a path's segment that is no name. -/
def keywordIn? (segments : List String) : Option String :=
  segments.find? fun s =>
    reservedWords.contains s && !(["self", "Self", "super", "crate", "try"].contains s)

/-- The text of a path. Without a root of its own it starts with a double colon, so that it does not
depend on the module it is written in. -/
def pathText (segments : List String) : String :=
  let joined := Text.join "::" segments
  match segments.head? with
  | some "crate" => joined
  | some "self" => joined
  | some "super" => joined
  | _ => "::" ++ joined

/-- The path of a qualified name. -/
def path (n : QualifiedName) : Except RustError Path :=
  match Path.ofText? (pathText n.segments) with
  | some p => .ok p
  | none => .error (.invalidPath (pathText n.segments) (keywordIn? n.segments))

/-- The type of a property. -/
def propertyType (c : ProxyClass) (p : Property) : Except RustError Ty :=
  match p.type with
  | none => .error (.missingType (c.base.join "::") p.name)
  | some text =>
    match Ty.ofText? text with
    | some t => .ok t
    | none => .error (.invalidType p.name text)

/-- Documentation as an attribute. -/
def docAttribute (text : String) : Attribute :=
  ⟨.ofIdent (plain "doc"),
    .value
      (.literal false .string ("\"" ++ String.ofList (text.toList.flatMap escapeInString) ++ "\""))⟩

/-- The attribute that turns a warning off. -/
def allowAttribute (warning : String) : Attribute :=
  ⟨.ofIdent (plain "allow"), .list .paren [.word warning]⟩

/-- A type by the name of an item. -/
def named (name : Ident) : Ty :=
  .path (.ofIdent name)

/-- A path that starts with a double colon. -/
def rootedPath (names : List String) (last : Args) : Path :=
  .mk true (names.dropLast.map (fun n => .mk (plain n) .none) ++
    (names.getLast?.map fun n => .mk (plain n) last).toList)

def selfExpr : Expr :=
  .path (.ofIdent (plain "self"))

def varExpr (i : Ident) : Expr :=
  .path (.ofIdent i)

/-- A field of the value that a method is called on. -/
def selfField (i : Ident) : Expr :=
  .field selfExpr i

/-- An accessor, or an operation of the marker. -/
inductive Operation where
  | accessor (f : Function)
  | marker (f : Function)

/-- The operation of a member, if it has one. -/
def operation? (c : ProxyClass) : Member → Except RustError (Option Operation)
  | .flag => .ok none
  | .isInitialized =>
    .ok (some (.marker
      { signature :=
          { name := plain "is_initialized", receiver := some (.borrowed false),
            output := some (named (plain "bool")) }
        body := some [.expr (selfField flagField) false] }))
  | .setInitialized =>
    .ok (some (.marker
      { signature :=
          { name := plain "set_initialized", receiver := some (.borrowed true),
            params := [(plain "initialized", named (plain "bool"))] }
        body :=
          some [.expr (.assign (selfField flagField) (varExpr (plain "initialized"))) true] }))
  | .getter method p => do
    let field ← identifier p.name
    let type ← propertyType c p
    .ok (some (.accessor
      { visibility := .everyone
        signature :=
          { name := plain (snakeCase method), receiver := some (.borrowed false),
            output := some (.reference none false type) }
        body := some [.expr (.borrow false (.field (selfField baseField) field)) false] }))
  | .setter method p => do
    let field ← identifier p.name
    let type ← propertyType c p
    .ok (some (.accessor
      { visibility := .everyone
        signature :=
          { name := plain (snakeCase method), receiver := some (.borrowed true),
            params := [(field, type)] }
        body := some [.expr (.assign (.field (selfField baseField) field) (varExpr field)) true] }))

/-- The operations of members in order, up to the first that cannot be written. -/
def operations (c : ProxyClass) : List Member → Except RustError (List Operation)
  | [] => .ok []
  | m :: ms => do
    let o ← operation? c m
    let os ← operations c ms
    .ok (o.toList ++ os)

def Operation.accessor? : Operation → Option Function
  | accessor f => some f
  | marker _ => none

def Operation.marker? : Operation → Option Function
  | marker f => some f
  | accessor _ => none

/-- The structure of a proxy: the document and the flag. -/
def structItem (c : ProxyClass) (visibility : Visibility) (name : Ident) (base : Path) : Item :=
  .struct [docAttribute (" Lazy-initialization proxy for `" ++ c.base.join "::" ++ "`.")] visibility
    name
    [{ name := baseField, type := .path base }, { name := flagField, type := named (plain "bool") }]

/-- The proxy's own functions: wrapping a document, giving it back, and the accessors. -/
def inherentItem (name : Ident) (base : Path) (accessors : List Function) : Item :=
  .impl [allowAttribute "dead_code"] none (named name)
    ([.function
        { attributes := [docAttribute " Wrap a document. The proxy starts uninitialized."]
          visibility := .everyone
          signature :=
            { name := plain "new", params := [(baseField, .path base)],
              output := some (named (plain "Self")) }
          body := some [.expr (.record (.ofIdent (plain "Self"))
            [.mk baseField none, .mk flagField (some (.bool false))]) false] },
      .function
        { visibility := .everyone
          signature :=
            { name := plain "into_inner", receiver := some .owned, output := some (.path base) }
          body := some [.expr (selfField baseField) false] }] ++
      accessors.map .function)

/-- The conversion of a document. -/
def conversionItem (name : Ident) (base : Path) : Item :=
  .impl [] (some (rootedPath ["core", "convert", "From"] (.angled false [.type (.path base)])))
    (named name)
    [.function
      { signature :=
          { name := plain "from", params := [(baseField, .path base)],
            output := some (named (plain "Self")) }
        body := some [.expr (.call
          (.path (.mk false [.mk (plain "Self") .none, .mk (plain "new") .none]))
          [varExpr baseField]) false] }]

/-- The type that dereferencing gives. -/
def targetPath : Path :=
  .mk false [.mk (plain "Self") .none, .mk (plain "Target") .none]

/-- Reading access to the document. -/
def derefItem (name : Ident) (base : Path) : Item :=
  .impl [] (some (rootedPath ["core", "ops", "Deref"] .none)) (named name)
    [.type (plain "Target") (.path base),
      .function
        { signature :=
            { name := plain "deref", receiver := some (.borrowed false),
              output := some (.reference none false (.path targetPath)) }
          body := some [.expr (.borrow false (selfField baseField)) false] }]

/-- Writing access to the document. -/
def derefMutItem (name : Ident) : Item :=
  .impl [] (some (rootedPath ["core", "ops", "DerefMut"] .none)) (named name)
    [.function
      { signature :=
          { name := plain "deref_mut", receiver := some (.borrowed true),
            output := some (.reference none true (.path targetPath)) }
        body := some [.expr (.borrow true (selfField baseField)) false] }]

/-- The implementation of the marker trait. -/
def markerItem (name : Ident) (marker : Path) (functions : List Function) : Item :=
  .impl [] (some marker) (named name) (functions.map .function)

/-- The items that make up a proxy. -/
def items (c : ProxyClass) (visibility : Visibility) : Except RustError (List Item) := do
  let name ← identifier c.name
  let base ← path c.base
  let marker ← path c.marker
  let os ← operations c c.members
  .ok [structItem c visibility name base, inherentItem name base (os.filterMap Operation.accessor?),
    conversionItem name base, derefItem name base, derefMutItem name,
    markerItem name marker (os.filterMap Operation.marker?)]

/-- Items as they are read back from their tokens. -/
def readBack (is : List Item) : Except EmissionError (List Item) :=
  match readFile? (Item.tokensOfList is) with
  | some is => .ok is
  | none => .error .unreadable

/-- A line comment. -/
def commentLine (line : List Char) : String :=
  if line.isEmpty then "//\n" else "// " ++ String.ofList line ++ "\n"

/-- What a file starts with: the banner and the module that it is the body of. -/
def header (banner : String) (modulePath : String) : String :=
  String.join ((Text.lines banner.toList).map commentLine) ++
    (if modulePath = "" then "" else "// Module: " ++ modulePath ++ "\n") ++ "\n"

/-- The file of a proxy. -/
def render (c : ProxyClass) (config : Config) : Except EmissionError String := do
  let is ← (items c .everyone).mapError .rust
  let is ← readBack is
  .ok (header config.banner (Text.join "::" c.namespaceSegments) ++ fileText is)

/-- The marker trait. -/
def markerTrait (name : Ident) : Item :=
  .trait [docAttribute " Capability marker implemented by every generated proxy."] .everyone name
    [{ signature :=
        { name := plain "is_initialized", receiver := some (.borrowed false),
          output := some (named (plain "bool")) }
       body := none },
     { signature :=
        { name := plain "set_initialized", receiver := some (.borrowed true),
          params := [(plain "initialized", named (plain "bool"))] }
       body := none }]

/-- The file of the marker trait. -/
def renderMarker (config : Config) : Except EmissionError String :=
  match QualifiedName.parse? config.effectiveMarker with
  | none => .error (.invalidName .marker config.effectiveMarker)
  | some marker =>
    match Ident.ofText? marker.shortName with
    | none => .error (.invalidName .marker config.effectiveMarker)
    | some name => do
      let is ← readBack [markerTrait name]
      .ok (header config.banner (Text.join "::" marker.enclosing) ++ fileText is)

end LazyProxy.Rust
