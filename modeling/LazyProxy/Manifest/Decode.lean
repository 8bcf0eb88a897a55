import LazyProxy.Json.Reader
import LazyProxy.Manifest.Basic
import LazyProxy.Manifest.Error

/-!
Manifests from JSON. Types may be written as objects or as arrays of their fields in order. The
first thing wrong in the text is reported.
-/

namespace LazyProxy

open Json

abbrev Decoded := Except MisfitAt

def failAt {α : Type} (m : Misfit) (p : Place) : Decoded α :=
  .error ⟨m, p⟩

/-- Fails with a fault of the text, if there is one. -/
def noFault : Option Fault → Decoded Unit
  | none => .ok ()
  | some f => failAt (.fault f.reason) f.place

/-- The failure at a value of the wrong kind. What is wrong inside an array or an object comes after
that. -/
def wrongKind {α : Type} (expected : Schema) : Node → Decoded α
  | .null after => failAt (.wrongKind .null expected) after
  | .bool b after => failAt (.wrongKind (.bool b) expected) after
  | .number n after => failAt (.wrongKind (.number n) expected) after
  | .string s after => failAt (.wrongKind (.string s) expected) after
  | .array start _ _ => failAt (.wrongKind .array expected) start
  | .object start _ _ => failAt (.wrongKind .object expected) start
  | .broken f => failAt (.fault f.reason) f.place

def decodeText : Node → Decoded String
  | .string s _ => .ok s
  | node => wrongKind .text node

/-- A text, or null for none. -/
def decodeOptional : Node → Decoded (Option String)
  | .null _ => .ok none
  | node => (decodeText node).map some

/-- The elements in order, then the fault in the array if there is one. -/
def decodeElements {α : Type} (decode : Element → Decoded α) (ending : Ending) :
    List Element → Decoded (List α)
  | [] => (noFault ending.fault?).map fun _ => []
  | e :: es => do
    let a ← decode e
    let as ← decodeElements decode ending es
    .ok (a :: as)

def decodeList {α : Type} (decode : Element → Decoded α) : Node → Decoded (List α)
  | .array _ elems ending => decodeElements decode ending elems
  | node => wrongKind .list node

/-- The only field of a name. -/
def theField? (name : String) (fields : List Field) : Option (Option Node) :=
  match fields.filterMap fun | .mk n _ value => if n = name then some value else none with
  | [] => some none
  | [value] => some (some value)
  | _ => none

/-- A property without faults in it: a text, or an object with a name and maybe a type. Other fields
are passed over. -/
def propertyEntry? : Node → Option PropertyEntry
  | .string s _ => some (.name s)
  | .object _ fields _ =>
    match theField? "name" fields, theField? "type" fields with
    | some (some (.string name _)), some none => some (.typed name none)
    | some (some (.string name _)), some (some (.null _)) => some (.typed name none)
    | some (some (.string name _)), some (some (.string type _)) => some (.typed name (some type))
    | _, _ => none
  | _ => none

def decodeProperty : Element → Decoded PropertyEntry
  | .mk node closing => do
    noFault node.fault?
    match propertyEntry? node with
    | some p => .ok p
    | none => failAt .badProperty closing.place

def decodeMethod : Element → Decoded String
  | .mk node _ => decodeText node

/-- The fields of a type as far as they have been read. -/
structure PartialEntry where
  name : Option String := none
  parent : Option (Option String) := none
  properties : Option (List PropertyEntry) := none
  methods : Option (List String) := none

/-- Takes one more field, which may not have been there before. -/
def PartialEntry.add (e : PartialEntry) : Field → Decoded PartialEntry
  | .mk name after value =>
    let once {α : Type} (old : Option α) (new : Decoded PartialEntry) : Decoded PartialEntry :=
      if old.isSome then failAt (.duplicateField name) after else new
    match name with
    | "name" => once e.name ((decodeText value).map fun s => { e with name := some s })
    | "extends" => once e.parent ((decodeOptional value).map fun s => { e with parent := some s })
    | "properties" =>
      once e.properties
        ((decodeList decodeProperty value).map fun ps => { e with properties := some ps })
    | "methods" =>
      once e.methods ((decodeList decodeMethod value).map fun ms => { e with methods := some ms })
    | _ => failAt (.unknownField name .typeEntry) after

def PartialEntry.addAll (e : PartialEntry) : List Field → Decoded PartialEntry
  | [] => .ok e
  | f :: fs => do (← e.add f).addAll fs

/-- The place behind what ends without a fault. -/
def placeBehind : Ending → Decoded Place
  | .closed after => .ok after
  | .faulty f => failAt (.fault f.reason) f.place

/-- A type given by its fields. -/
def decodeEntryFields (fields : List Field) (ending : Ending) : Decoded TypeEntry := do
  let e ← ({} : PartialEntry).addAll fields
  let after ← placeBehind ending
  match e.name with
  | none => failAt (.missingField "name") after
  | some name =>
    .ok
      { name
        parent := e.parent.getD none
        properties := e.properties.getD []
        methods := e.methods.getD [] }

/-- A type given by the values of its fields, of which the last ones may be missing. -/
def decodeEntryElements (elems : List Element) (ending : Ending) : Decoded TypeEntry :=
  match elems with
  | [] => do failAt .emptyEntry (← placeBehind ending)
  | .mk name _ :: elems => do
    let name ← decodeText name
    match elems with
    | [] => (noFault ending.fault?).map fun _ => { name }
    | .mk parent _ :: elems => do
      let parent ← decodeOptional parent
      match elems with
      | [] => (noFault ending.fault?).map fun _ => { name, parent }
      | .mk properties _ :: elems => do
        let properties ← decodeList decodeProperty properties
        match elems with
        | [] => (noFault ending.fault?).map fun _ => { name, parent, properties }
        | .mk methods closing :: _ => do
          let methods ← decodeList decodeMethod methods
          noFault closing.fault?
          .ok { name, parent, properties, methods }

def decodeEntry : Element → Decoded TypeEntry
  | .mk node _ =>
    match node with
    | .object _ fields ending => decodeEntryFields fields ending
    | .array _ elems ending => decodeEntryElements elems ending
    | node => wrongKind .typeEntry node

/-- The types of a manifest given by its fields. `types` holds those read so far. -/
def decodeTypes (types : Option (List TypeEntry)) : List Field → Decoded (Option (List TypeEntry))
  | [] => .ok types
  | .mk name after value :: fs =>
    if name ≠ "types" then failAt (.unknownField name .manifest) after
    else if types.isSome then failAt (.duplicateField name) after
    else do
      let ts ← decodeList decodeEntry value
      decodeTypes (some ts) fs

namespace Manifest

/-- A manifest from the tree of its text. -/
def ofNode (node : Node) : Decoded Manifest :=
  match node with
  | .object _ fields ending => do
    let types ← decodeTypes none fields
    noFault ending.fault?
    .ok { types := types.getD [] }
  | .array _ [] ending => (noFault ending.fault?).map fun _ => {}
  | .array _ (.mk types closing :: _) _ => do
    let types ← decodeList decodeEntry types
    noFault closing.fault?
    .ok { types }
  | node => wrongKind .manifest node

def ofDocument (d : Document) : Decoded Manifest := do
  let m ← ofNode d.root
  noFault d.trailing
  .ok m

/-- A manifest from its text. -/
def ofText (text : String) : Except ManifestError Manifest :=
  let cs := text.toList
  (ofDocument (.ofText cs)).mapError fun e => .misfit e.misfit (e.place.position cs)

/-- The types that a text declares. -/
def registryOfText (text : String) : Except ManifestError Registry := do
  let m ← ofText text
  m.registry.mapError .duplicateType

end Manifest

end LazyProxy
