import LazyProxy.Code.Item
import LazyProxy.Code.Reader

/-!
Reading tokens as items.
-/

namespace LazyProxy.Code

/-- The segments of a path without arguments. -/
def readPlainSegments : Nat → List Token → Option (List Segment × List Token)
  | 0, _ => none
  | n + 1, ts =>
    match ts with
    | .ident i :: ts =>
      if i.isName || i.isPathRoot then
        match after? "::" ts with
        | none => some ([.mk i .none], ts)
        | some ts => do
          let (ss, ts) ← readPlainSegments n ts
          some (.mk i .none :: ss, ts)
      else none
    | _ => none

/-- A path without arguments. -/
def readPlainPath (ts : List Token) : Option (Path × List Token) :=
  match after? "::" ts with
  | some ts => (readPlainSegments ts.length ts).map fun (ss, rest) => (.mk true ss, rest)
  | none => (readPlainSegments ts.length ts).map fun (ss, rest) => (.mk false ss, rest)

/-- What stands between the brackets of an attribute. -/
def readAttribute (ts : List Token) : Option Attribute := do
  let (p, ts) ← match ts with
    | .ident ⟨"unsafe", false⟩ :: ts => some (Path.ofIdent ⟨"unsafe", false⟩, ts)
    | ts => readPlainPath ts
  match ts with
  | [] => some ⟨p, .bare⟩
  | [.group d body] => some ⟨p, .list d body⟩
  | ts => do
    let ts ← after? "=" ts
    match ← readExpr (readingDepth ts) 0 ts with
    | (e, []) => some ⟨p, .value e⟩
    | _ => none

/-- The attributes in front of an item. -/
def readAttributes : List Token → Option (List Attribute × List Token)
  | .punct '#' joint :: .group .bracket body :: ts => do
    if joint then none
    let a ← readAttribute body
    let (as, rest) ← readAttributes ts
    some (a :: as, rest)
  | ts => some ([], ts)

/-- A visibility, which may be missing. Parentheses that name no module belong to what follows. -/
def readVisibility (ts : List Token) : Option (Visibility × List Token) :=
  match afterWord? "pub" ts with
  | none => some (.inherited, ts)
  | some (.group .paren body :: rest) =>
    match body with
    | [.ident i] =>
      if i == ⟨"crate", false⟩ || i == ⟨"self", false⟩ || i == ⟨"super", false⟩ then
        some (.within false (.ofIdent i), rest)
      else some (.everyone, .group .paren body :: rest)
    | .ident ⟨"in", false⟩ :: path => do
      match ← readPlainPath path with
      | (p, []) => some (.within true p, rest)
      | _ => none
    | _ => some (.everyone, .group .paren body :: rest)
  | some rest => some (.everyone, rest)

/-- Named fields with commas between them, to the end of the tokens. -/
def readFields : Nat → List Token → Option (List FieldDef)
  | 0, _ => none
  | n + 1, ts =>
    match ts with
    | [] => some []
    | _ => do
      let (attributes, ts) ← readAttributes ts
      let (visibility, ts) ← readVisibility ts
      let (name, ts) ← match ts with
        | .ident ⟨"_", false⟩ :: ts => some (⟨"_", false⟩, ts)
        | ts => readName ts
      let ts ← after? ":" ts
      let (type, ts) ← readTy (readingDepth ts) true ts
      let field := ⟨attributes, visibility, name, type⟩
      match ts with
      | [] => some [field]
      | _ => do
        let ts ← after? "," ts
        let fields ← readFields n ts
        some (field :: fields)

/-- How a method takes its value, if the parameters start with that. What follows it may start with
a comma. -/
def readReceiver (ts : List Token) : Option Receiver × List Token :=
  let ends (rest : List Token) : Bool := rest.isEmpty || startsWith "," rest
  match ts with
  | .ident ⟨"self", false⟩ :: rest => if ends rest then (some .owned, rest) else (none, ts)
  | .punct '&' _ :: .ident ⟨"self", false⟩ :: rest =>
    if ends rest then (some (.borrowed false), rest) else (none, ts)
  | .punct '&' _ :: .ident ⟨"mut", false⟩ :: .ident ⟨"self", false⟩ :: rest =>
    if ends rest then (some (.borrowed true), rest) else (none, ts)
  | _ => (none, ts)

/-- Named parameters with commas between them, to the end of the tokens. -/
def readNamedParams : Nat → List Token → Option (List (Ident × Ty))
  | 0, _ => none
  | n + 1, ts =>
    match ts with
    | [] => some []
    | _ => do
      let (i, ts) ← readName ts
      let ts ← after? ":" ts
      let (t, ts) ← readTy (readingDepth ts) true ts
      match ts with
      | [] => some [(i, t)]
      | _ => do
        let ts ← after? "," ts
        let params ← readNamedParams n ts
        some ((i, t) :: params)

def readSignature (ts : List Token) : Option (Signature × List Token) := do
  let ts ← afterWord? "fn" ts
  let (name, ts) ← readName ts
  match ts with
  | .group .paren body :: ts => do
    let (receiver, body) := readReceiver body
    let body ← match body, receiver with
      | [], _ => some []
      | _, none => some body
      | _, some _ => after? "," body
    let params ← readNamedParams (body.length + 1) body
    let (output, ts) ← readOutput (readingDepth ts) true ts
    some (⟨name, receiver, params, output⟩, ts)
  | _ => none

def readFunction (ts : List Token) : Option (Function × List Token) := do
  let (attributes, ts) ← readAttributes ts
  let (visibility, ts) ← readVisibility ts
  let (signature, ts) ← readSignature ts
  match ts with
  | .group .brace body :: ts => do
    let body ← readStmts (readingDepth body) body
    some (⟨attributes, visibility, signature, some body⟩, ts)
  | _ => do
    let ts ← after? ";" ts
    some (⟨attributes, visibility, signature, none⟩, ts)

/-- The members of an implementation, to the end of the tokens. -/
def readImplMembers : Nat → List Token → Option (List ImplMember)
  | 0, _ => none
  | n + 1, ts =>
    match ts with
    | [] => some []
    | .ident ⟨"type", false⟩ :: ts => do
      let (i, ts) ← readName ts
      let ts ← after? "=" ts
      let (t, ts) ← readTy (readingDepth ts) true ts
      let ts ← after? ";" ts
      let members ← readImplMembers n ts
      some (.type i t :: members)
    | _ => do
      let (f, ts) ← readFunction ts
      if f.body.isNone then none
      let members ← readImplMembers n ts
      some (.function f :: members)

/-- The functions of a trait, to the end of the tokens. -/
def readFunctions : Nat → List Token → Option (List Function)
  | 0, _ => none
  | n + 1, ts =>
    match ts with
    | [] => some []
    | _ => do
      let (f, ts) ← readFunction ts
      let fs ← readFunctions n ts
      some (f :: fs)

/-- The path of an import of everything, up to the star. -/
def readGlob : Nat → List Token → Option (List Segment × List Token)
  | 0, _ => none
  | n + 1, ts =>
    match ts with
    | .ident i :: ts =>
      if i.isName || i.isPathRoot then do
        let ts ← after? "::" ts
        match after? "*" ts with
        | some ts => some ([.mk i .none], ts)
        | none => do
          let (ss, ts) ← readGlob n ts
          some (.mk i .none :: ss, ts)
      else none
    | _ => none

/-- Items to the end of the tokens. -/
def readItems : Nat → List Token → Option (List Item)
  | 0, _ => none
  | n + 1, ts =>
    match ts with
    | [] => some []
    | _ => do
      let (attributes, ts) ← readAttributes ts
      let (visibility, ts) ← readVisibility ts
      let (item, ts) ← match ts with
        | .ident ⟨"struct", false⟩ :: ts => do
          match ← readName ts with
          | (name, .group .brace body :: ts) => do
            let fields ← readFields (body.length + 1) body
            some (Item.struct attributes visibility name fields, ts)
          | _ => none
        | .ident ⟨"impl", false⟩ :: ts => do
          let (first, ts) ← readTy (readingDepth ts) true ts
          let (trait, self, ts) ← match afterWord? "for" ts with
            | none => some (none, first, ts)
            | some ts => do
              let (self, ts) ← readTy (readingDepth ts) true ts
              match first with
              | .path p => some (some p, self, ts)
              | _ => none
          match ts with
          | .group .brace body :: ts => do
            let members ← readImplMembers (body.length + 1) body
            some (.impl attributes trait self members, ts)
          | _ => none
        | .ident ⟨"trait", false⟩ :: ts => do
          match ← readName ts with
          | (name, .group .brace body :: ts) => do
            let functions ← readFunctions (body.length + 1) body
            some (.trait attributes visibility name functions, ts)
          | _ => none
        | .ident ⟨"mod", false⟩ :: ts => do
          match ← readName ts with
          | (name, .group .brace body :: ts) => do
            let items ← readItems n body
            some (.module attributes visibility name items, ts)
          | _ => none
        | .ident ⟨"use", false⟩ :: ts => do
          let (rooted, ts) := match after? "::" ts with
            | some ts => (true, ts)
            | none => (false, ts)
          let (segments, ts) ← readGlob (ts.length + 1) ts
          let ts ← after? ";" ts
          some (.importAll attributes visibility (.mk rooted segments), ts)
        | _ => none
      let items ← readItems n ts
      some (item :: items)

/-- Reads the tokens of a file as its items. -/
def readFile? (ts : List Token) : Option (List Item) :=
  readItems (Token.countAll ts + 1) ts

/-- Reads a text as a visibility. -/
def Visibility.ofText? (text : String) : Option Visibility := do
  match ← readVisibility (← tokens? text) with
  | (v, []) => some v
  | _ => none

end LazyProxy.Code
