import LazyProxy.Code.Item.Reader

/-!
Definitions of types: structures, enumerations and unions. Bounds and defaults of their parameters
are read over.
-/

namespace LazyProxy.Code

inductive Parameter where
  | lifetime (name : Ident)
  | type (name : Ident)
  | const (name : Ident) (type : Ty)

/-- What the values of a type consist of. -/
inductive Shape where
  | record (fields : List FieldDef)
  | tuple (types : List Ty)
  | unit
  | enumeration (variants : List Ident)
  | union (fields : List FieldDef)

structure Definition where
  attributes : List Attribute := []
  visibility : Visibility := .inherited
  name : Ident
  parameters : List Parameter := []
  shape : Shape

/-- What follows lifetimes with plus signs between them. -/
def dropLifetimes : List Token → List Token
  | .lifetime _ :: .punct '+' _ :: ts => dropLifetimes ts
  | .lifetime _ :: ts => ts
  | ts => ts

def startsWithBrace : List Token → Bool
  | .group .brace _ :: _ => true
  | _ => false

/-- Whether a list of bounds or predicates is over. -/
def endsBounds (ts : List Token) : Bool :=
  ts.isEmpty || startsWithBrace ts || startsWith "," ts || startsWith ";" ts || startsWith "=" ts ||
    startsWith ">" ts || (startsWith ":" ts && !startsWith "::" ts)

/-- What follows bounds with plus signs between them. There may be none. -/
def dropBounds : Nat → List Token → Option (List Token)
  | 0, _ => none
  | n + 1, ts =>
    if endsBounds ts then some ts
    else do
      let (_, ts) ← readBound (readingDepth ts) ts
      match after? "+" ts with
      | none => some ts
      | some ts => dropBounds n ts

/-- A default for a constant: a literal, a block or a name. -/
def dropConstant (ts : List Token) : Option (List Token) :=
  match readConst (readingDepth ts) ts with
  | some (_, ts) => some ts
  | none => (readName ts).map (·.2)

def readParameter (ts : List Token) : Option (Parameter × List Token) := do
  let (_, ts) ← readAttributes ts
  match ts with
  | .lifetime i :: ts =>
    match after? ":" ts with
    | none => some (.lifetime i, ts)
    | some ts => some (.lifetime i, dropLifetimes ts)
  | .ident ⟨"const", false⟩ :: ts => do
    let (i, ts) ← readName ts
    let ts ← after? ":" ts
    let (t, ts) ← readTy (readingDepth ts) true ts
    match after? "=" ts with
    | none => some (.const i t, ts)
    | some ts => (dropConstant ts).map (.const i t, ·)
  | .ident ⟨"_", false⟩ :: ts => some (.type ⟨"_", false⟩, ts)
  | _ => do
    let (i, ts) ← readName ts
    let ts ← match after? ":" ts with
      | none => some ts
      | some ts => dropBounds (ts.length + 1) ts
    match after? "=" ts with
    | none => some (.type i, ts)
    | some ts => (readTy (readingDepth ts) true ts).map fun (_, ts) => (.type i, ts)

/-- Parameters with commas between them, up to the closing angle bracket. -/
def readParametersToEnd : Nat → List Token → Option (List Parameter × List Token)
  | 0, _ => none
  | n + 1, ts =>
    match after? ">" ts with
    | some ts => some ([], ts)
    | none => do
      let (p, ts) ← readParameter ts
      match after? ">" ts with
      | some ts => some ([p], ts)
      | none => do
        let ts ← after? "," ts
        let (ps, ts) ← readParametersToEnd n ts
        some (p :: ps, ts)

/-- The parameters of a type, which may be missing. -/
def readParameters (ts : List Token) : Option (List Parameter × List Token) :=
  match after? "<" ts with
  | none => some ([], ts)
  | some ts => readParametersToEnd (ts.length + 1) ts

/-- What follows a condition on a lifetime or on a type. -/
def dropPredicate (ts : List Token) : Option (List Token) :=
  match ts with
  | .lifetime _ :: .punct ':' _ :: ts => some (dropLifetimes ts)
  | _ => do
    let (_, ts) ← readBinder ts
    let (_, ts) ← readTy (readingDepth ts) true ts
    let ts ← after? ":" ts
    dropBounds (ts.length + 1) ts

def dropPredicates : Nat → List Token → Option (List Token)
  | 0, _ => none
  | n + 1, ts =>
    if endsBounds ts then some ts
    else do
      let ts ← dropPredicate ts
      match after? "," ts with
      | none => some ts
      | some ts => dropPredicates n ts

/-- What follows the conditions on parameters, and whether there are any. -/
def dropWhere (ts : List Token) : Option (Bool × List Token) :=
  match afterWord? "where" ts with
  | none => some (false, ts)
  | some ts => (dropPredicates (ts.length + 1) ts).map (true, ·)

/-- The types of unnamed fields with commas between them, to the end of the tokens. -/
def readUnnamedFields : Nat → List Token → Option (List Ty)
  | 0, _ => none
  | n + 1, ts =>
    match ts with
    | [] => some []
    | _ => do
      let (_, ts) ← readAttributes ts
      let (_, ts) ← readVisibility ts
      let (t, ts) ← readTy (readingDepth ts) true ts
      match ts with
      | [] => some [t]
      | _ => do
        let ts ← after? "," ts
        let types ← readUnnamedFields n ts
        some (t :: types)

/-- What follows the fields and the number of a variant. -/
def dropVariantBody (ts : List Token) : Option (List Token) := do
  let ts ← match ts with
    | .group .brace body :: ts => (readFields (body.length + 1) body).map fun _ => ts
    | .group .paren body :: ts => (readUnnamedFields (body.length + 1) body).map fun _ => ts
    | ts => some ts
  match after? "=" ts with
  | none => some ts
  | some ts => (readExpr (readingDepth ts) 0 ts).map (·.2)

/-- Variants with commas between them, to the end of the tokens. -/
def readVariants : Nat → List Token → Option (List Ident)
  | 0, _ => none
  | n + 1, ts =>
    match ts with
    | [] => some []
    | _ => do
      let (_, ts) ← readAttributes ts
      let (_, ts) ← readVisibility ts
      let (i, ts) ← readName ts
      let ts ← dropVariantBody ts
      match ts with
      | [] => some [i]
      | _ => do
        let ts ← after? "," ts
        let variants ← readVariants n ts
        some (i :: variants)

/-- The fields of a structure, from behind its parameters. -/
def readRecordShape (ts : List Token) : Option (Shape × List Token) := do
  let (conditioned, ts) ← dropWhere ts
  match ts with
  | .group .brace body :: ts =>
    (readFields (body.length + 1) body).map fun fields => (.record fields, ts)
  | .group .paren body :: ts =>
    if conditioned then none
    else do
      let types ← readUnnamedFields (body.length + 1) body
      let (_, ts) ← dropWhere ts
      let ts ← after? ";" ts
      some (.tuple types, ts)
  | ts => (after? ";" ts).map (.unit, ·)

/-- The body of an enumeration or a union, from behind its parameters. -/
def readBraced {α : Type} (read : Nat → List Token → Option α) (ts : List Token) :
    Option (α × List Token) := do
  let (_, ts) ← dropWhere ts
  match ts with
  | .group .brace body :: ts => (read (body.length + 1) body).map (·, ts)
  | _ => none

def readDefinition (ts : List Token) : Option (Definition × List Token) := do
  let (attributes, ts) ← readAttributes ts
  let (visibility, ts) ← readVisibility ts
  match ts with
  | .ident ⟨keyword, false⟩ :: ts => do
    let (name, ts) ← readName ts
    let (parameters, ts) ← readParameters ts
    let (shape, ts) ← match keyword with
      | "struct" => readRecordShape ts
      | "enum" => (readBraced readVariants ts).map fun (vs, ts) => (.enumeration vs, ts)
      | "union" => (readBraced readFields ts).map fun (fs, ts) => (.union fs, ts)
      | _ => none
    some (⟨attributes, visibility, name, parameters, shape⟩, ts)
  | _ => none

/-- Reads a text as the definition of a type. -/
def Definition.ofText? (text : String) : Option Definition := do
  match ← readDefinition (← tokens? text) with
  | (d, []) => some d
  | _ => none

end LazyProxy.Code
