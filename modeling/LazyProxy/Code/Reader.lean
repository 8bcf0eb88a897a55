import LazyProxy.Code.Lexer
import LazyProxy.Code.Tree
import LazyProxy.Naming.Identifier

/-!
Reading tokens as syntax trees of types and expressions. A reader gives the tree and the tokens that
follow it. Its first argument bounds the depth of the recursion. What the trees have no form for is not
read.
-/

namespace LazyProxy.Code

/-- What follows an operator. All its characters but the last have to be joint. -/
def dropOperator? : List Char → List Token → Option (List Token)
  | [], ts => some ts
  | [c], .punct d _ :: ts => if c = d then some ts else none
  | c :: cs, .punct d true :: ts => if c = d then dropOperator? cs ts else none
  | _, _ => none

/-- What follows the operator, if it is first. -/
def after? (operator : String) (ts : List Token) : Option (List Token) :=
  dropOperator? operator.toList ts

def startsWith (operator : String) (ts : List Token) : Bool :=
  (after? operator ts).isSome

/-- What follows the word, if it is first and not in the raw form. -/
def afterWord? (name : String) : List Token → Option (List Token)
  | .ident ⟨n, false⟩ :: ts => if n = name then some ts else none
  | _ => none

def startsWithWord (name : String) (ts : List Token) : Bool :=
  (afterWord? name ts).isSome

/-- Words that are no names unless they are in the raw form. -/
def reservedWords : List String :=
  ["_", "self", "Self"] ++ rustKeywords.filter (· != "gen")

def Ident.isName (i : Ident) : Bool :=
  i.raw || !reservedWords.contains i.name

/-- A word that takes the place of a path's first segments. -/
def Ident.isPathRoot (i : Ident) : Bool :=
  !i.raw && ["self", "Self", "super", "crate"].contains i.name

def readName : List Token → Option (Ident × List Token)
  | .ident i :: ts => if i.isName then some (i, ts) else none
  | _ => none

/-- Whether a path may start here. -/
def startsPath (ts : List Token) : Bool :=
  match ts with
  | .ident i :: _ => i.isName || i.isPathRoot
  | _ => startsWith "::" ts || startsWith "<" ts

/-- Whether another bound may follow a plus sign. -/
def startsBound (ts : List Token) : Bool :=
  match ts with
  | .ident _ :: _ => true
  | .lifetime _ :: _ => true
  | .group .paren _ :: _ => true
  | _ => startsWith "::" ts || startsWith "?" ts

/-- The lifetimes between the angle brackets of a binder. -/
def readLifetimes : List Token → Option (List Ident × List Token)
  | .lifetime i :: .punct ',' _ :: ts =>
    (readLifetimes ts).map fun (is, rest) => (i :: is, rest)
  | .lifetime i :: .punct '>' _ :: ts => some ([i], ts)
  | .punct '>' _ :: ts => some ([], ts)
  | _ => none

/-- A binder such as `for<'a>`, which may be missing. -/
def readBinder (ts : List Token) : Option (Option (List Ident) × List Token) :=
  match afterWord? "for" ts with
  | none => some (none, ts)
  | some ts => do
    let ts ← after? "<" ts
    let (is, ts) ← readLifetimes ts
    some (some is, ts)

/-- A literal, a Boolean or a negative number. -/
def readLiteral : List Token → Option (Expr × List Token)
  | .literal kind text :: ts => some (.literal false kind text, ts)
  | .ident ⟨"true", false⟩ :: ts => some (.bool true, ts)
  | .ident ⟨"false", false⟩ :: ts => some (.bool false, ts)
  | .punct '-' _ :: .literal kind text :: ts =>
    if kind == .integer || kind == .float then some (.literal true kind text, ts) else none
  | _ => none

/-- A linkage such as `extern "C"`, which may be missing. -/
def readAbi (ts : List Token) : Option (Option String) × List Token :=
  match afterWord? "extern" ts with
  | none => (none, ts)
  | some (.literal .string name :: ts) => (some (some name), ts)
  | some ts => (some none, ts)

/-- Operators between two operands in the order in which they are looked for, with the tightness of
their binding. -/
def binaryOperators : List (String × Nat) :=
  [("<<=", 1), (">>=", 1), ("+=", 1), ("-=", 1), ("*=", 1), ("/=", 1), ("%=", 1), ("^=", 1),
    ("&=", 1), ("|=", 1), ("&&", 4), ("||", 3), ("<<", 9), (">>", 9), ("==", 5), ("<=", 5),
    ("!=", 5), (">=", 5), ("+", 10), ("-", 10), ("*", 11), ("/", 11), ("%", 11), ("^", 7), ("&", 8),
    ("|", 6), ("<", 5), (">", 5)]

namespace Tightness

def assignment : Nat := 1
def comparison : Nat := 5
def conversion : Nat := 12

end Tightness

/-- The operator between two operands, with its tightness and what follows it. -/
def readBinaryOperator (ts : List Token) : Option (String × Nat × List Token) :=
  binaryOperators.findSome? fun (op, tightness) => (after? op ts).map (op, tightness, ·)

/-- How tightly what comes next binds, zero if it does not continue an expression. -/
def nextTightness (ts : List Token) : Nat :=
  match readBinaryOperator ts with
  | some (_, tightness, _) => tightness
  | none =>
    if startsWith "=" ts && !startsWith "=>" ts then Tightness.assignment
    else if startsWithWord "as" ts then Tightness.conversion
    else 0

def isComparison : Expr → Bool
  | .binary op _ _ => ["==", "<=", "!=", ">=", "<", ">"].contains op
  | _ => false

/-- Whether a conversion may not be followed by this. -/
def continuesOperand (ts : List Token) : Bool :=
  match ts with
  | .group .paren _ :: _ => true
  | .group .bracket _ :: _ => true
  | _ => startsWith "?" ts || (startsWith "." ts && !startsWith ".." ts)

/-- The bound for a parenthesized type in front of a plus sign, if there is one. -/
def Ty.parenthesizedBound? : Ty → Option Bound
  | .path p => some (.trait true none false p)
  | .traitObject false [.trait _ binder relaxed p] false => some (.trait true binder relaxed p)
  | .traitObject false [.lifetime i] false => some (.lifetime i)
  | _ => none

def Bound.isTrait : Bound → Bool
  | .trait .. => true
  | .lifetime _ => false

/-- The path with arguments in parentheses at its last segment, which has none so far. -/
def Path.withCall? : Path → List Ty → Option Ty → Option Path
  | .mk rooted segments, inputs, output =>
    match segments.reverse with
    | .mk i .none :: before =>
      some (.mk rooted (before.reverse ++ [.mk i (.parenthesized inputs output)]))
    | _ => none

def Path.lastTakesNone : Path → Bool
  | .mk _ segments =>
    match segments.getLast? with
    | some (.mk _ .none) => true
    | _ => false

/-- The group that holds a trait's arguments in parentheses, with what follows it. -/
def callArguments? : List Token → Option (List Token × List Token)
  | .group .paren body :: ts => some (body, ts)
  | .punct ':' true :: .punct ':' _ :: .group .paren body :: ts => some (body, ts)
  | _ => none

/-- Whether the third token is the character. -/
def thirdIs (c : Char) : List Token → Bool
  | _ :: _ :: .punct d _ :: _ => c == d
  | _ => false

def thirdIsParen : List Token → Bool
  | _ :: _ :: .group .paren _ :: _ => true
  | _ => false

/-- The tokens behind the exclamation mark of a macro call with this path. -/
def behindBang? (p : Path) (ts : List Token) : Option (List Token) :=
  if startsWith "!" ts && !startsWith "!=" ts && p.isPlain then after? "!" ts else none

mutual

/-- A type. `plus` tells whether it may be a sum of bounds. -/
def readTy : Nat → Bool → List Token → Option (Ty × List Token)
  | 0, _, _ => none
  | n + 1, plus, ts => do
    let (binder, ts) ← readBinder ts
    match ts with
    | .group .paren body :: rest =>
      if binder.isSome then none else readParenthesized n plus body rest
    | .group .bracket body :: rest =>
      if binder.isSome then none
      else
        let (elem, body) ← readTy n true body
        match body with
        | [] => some (.slice elem, rest)
        | _ =>
          let body ← after? ";" body
          match ← readExpr n 0 body with
          | (length, []) => some (.array elem length, rest)
          | _ => none
    | .lifetime _ :: _ =>
      if binder.isSome then none
      else
        let (bounds, trailing, ts) ← readBounds n true ts
        if bounds.any Bound.isTrait then some (.traitObject false bounds trailing, ts) else none
    | .ident ⟨"fn", false⟩ :: _ => readFunctionTy n binder ts
    | .ident ⟨"unsafe", false⟩ :: _ => readFunctionTy n binder ts
    | .ident ⟨"extern", false⟩ :: _ => readFunctionTy n binder ts
    | .ident ⟨"dyn", false⟩ :: rest =>
      if binder.isSome then none
      else
        let (bounds, trailing, ts) ← readBounds n plus rest
        if bounds.any Bound.isTrait then some (.traitObject true bounds trailing, ts) else none
    | .ident ⟨"impl", false⟩ :: rest =>
      if binder.isSome then none
      else
        let (bounds, trailing, ts) ← readBounds n plus rest
        if bounds.any Bound.isTrait then some (.implTrait bounds trailing, ts) else none
    | .ident ⟨"_", false⟩ :: rest => if binder.isSome then none else some (.infer, rest)
    | .punct '*' _ :: rest =>
      if binder.isSome then none
      else
        match rest with
        | .ident ⟨"const", false⟩ :: rest =>
          let (target, rest) ← readTy n false rest
          some (.pointer false target, rest)
        | .ident ⟨"mut", false⟩ :: rest =>
          let (target, rest) ← readTy n false rest
          some (.pointer true target, rest)
        | _ => none
    | .punct '&' _ :: rest =>
      if binder.isSome then none
      else
        let (lifetime, rest) := match rest with
          | .lifetime i :: rest => (some i, rest)
          | _ => (none, rest)
        let (mutable, rest) := match afterWord? "mut" rest with
          | some rest => (true, rest)
          | none => (false, rest)
        let (target, rest) ← readTy n false rest
        some (.reference lifetime mutable target, rest)
    | .punct '!' _ :: rest => if binder.isSome then none else some (.never, rest)
    | _ =>
      if !startsPath ts || (binder.isSome && (startsWith "::" ts || startsWith "<" ts)) then none
      else readPathTy n plus binder ts

/-- A type in parentheses: a tuple, a type for itself, or the first bound of a sum. -/
def readParenthesized : Nat → Bool → List Token → List Token → Option (Ty × List Token)
  | 0, _, _, _ => none
  | n + 1, plus, body, rest =>
    match body with
    | [] => some (.tuple [], rest)
    | .lifetime _ :: _ => do
      match ← readBounds n true body with
      | (bounds, trailing, []) =>
        if bounds.any Bound.isTrait then some (.paren (.traitObject false bounds trailing), rest)
        else none
      | _ => none
    | .punct '?' _ :: _ => do
      match ← readTraitBound n true body with
      | (b, []) => do
        let (bs, rest) ← readFurtherBounds n rest
        some (.traitObject false (b :: bs) false, rest)
      | _ => none
    | _ => do
      match ← readTy n true body with
      | (first, []) =>
        match (if plus && startsWith "+" rest then first.parenthesizedBound? else none) with
        | some b => do
          let (bs, rest) ← readFurtherBounds n rest
          some (.traitObject false (b :: bs) false, rest)
        | none => some (.paren first, rest)
      | (first, body) => do
        let body ← after? "," body
        let (others, _) ← readTys n body
        some (.tuple (first :: others), rest)

/-- Types with commas between them, to the end of the tokens. -/
def readTys : Nat → List Token → Option (List Ty × List Token)
  | 0, _ => none
  | n + 1, ts =>
    match ts with
    | [] => some ([], [])
    | _ => do
      match ← readTy n true ts with
      | (t, []) => some ([t], [])
      | (t, ts) => do
        let ts ← after? "," ts
        let (others, _) ← readTys n ts
        some (t :: others, [])

/-- A type that starts with a path: the path itself, a macro call or a sum of bounds. Only as a bound of
its own does a path take arguments in parentheses, as in `dyn Fn(u8)`. Without `dyn`, `Fn(u8)` is no type.
-/
def readPathTy : Nat → Bool → Option (List Ident) → List Token → Option (Ty × List Token)
  | 0, _, _, _ => none
  | n + 1, plus, binder, ts => do
    match ← readQualified n false ts with
    | (.inr (self, position, p), ts) => some (.qualified self position p, ts)
    | (.inl p, ts) =>
      match behindBang? p ts with
      | some (.group d body :: ts) => some (.macroCall p d body, ts)
      | some _ => none
      | none =>
        if plus && startsWith "+" ts then do
          let (bounds, trailing, ts) ← readSum n (.trait false binder false p) ts
          some (.traitObject false bounds trailing, ts)
        else if binder.isSome then some (.traitObject false [.trait false binder false p] false, ts)
        else some (.path p, ts)

/-- A function type from behind its binder. -/
def readFunctionTy : Nat → Option (List Ident) → List Token → Option (Ty × List Token)
  | 0, _, _ => none
  | n + 1, binder, ts => do
    let (isUnsafe, ts) := match afterWord? "unsafe" ts with
      | some ts => (true, ts)
      | none => (false, ts)
    let (abi, ts) := readAbi ts
    let ts ← afterWord? "fn" ts
    match ts with
    | .group .paren body :: ts => do
      let (params, variadic) ← readParams n true body
      let (output, ts) ← readOutput n false ts
      some (.function binder isUnsafe abi params variadic output, ts)
    | _ => none

/-- The parameters of a function type, to the end of the tokens. `first` tells whether the next one
may be called `self`. -/
def readParams : Nat → Bool → List Token → Option (List Param × Option (Option Ident))
  | 0, _, _ => none
  | n + 1, first, ts =>
    let comma (ts : List Token) : Option (List Token) :=
      match ts with
      | [] => some []
      | _ => after? "," ts
    match ts with
    | [] => some ([], none)
    | _ =>
      match after? "..." ts with
      | some ts => do
        match ← comma ts with
        | [] => some ([], some none)
        | _ => none
      | none =>
        let name := match ts with
          | .ident i :: rest =>
            if (i.isName || i == ⟨"_", false⟩ || (first && i == ⟨"self", false⟩)) &&
                startsWith ":" rest && !startsWith "::" rest then some i
            else none
          | _ => none
        let ts := if name.isSome then ts.drop 2 else ts
        match name, after? "..." ts with
        | some i, some ts => do
          match ← comma ts with
          | [] => some ([], some (some i))
          | _ => none
        | _, _ => do
          let (t, ts) ← readTy n true ts
          let ts ← comma ts
          let (others, variadic) ← readParams n false ts
          some (.mk name t :: others, variadic)

/-- The result type behind an arrow, which may be missing. -/
def readOutput : Nat → Bool → List Token → Option (Option Ty × List Token)
  | 0, _, _ => none
  | n + 1, plus, ts =>
    match after? "->" ts with
    | none => some (none, ts)
    | some ts => do
      let (t, ts) ← readTy n plus ts
      some (some t, ts)

/-- Bounds with plus signs between them, and whether a plus sign ends them. Unless `plus` holds
there is only one. -/
def readBounds : Nat → Bool → List Token → Option (List Bound × Bool × List Token)
  | 0, _, _ => none
  | n + 1, plus, ts => do
    let (b, ts) ← readBound n ts
    if plus && startsWith "+" ts then readSum n b ts else some ([b], false, ts)

/-- A sum of bounds from the plus sign behind its first one. -/
def readSum : Nat → Bound → List Token → Option (List Bound × Bool × List Token)
  | 0, _, _ => none
  | n + 1, first, ts => do
    let ts ← after? "+" ts
    if startsBound ts then
      let (bounds, trailing, ts) ← readBounds n true ts
      some (first :: bounds, trailing, ts)
    else some ([first], true, ts)

/-- Bounds that each have a plus sign in front. -/
def readFurtherBounds : Nat → List Token → Option (List Bound × List Token)
  | 0, _ => none
  | n + 1, ts =>
    match after? "+" ts with
    | none => some ([], ts)
    | some ts => do
      let (b, ts) ← readBound n ts
      let (bs, ts) ← readFurtherBounds n ts
      some (b :: bs, ts)

/-- A lifetime or a trait, which may be in parentheses. -/
def readBound : Nat → List Token → Option (Bound × List Token)
  | 0, _ => none
  | n + 1, ts =>
    match ts with
    | .lifetime i :: ts => some (.lifetime i, ts)
    | .group .paren body :: ts => do
      match ← readTraitBound n true body with
      | (b, []) => some (b, ts)
      | _ => none
    | _ => readTraitBound n false ts

def readTraitBound : Nat → Bool → List Token → Option (Bound × List Token)
  | 0, _, _ => none
  | n + 1, parenthesized, ts => do
    let (binder, ts) ← readBinder ts
    let (relaxed, ts) := match after? "?" ts with
      | some ts => (true, ts)
      | none => (false, ts)
    let (binder, ts) ← if binder.isSome then some (binder, ts) else if relaxed then readBinder ts
      else some (binder, ts)
    let (p, ts) ← readPath n false ts
    match (if p.lastTakesNone then callArguments? ts else none) with
    | some (body, ts) => do
      let (inputs, _) ← readTys n body
      let (output, ts) ← readOutput n false ts
      let p ← p.withCall? inputs output
      some (.trait parenthesized binder relaxed p, ts)
    | none => some (.trait parenthesized binder relaxed p, ts)

/-- A path, or a path below a type with that type and the number of segments of its trait. -/
def readQualified : Nat → Bool → List Token → Option ((Path ⊕ Ty × Nat × Path) × List Token)
  | 0, _, _ => none
  | n + 1, inExpr, ts =>
    match after? "<" ts with
    | none => do
      let (p, ts) ← readPath n inExpr ts
      some (.inl p, ts)
    | some ts => do
      let (self, ts) ← readTy n true ts
      let (trait, ts) ← match afterWord? "as" ts with
        | none => some (none, ts)
        | some ts => do
          let (p, ts) ← readPath n false ts
          some (some p, ts)
      let ts ← after? ">" ts
      let ts ← after? "::" ts
      let (segments, ts) ← readSegments n inExpr false ts
      match trait with
      | some (.mk rooted front) =>
        some (.inr (self, front.length, .mk rooted (front ++ segments)), ts)
      | none => some (.inr (self, 0, .mk true segments), ts)

/-- A path. In expressions the arguments of a segment need a double colon in front. -/
def readPath : Nat → Bool → List Token → Option (Path × List Token)
  | 0, _, _ => none
  | n + 1, inExpr, ts => do
    let (rooted, ts) := match after? "::" ts with
      | some ts => (true, ts)
      | none => (false, ts)
    let (segments, ts) ← readSegments n inExpr true ts
    some (.mk rooted segments, ts)

/-- Segments with double colons between them. If `beforeCall` holds, a double colon in front of
parentheses ends the path. -/
def readSegments : Nat → Bool → Bool → List Token → Option (List Segment × List Token)
  | 0, _, _, _ => none
  | n + 1, inExpr, beforeCall, ts => do
    let (s, ts) ← readSegment n inExpr ts
    match (if beforeCall && thirdIsParen ts then none else after? "::" ts) with
    | none => some ([s], ts)
    | some ts => do
      let (ss, ts) ← readSegments n inExpr beforeCall ts
      some (s :: ss, ts)

def readSegment : Nat → Bool → List Token → Option (Segment × List Token)
  | 0, _, _ => none
  | n + 1, inExpr, ts =>
    match ts with
    | .ident i :: ts =>
      if !i.raw && ["super", "self", "crate", "try"].contains i.name then some (.mk i .none, ts)
      else if i == ⟨"Self", false⟩ || i.isName then do
        if (!inExpr && startsWith "<" ts && !startsWith "<=" ts) ||
            (startsWith "::" ts && thirdIs '<' ts) then
          let (args, ts) ← readAngled n ts
          some (.mk i args, ts)
        else some (.mk i .none, ts)
      else none
    | _ => none

/-- Arguments in angle brackets, with a double colon in front or without. -/
def readAngled : Nat → List Token → Option (Args × List Token)
  | 0, _ => none
  | n + 1, ts => do
    let (turbofish, ts) := match after? "::" ts with
      | some ts => (true, ts)
      | none => (false, ts)
    let ts ← after? "<" ts
    let (args, ts) ← readArgs n ts
    some (.angled turbofish args, ts)

/-- Arguments up to the closing angle bracket. -/
def readArgs : Nat → List Token → Option (List Arg × List Token)
  | 0, _ => none
  | n + 1, ts =>
    match after? ">" ts with
    | some ts => some ([], ts)
    | none => do
      let (a, ts) ← readArg n ts
      match after? ">" ts with
      | some ts => some ([a], ts)
      | none => do
        let ts ← after? "," ts
        let (as, ts) ← readArgs n ts
        some (a :: as, ts)

/-- A literal or a block as an argument. -/
def readConst : Nat → List Token → Option (Expr × List Token)
  | 0, _ => none
  | n + 1, ts =>
    match readLiteral ts with
    | some r => some r
    | none =>
      match ts with
      | .group .brace body :: ts => do
        let body ← readStmts n body
        some (.block body, ts)
      | _ => none

def readArg : Nat → List Token → Option (Arg × List Token)
  | 0, _ => none
  | n + 1, ts =>
    let isLifetime := match ts with
      | .lifetime _ :: rest => !startsWith "+" rest
      | _ => false
    match ts, isLifetime with
    | .lifetime i :: rest, true => some (.lifetime i, rest)
    | _, _ =>
      match readConst n ts with
      | some (e, ts) => some (.const e, ts)
      | none => do
        match ts with
        | .group .brace _ :: _ => none
        | _ =>
          let (t, ts) ← readTy n true ts
          match t with
          | .path (.mk false [.mk i generics]) =>
            match after? "=" ts, after? ":" ts with
            | some ts, _ =>
              match readConst n ts with
              | some (e, ts) => some (.constBinding i generics e, ts)
              | none => do
                let (t, ts) ← readTy n true ts
                some (.typeBinding i generics t, ts)
            | none, some ts => do
              let (bounds, ts) ← readConstraint n ts
              some (.constraint i generics bounds, ts)
            | none, none => some (.type t, ts)
          | _ => some (.type t, ts)

/-- The bounds of a constraint, up to a comma or a closing angle bracket. -/
def readConstraint : Nat → List Token → Option (List Bound × List Token)
  | 0, _ => none
  | n + 1, ts =>
    if startsWith "," ts || startsWith ">" ts then some ([], ts)
    else do
      let (b, ts) ← readBound n ts
      match after? "+" ts with
      | none => some ([b], ts)
      | some ts => do
        let (bs, ts) ← readConstraint n ts
        some (b :: bs, ts)

/-- An expression whose operators all bind at least as tightly as `least`. -/
def readExpr : Nat → Nat → List Token → Option (Expr × List Token)
  | 0, _, _ => none
  | n + 1, least, ts => do
    let (e, ts) ← readUnary n ts
    readOperators n least e ts

/-- Operators and operands behind a first operand. -/
def readOperators : Nat → Nat → Expr → List Token → Option (Expr × List Token)
  | 0, _, _, _ => none
  | n + 1, least, left, ts =>
    match readBinaryOperator ts with
    | some (op, tightness, rest) =>
      if tightness < least then some (left, ts)
      else if tightness == Tightness.comparison && isComparison left then none
      else do
        let (right, ts) ← readRight n tightness rest
        readOperators n least (.binary op left right) ts
    | none =>
      if least ≤ Tightness.assignment && startsWith "=" ts && !startsWith "=>" ts then do
        let ts ← after? "=" ts
        let (right, ts) ← readRight n Tightness.assignment ts
        readOperators n least (.assign left right) ts
      else if least ≤ Tightness.conversion then
        match afterWord? "as" ts with
        | none => some (left, ts)
        | some ts => do
          let (t, ts) ← readTy n false ts
          if continuesOperand ts then none else readOperators n least (.cast left t) ts
      else some (left, ts)

/-- The right operand of an operator of the given tightness. -/
def readRight : Nat → Nat → List Token → Option (Expr × List Token)
  | 0, _, _ => none
  | n + 1, tightness, ts => do
    let (e, ts) ← readUnary n ts
    readTighter n tightness e ts

/-- Continues a right operand while tighter operators follow, or assignments after an assignment. -/
def readTighter : Nat → Nat → Expr → List Token → Option (Expr × List Token)
  | 0, _, _, _ => none
  | n + 1, tightness, e, ts =>
    let next := nextTightness ts
    if next > tightness || (next == tightness && tightness == Tightness.assignment) then do
      let (e, rest) ← readOperators n next e ts
      if Token.countAll rest < Token.countAll ts then readTighter n tightness e rest
      else some (e, rest)
    else some (e, ts)

def readUnary : Nat → List Token → Option (Expr × List Token)
  | 0, _ => none
  | n + 1, ts =>
    match ts with
    | .punct '&' _ :: ts => do
      let (mutable, ts) := match afterWord? "mut" ts with
        | some ts => (true, ts)
        | none => (false, ts)
      let (e, ts) ← readUnary n ts
      some (.borrow mutable e, ts)
    | .punct '*' _ :: ts => do
      let (e, ts) ← readUnary n ts
      some (.unary '*' e, ts)
    | .punct '!' _ :: ts => do
      let (e, ts) ← readUnary n ts
      some (.unary '!' e, ts)
    | .punct '-' _ :: ts => do
      let (e, ts) ← readUnary n ts
      some (.unary '-' e, ts)
    | _ => do
      let (e, ts) ← readAtom n ts
      readTrailers n e ts

/-- Calls, fields, indices and question marks behind an operand. -/
def readTrailers : Nat → Expr → List Token → Option (Expr × List Token)
  | 0, _, _ => none
  | n + 1, e, ts =>
    match ts with
    | .group .paren body :: ts => do
      let args ← readExprs n body
      readTrailers n (.call e args) ts
    | .group .bracket body :: ts => do
      match ← readExpr n 0 body with
      | (i, []) => readTrailers n (.index e i) ts
      | _ => none
    | .punct '?' _ :: ts => readTrailers n (.question e) ts
    | _ =>
      match (if startsWith ".." ts then none else after? "." ts) with
      | none => some (e, ts)
      | some (.literal .integer text :: ts) => readTrailers n (.field e ⟨text, false⟩) ts
      | some ts => do
        let (i, ts) ← readName ts
        let (generics, ts) ← if startsWith "::" ts then readAngled n ts else some (Args.none, ts)
        match ts, generics with
        | .group .paren body :: ts, _ => do
          let args ← readExprs n body
          readTrailers n (.method e i generics args) ts
        | _, .none => readTrailers n (.field e i) ts
        | _, _ => none

/-- Expressions with commas between them, to the end of the tokens. -/
def readExprs : Nat → List Token → Option (List Expr)
  | 0, _ => none
  | n + 1, ts =>
    match ts with
    | [] => some []
    | _ => do
      match ← readExpr n 0 ts with
      | (e, []) => some [e]
      | (e, ts) => do
        let ts ← after? "," ts
        let es ← readExprs n ts
        some (e :: es)

def readAtom : Nat → List Token → Option (Expr × List Token)
  | 0, _ => none
  | n + 1, ts =>
    match readLiteral ts with
    | some r => some r
    | none =>
      match ts with
      | .ident ⟨"_", false⟩ :: ts => some (.infer, ts)
      | .group .paren body :: ts =>
        match body with
        | [] => some (.tuple [], ts)
        | _ => do
          match ← readExpr n 0 body with
          | (e, []) => some (.paren e, ts)
          | (e, body) => do
            let body ← after? "," body
            let es ← readExprs n body
            some (.tuple (e :: es), ts)
      | .group .bracket body :: ts =>
        match body with
        | [] => some (.array [], ts)
        | _ => do
          let (e, body) ← readExpr n 0 body
          match body, after? ";" body with
          | [], _ => some (.array [e], ts)
          | _, some body => do
            match ← readExpr n 0 body with
            | (count, []) => some (.repeated e count, ts)
            | _ => none
          | _, none => do
            let body ← after? "," body
            let es ← readExprs n body
            some (.array (e :: es), ts)
      | .group .brace body :: ts => do
        let body ← readStmts n body
        some (.block body, ts)
      | _ =>
        if !startsPath ts then none
        else do
          match ← readQualified n true ts with
          | (.inr (self, position, p), ts) => some (.qualified self position p, ts)
          | (.inl p, ts) =>
            match behindBang? p ts with
            | some (.group d body :: ts) => some (.macroCall p d body, ts)
            | some _ => none
            | none =>
              match ts with
              | .group .brace body :: ts => do
                let fields ← readFieldValues n body
                some (.record p fields, ts)
              | _ => some (.path p, ts)

/-- The fields of a structure's value, to the end of the tokens. -/
def readFieldValues : Nat → List Token → Option (List FieldValue)
  | 0, _ => none
  | n + 1, ts =>
    match ts with
    | [] => some []
    | _ => do
      let (i, ts) ← readName ts
      let (value, ts) ← match after? ":" ts with
        | none => some (none, ts)
        | some ts => do
          let (e, ts) ← readExpr n 0 ts
          some (some e, ts)
      match ts with
      | [] => some [.mk i value]
      | _ => do
        let ts ← after? "," ts
        let fs ← readFieldValues n ts
        some (.mk i value :: fs)

/-- Statements, to the end of the tokens. A block needs no semicolon, and neither does the last
expression. -/
def readStmts : Nat → List Token → Option (List Stmt)
  | 0, _ => none
  | n + 1, ts =>
    match ts with
    | [] => some []
    | .punct ';' _ :: ts => readStmts n ts
    | _ => do
      let (e, ts) ← readExpr n 0 ts
      match ts, after? ";" ts with
      | [], _ => some [.expr e false]
      | _, some ts => do
        let ss ← readStmts n ts
        some (.expr e true :: ss)
      | _, none =>
        match e with
        | .block _ => do
          let ss ← readStmts n ts
          some (.expr e false :: ss)
        | _ => none

end

/-- A depth of recursion that reading these tokens does not exceed. -/
def readingDepth (ts : List Token) : Nat :=
  16 * (Token.countAll ts + 1)

/-- Reads a text as a type. -/
def Ty.ofText? (text : String) : Option Ty := do
  let ts ← tokens? text
  match ← readTy (readingDepth ts) true ts with
  | (t, []) => some t
  | _ => none

/-- Reads a text as a path of types. -/
def Path.ofText? (text : String) : Option Path := do
  let ts ← tokens? text
  match ← readPath (readingDepth ts) false ts with
  | (p, []) => some p
  | _ => none

/-- Reads a text as a name. -/
def Ident.ofText? (text : String) : Option Ident := do
  match ← readName (← tokens? text) with
  | (i, []) => some i
  | _ => none

end LazyProxy.Code
