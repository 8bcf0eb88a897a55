import LazyProxy.Code.Tree

/-!
Syntax trees written as tokens.
-/

namespace LazyProxy.Code

open Token (word operator)

/-- Lists of tokens with a separator between neighbours. -/
def separated (separator : List Token) : List (List Token) → List Token
  | [] => []
  | [ts] => ts
  | ts :: rest => ts ++ separator ++ separated separator rest

def commaSeparated (items : List (List Token)) : List Token :=
  separated (operator ",") items

/-- A lifetime binder such as `for<'a, 'b>`. -/
def binderTokens : Option (List Ident) → List Token
  | none => []
  | some is => word "for" :: operator "<" ++ commaSeparated (is.map ([.lifetime ·])) ++ operator ">"

def abiTokens : Option (Option String) → List Token
  | none => []
  | some none => [word "extern"]
  | some (some name) => [word "extern", .literal .string name]

def mutTokens (mutable : Bool) : List Token :=
  if mutable then [word "mut"] else []

def boolToken (b : Bool) : Token :=
  word (if b then "true" else "false")

def variadicTokens : Option (Option Ident) → List (List Token)
  | none => []
  | some none => [operator "..."]
  | some (some i) => [.ident i :: operator ":" ++ operator "..."]

/-- A path below a type, from the tokens of the type and those of each segment. -/
def qualifiedTokens (self : List Token) (position : Nat) (rooted : Bool)
    (segments : List (List Token)) : List Token :=
  let trait := segments.take position
  operator "<" ++ self ++
    (if trait.isEmpty then []
      else
        word "as" :: (if rooted then operator "::" else []) ++ separated (operator "::") trait) ++
    operator ">" ++ (segments.drop position).flatMap (operator "::" ++ ·)

mutual

def Ty.tokens : Ty → List Token
  | .array elem length => [.group .bracket (elem.tokens ++ operator ";" ++ length.tokens)]
  | .slice elem => [.group .bracket elem.tokens]
  | .tuple elems => [.group .paren (Ty.tokensOfTuple elems)]
  | .paren elem => [.group .paren elem.tokens]
  | .pointer mutable target =>
    operator "*" ++ [word (if mutable then "mut" else "const")] ++ target.tokens
  | .reference lifetime mutable target =>
    operator "&" ++ (lifetime.map Token.lifetime).toList ++ mutTokens mutable ++ target.tokens
  | .never => operator "!"
  | .infer => [word "_"]
  | .path p => p.tokens
  | .qualified self position p => qualifiedTokens self.tokens position p.rooted p.segmentTokens
  | .function binder isUnsafe abi params variadic output =>
    binderTokens binder ++ (if isUnsafe then [word "unsafe"] else []) ++ abiTokens abi ++
      [word "fn",
        .group .paren (commaSeparated (Param.tokensOfList params ++ variadicTokens variadic))] ++
      Ty.outputTokens output
  | .traitObject isDyn bounds trailing =>
    (if isDyn then [word "dyn"] else []) ++ separated (operator "+") (Bound.tokensOfList bounds) ++
      (if trailing then operator "+" else [])
  | .implTrait bounds trailing =>
    word "impl" :: separated (operator "+") (Bound.tokensOfList bounds) ++
      (if trailing then operator "+" else [])
  | .macroCall p d body => p.tokens ++ operator "!" ++ [.group d body]

def Ty.outputTokens : Option Ty → List Token
  | none => []
  | some t => operator "->" ++ t.tokens

/-- The elements of a tuple. A single one is followed by a comma. -/
def Ty.tokensOfTuple : List Ty → List Token
  | [] => []
  | t :: ts => t.tokens ++ operator "," ++ Ty.tokensOfTuple ts

def Ty.tokensOfList : List Ty → List (List Token)
  | [] => []
  | t :: ts => t.tokens :: Ty.tokensOfList ts

def Param.tokensOfList : List Param → List (List Token)
  | [] => []
  | .mk none t :: ps => t.tokens :: Param.tokensOfList ps
  | .mk (some i) t :: ps => (.ident i :: operator ":" ++ t.tokens) :: Param.tokensOfList ps

def Path.tokens : Path → List Token
  | .mk rooted segments =>
    (if rooted then operator "::" else []) ++
      separated (operator "::") (Segment.tokensOfList segments)

def Path.segmentTokens : Path → List (List Token)
  | .mk _ segments => Segment.tokensOfList segments

def Segment.tokensOfList : List Segment → List (List Token)
  | [] => []
  | .mk i args :: ss => (.ident i :: args.tokens) :: Segment.tokensOfList ss

def Args.tokens : Args → List Token
  | .none => []
  | .angled turbofish args =>
    (if turbofish then operator "::" else []) ++ operator "<" ++
      commaSeparated (Arg.tokensOfList args) ++ operator ">"
  | .parenthesized inputs output =>
    .group .paren (commaSeparated (Ty.tokensOfList inputs)) :: Ty.outputTokens output

def Arg.tokensOfList : List Arg → List (List Token)
  | [] => []
  | .lifetime i :: as => [.lifetime i] :: Arg.tokensOfList as
  | .type t :: as => t.tokens :: Arg.tokensOfList as
  | .const e :: as => e.tokens :: Arg.tokensOfList as
  | .typeBinding i generics t :: as =>
    (.ident i :: generics.tokens ++ operator "=" ++ t.tokens) :: Arg.tokensOfList as
  | .constBinding i generics e :: as =>
    (.ident i :: generics.tokens ++ operator "=" ++ e.tokens) :: Arg.tokensOfList as
  | .constraint i generics bounds :: as =>
    (.ident i :: generics.tokens ++ operator ":" ++
        separated (operator "+") (Bound.tokensOfList bounds)) ::
      Arg.tokensOfList as

def Bound.tokensOfList : List Bound → List (List Token)
  | [] => []
  | .lifetime i :: bs => [.lifetime i] :: Bound.tokensOfList bs
  | .trait parenthesized binder relaxed p :: bs =>
    let content := (if relaxed then operator "?" else []) ++ binderTokens binder ++ p.tokens
    (if parenthesized then [.group .paren content] else content) :: Bound.tokensOfList bs

def Expr.tokens : Expr → List Token
  | .literal negative kind text => (if negative then operator "-" else []) ++ [.literal kind text]
  | .bool value => [boolToken value]
  | .infer => [word "_"]
  | .path p => p.tokens
  | .qualified self position p => qualifiedTokens self.tokens position p.rooted p.segmentTokens
  | .macroCall p d body => p.tokens ++ operator "!" ++ [.group d body]
  | .paren e => [.group .paren e.tokens]
  | .tuple elems => [.group .paren (Expr.tokensOfTuple elems)]
  | .array elems => [.group .bracket (commaSeparated (Expr.tokensOfList elems))]
  | .repeated e count => [.group .bracket (e.tokens ++ operator ";" ++ count.tokens)]
  | .block body => [.group .brace (Stmt.tokensOfList body)]
  | .record p fields =>
    p.tokens ++ [.group .brace (commaSeparated (FieldValue.tokensOfList fields))]
  | .unary op e => .punct op false :: e.tokens
  | .borrow mutable e => operator "&" ++ mutTokens mutable ++ e.tokens
  | .binary op left right => left.tokens ++ operator op ++ right.tokens
  | .assign left right => left.tokens ++ operator "=" ++ right.tokens
  | .cast e t => e.tokens ++ word "as" :: t.tokens
  | .call f args => f.tokens ++ [.group .paren (commaSeparated (Expr.tokensOfList args))]
  | .method receiver name generics args =>
    receiver.tokens ++ operator "." ++ .ident name :: generics.tokens ++
      [.group .paren (commaSeparated (Expr.tokensOfList args))]
  | .field e member => e.tokens ++ operator "." ++ [.ident member]
  | .index e i => e.tokens ++ [.group .bracket i.tokens]
  | .question e => e.tokens ++ operator "?"

def Expr.tokensOfTuple : List Expr → List Token
  | [] => []
  | e :: es => e.tokens ++ operator "," ++ Expr.tokensOfTuple es

def Expr.tokensOfList : List Expr → List (List Token)
  | [] => []
  | e :: es => e.tokens :: Expr.tokensOfList es

def FieldValue.tokensOfList : List FieldValue → List (List Token)
  | [] => []
  | .mk i none :: fs => [.ident i] :: FieldValue.tokensOfList fs
  | .mk i (some e) :: fs => (.ident i :: operator ":" ++ e.tokens) :: FieldValue.tokensOfList fs

def Stmt.tokensOfList : List Stmt → List Token
  | [] => []
  | .expr e semicolon :: ss =>
    e.tokens ++ (if semicolon then operator ";" else []) ++ Stmt.tokensOfList ss

end

end LazyProxy.Code
