import LazyProxy.Code.Reader
import LazyProxy.Layout.Box

/-!
The layout of types and expressions: which boxes they are written in and where lines may end.
-/

namespace LazyProxy.Code

open Layout

/-- The width of one level of indentation. -/
def step : Int := 4

/-- A blank where a line may end. -/
def blank : Box :=
  .brk { blank := 1 }

/-- A place without a blank where a line may end. -/
def gap : Box :=
  .brk {}

/-- A gap in front of a closing bracket, which is indented less. -/
def closingGap : Box :=
  .brk { offset := -step }

/-- The same after the last of several items, which is followed by a comma if the line ends. -/
def closingComma : Box :=
  .brk { offset := -step, lastChar := some ',' }

/-- A place where no line ends and the widths of what is in front are added up. -/
def noBreak : Box :=
  .brk { never := true }

/-- A box that is indented and broken at all its breaks or at none. -/
def indented (body : List Box) : Box :=
  .group step true none body

/-- Items with commas behind them, and one behind the last if the line ends there. -/
def listBoxes : List (List Box) → List Box
  | [] => []
  | [b] => b ++ [closingComma]
  | b :: bs => b ++ [.text ",", blank] ++ listBoxes bs

/-- What stands between two brackets: items in a box of their own. -/
def itemsBox (items : List (List Box)) : List Box :=
  if items.isEmpty then [] else [indented (gap :: listBoxes items)]

/-- The same for a tuple, whose only item has a comma in any case. -/
def tupleBox (items : List (List Box)) : List Box :=
  match items with
  | [b] => [indented (gap :: b ++ [.text ",", closingGap])]
  | _ => itemsBox items

def Ident.box (i : Ident) : Box :=
  .text i.text

def lifetimeBox (i : Ident) : Box :=
  .text ("'" ++ i.text)

def binderBoxes : Option (List Ident) → List Box
  | none => []
  | some is => [.text ("for<" ++ ", ".intercalate (is.map fun i => "'" ++ i.text) ++ "> ")]

def abiBoxes : Option (Option String) → List Box
  | none => []
  | some none => [.text "extern "]
  | some (some name) => [.text ("extern " ++ name ++ " ")]

/-- What the last token was, as far as it decides on the blank in front of the next one. -/
inductive TokenContext where
  | start
  | dollar
  | dollarParen
  | dollarSeparator
  | pound
  | poundBang
  | dot
  | colon
  | colons
  | ident
  | identBang
  | bracket
  | other
deriving DecidableEq

/-- Whether a blank goes in front of a token, and the context behind it. -/
def TokenContext.next (c : TokenContext) (t : Token) : Bool × TokenContext :=
  match c, t with
  | .dollar, .ident _ => (false, .other)
  | .dollarParen, .punct p joint =>
    if ['+', '*', '?'].contains p && !joint then (false, .other)
    else (false, if joint then .dollarParen else .dollarSeparator)
  | .dollarParen, .ident _ => (false, .dollarSeparator)
  | .dollarParen, .literal .. => (false, .dollarSeparator)
  | .dollarSeparator, .punct '+' _ => (false, .other)
  | .dollarSeparator, .punct '*' _ => (false, .other)
  | .pound, .punct '!' _ => (false, .poundBang)
  | .dollar, .group .paren _ => (false, .dollarParen)
  | .pound, .group .bracket _ => (false, .other)
  | .poundBang, .group .bracket _ => (false, .other)
  | .ident, .punct '!' false => (false, .identBang)
  | .colon, .punct ':' _ => (false, .colons)
  | _, .group .brace _ => (true, .other)
  | .ident, .group _ _ => (false, .bracket)
  | .identBang, .group _ _ => (false, .other)
  | _, .group _ _ => (true, .bracket)
  | _, .ident i =>
    if i.isName then (c != .dot && c != .colons, .ident) else (true, .other)
  | _, .lifetime i => (true, if i.isName then .ident else .other)
  | _, .literal .. => (c != .dot, .ident)
  | _, .punct ',' _ => (false, .other)
  | _, .punct ';' _ => (false, .other)
  | _, .punct '.' _ => (c != .ident && c != .bracket, .dot)
  | _, .punct ':' true => (c != .ident, .colon)
  | _, .punct '$' _ => (true, .dollar)
  | _, .punct '#' _ => (true, .pound)
  | _, .punct _ _ => (true, .other)

def Token.isJoint : Token → Bool
  | .punct '$' _ => true
  | .punct _ joint => joint
  | _ => false

mutual

/-- The tokens of a macro call. `joint` tells whether the token in front takes no blank behind it.
-/
def macroBoxes (c : TokenContext) (joint : Bool) : List Token → List Box
  | [] => []
  | t :: ts =>
    let (blanked, next) := c.next t
    let before :=
      if joint then []
      else if blanked then [blank]
      else match t with
        | .punct '.' _ => [gap]
        | _ => []
    before ++ macroTokenBoxes t ++ macroBoxes next t.isJoint ts

def macroTokenBoxes : Token → List Box
  | .ident i => [i.box]
  | .lifetime i => [lifetimeBox i]
  | .punct p _ => [.text p.toString]
  | .literal _ text => [.text text]
  | .group d body =>
    let inside := macroBoxes .start true body
    let inside :=
      if body.isEmpty then []
      else match d with
        | .brace => blank :: inside ++ [blank]
        | _ => inside
    .text d.opening.toString :: inside ++ [.text d.closing.toString]

end

/-- A macro call from the boxes of its path. -/
def macroCallBoxes (path : List Box) (d : Delimiter) (body : List Token) : List Box :=
  let opening := match d with
    | .brace => " " ++ d.opening.toString
    | _ => d.opening.toString
  let lineEnd (offset : Int) : Box := match d with
    | .brace => .brk { blank := unbounded, offset }
    | _ => .brk { offset }
  let inside :=
    if body.isEmpty then []
    else
      [indented ([lineEnd 0, .group 0 false none (macroBoxes .start true body), lineEnd (-step)])]
  path ++ [.text "!", .text opening] ++ inside ++ [.text d.closing.toString]

/-- A path below a type, from the boxes of the type and of the path's segments. -/
def qualifiedBoxes (self : List Box) (position : Nat) (rooted : Bool)
    (traitSegments : List (List Box)) (segments : List (List Box)) : List Box :=
  let joined (ss : List (List Box)) : List Box := (List.intersperse [.text "::"] ss).flatten
  let trait :=
    if position = 0 then []
    else
      .text " as " :: (if rooted then [Box.text "::"] else []) ++
        joined (traitSegments.take position)
  .text "<" :: self ++ trait ++ [.text ">"] ++
    (segments.drop position).flatMap fun s => .text "::" :: s

/-- Whether an expression is a variable whose name is no longer than an indentation. -/
def Expr.isShortName : Expr → Bool
  | .path p =>
    match p.ident? with
    | some i => i.text.utf8ByteSize ≤ 4
    | none => false
  | _ => false

/-- Whether an expression as the last statement of a block gets a semicolon. -/
def Expr.takesSemicolon : Expr → Bool
  | .assign .. => true
  | .binary op _ _ => ["+=", "-=", "*=", "/=", "%=", "^=", "&=", "|=", "<<=", ">>="].contains op
  | _ => false

/-- A path from the boxes of its segments. -/
def Path.boxesOf (rooted : Bool) (segments : List (List Box)) : List Box :=
  (if rooted then [.text "::"] else []) ++ (List.intersperse [.text "::"] segments).flatten

/-- The fields of a structure's value up to its closing brace. -/
def recordBoxes : List (List Box) → List Box
  | [] => []
  | [b] => b ++ [.brk { blank := 1, offset := -step, lastChar := some ',' }]
  | b :: bs => b ++ [.text ",", blank] ++ recordBoxes bs

/-- What is no link of a chain but may start one. -/
def unlinked (linked : Bool) (own : List Box) : List Box :=
  if linked then [.group (-step) true none own] else own

/-- A link of a chain with those in front of it. The last one puts them all in a box. -/
def linkedBox (linked : Bool) (chain : List Box) : List Box :=
  if linked then chain else [indented chain]

mutual

def Ty.boxes : Ty → List Box
  | .array elem length =>
    .text "[" :: elem.boxes ++ .text "; " :: length.boxes false false ++ [.text "]"]
  | .slice elem => .text "[" :: elem.boxes ++ [.text "]"]
  | .tuple elems => .text "(" :: tupleBox (Ty.boxesOfList elems) ++ [.text ")"]
  | .paren elem => .text "(" :: elem.boxes ++ [.text ")"]
  | .pointer mutable target => .text (if mutable then "*mut " else "*const ") :: target.boxes
  | .reference lifetime mutable target =>
    let lifetime := match lifetime with
      | some i => [lifetimeBox i, .text " "]
      | none => []
    .text "&" :: lifetime ++ (if mutable then [.text "mut "] else []) ++ target.boxes
  | .never => [.text "!"]
  | .infer => [.text "_"]
  | .path p => p.boxes false
  | .qualified self position (.mk rooted segments) =>
    qualifiedBoxes self.boxes position rooted (Segment.boxesOfList false segments)
      (Segment.boxesOfList false segments)
  | .function binder isUnsafe abi params variadic output =>
    let params := Param.boxesOfList params
    let inside := match variadic with
      | none => itemsBox params
      | some name =>
        let last := match name with
          | some i => [i.box, .text ": ..."]
          | none => [.text "..."]
        [indented (gap :: params.flatMap (· ++ [.text ",", blank]) ++ last ++ [closingGap])]
    binderBoxes binder ++ (if isUnsafe then [.text "unsafe "] else []) ++ abiBoxes abi ++
      .text "fn(" :: inside ++ .text ")" :: Ty.outputBoxes output
  | .traitObject _ bounds _ => .text "dyn " :: Bound.boxesOfList bounds
  | .implTrait bounds _ => .text "impl " :: Bound.boxesOfList bounds
  | .macroCall (.mk rooted segments) d body =>
    macroCallBoxes (Path.boxesOf rooted (Segment.boxesOfList false segments)) d body

def Ty.boxesOfList : List Ty → List (List Box)
  | [] => []
  | t :: ts => t.boxes :: Ty.boxesOfList ts

/-- The result of a function behind an arrow. -/
def Ty.outputBoxes : Option Ty → List Box
  | none => []
  | some t => .text " -> " :: t.boxes

def Param.boxesOfList : List Param → List (List Box)
  | [] => []
  | .mk none t :: ps => t.boxes :: Param.boxesOfList ps
  | .mk (some i) t :: ps => (i.box :: .text ": " :: t.boxes) :: Param.boxesOfList ps

/-- A path. In an expression the arguments of its segments have a double colon in front. -/
def Path.boxes (inExpr : Bool) : Path → List Box
  | .mk rooted segments => Path.boxesOf rooted (Segment.boxesOfList inExpr segments)

def Segment.boxesOfList (inExpr : Bool) : List Segment → List (List Box)
  | [] => []
  | .mk i args :: ss => (i.box :: args.boxes inExpr) :: Segment.boxesOfList inExpr ss

def Args.boxes (inExpr : Bool) : Args → List Box
  | .none => []
  | .angled _ args =>
    let items := Arg.boxesOfList true args ++ Arg.boxesOfList false args
    if items.isEmpty then []
    else (if inExpr then [.text "::"] else []) ++ .text "<" :: itemsBox items ++ [.text ">"]
  | .parenthesized inputs output =>
    let inside := match Ty.boxesOfList inputs with
      | [] => [closingGap]
      | items => gap :: listBoxes items
    [indented (.text "(" :: inside ++ .text ")" :: Ty.outputBoxes output)]

/-- The arguments that are lifetimes, or those that are not. -/
def Arg.boxesOfList (lifetimes : Bool) : List Arg → List (List Box)
  | [] => []
  | .lifetime i :: as =>
    (if lifetimes then [[lifetimeBox i]] else []) ++ Arg.boxesOfList lifetimes as
  | .type t :: as => (if lifetimes then [] else [t.boxes]) ++ Arg.boxesOfList lifetimes as
  | .const e :: as =>
    (if lifetimes then [] else [e.boxes false false]) ++ Arg.boxesOfList lifetimes as
  | .typeBinding i generics t :: as =>
    (if lifetimes then [] else [i.box :: generics.boxes false ++ .text " = " :: t.boxes]) ++
      Arg.boxesOfList lifetimes as
  | .constBinding i generics e :: as =>
    (if lifetimes then []
      else [i.box :: generics.boxes false ++ .text " = " :: e.boxes false false]) ++
      Arg.boxesOfList lifetimes as
  | .constraint i generics bounds :: as =>
    (if lifetimes then []
      else [i.box :: generics.boxes false ++
        [.group step false none (Bound.constraintBoxes true bounds)]]) ++
      Arg.boxesOfList lifetimes as

/-- Bounds with plus signs between them. -/
def Bound.boxesOfList : List Bound → List Box
  | [] => []
  | [b] => b.boxes
  | b :: bs => b.boxes ++ .text " + " :: Bound.boxesOfList bs

/-- The bounds of a constraint behind its colon. -/
def Bound.constraintBoxes (first : Bool) : List Bound → List Box
  | [] => []
  | b :: bs =>
    (if first then [.text ": "] else [blank, .text "+ "]) ++ b.boxes ++
      Bound.constraintBoxes false bs

def Bound.boxes : Bound → List Box
  | .lifetime i => [lifetimeBox i]
  | .trait parenthesized binder relaxed p =>
    (if parenthesized then [.text "("] else []) ++ binderBoxes binder ++
      (if relaxed then [.text "?"] else []) ++ p.boxes false ++
      (if parenthesized then [.text ")"] else [])

/-- An expression. `start` tells whether it starts a line, where a short name keeps the dot behind
it, and `linked` whether a dot, an index or a question mark follows: all links of such a chain are
in one box. -/
def Expr.boxes (linked start : Bool) : Expr → List Box
  | .literal negative _ text => unlinked linked [.text (if negative then "-" ++ text else text)]
  | .bool value => unlinked linked [.text (if value then "true" else "false")]
  | .infer => unlinked linked [.text "_"]
  | .path p => unlinked linked (p.boxes true)
  | .qualified self position (.mk rooted segments) =>
    unlinked linked (qualifiedBoxes self.boxes position rooted (Segment.boxesOfList false segments)
      (Segment.boxesOfList true segments))
  | .macroCall (.mk rooted segments) d body =>
    unlinked linked
      (macroCallBoxes (Path.boxesOf rooted (Segment.boxesOfList true segments)) d body)
  | .paren e => unlinked linked (.text "(" :: e.boxes false false ++ [.text ")"])
  | .tuple elems => unlinked linked (.text "(" :: tupleBox (Expr.boxesOfList elems) ++ [.text ")"])
  | .array elems => unlinked linked (.text "[" :: itemsBox (Expr.boxesOfList elems) ++ [.text "]"])
  | .repeated e count =>
    unlinked linked
      (.text "[" :: e.boxes false false ++ .text "; " :: count.boxes false false ++ [.text "]"])
  | .block [] => unlinked linked [.text "\x7b\x7d"]
  | .block [.expr e false] =>
    unlinked linked
      [indented [.text "\x7b", blank, .group 0 false none (e.boxes false true),
        .brk { blank := 1, offset := -step }, .text "\x7d"]]
  | .block body =>
    unlinked linked
      [indented ([.text "\x7b", blank] ++ Stmt.boxesOfList true body ++ [.text "\x7d"])]
  | .record p fields =>
    let values := FieldValue.boxesOfList fields
    let inside := if values.isEmpty then [] else blank :: recordBoxes values
    unlinked linked
      [.group step true (some 34)
        (.group (-step) false none (p.boxes true) :: .text " \x7b" :: inside), .text "\x7d"]
  | .unary op e => unlinked linked (.text op.toString :: e.boxes false false)
  | .borrow mutable e =>
    unlinked linked (.text (if mutable then "&mut " else "&") :: e.boxes false false)
  | .binary op left right =>
    unlinked linked
      [.group step false none (.group (-step) false none (left.boxes false false) :: blank ::
        .text (op ++ " ") :: right.boxes false false)]
  | .assign left right =>
    unlinked linked
      [.group 0 false none (left.boxes false false ++ .text " = " :: noBreak ::
        right.boxes false false)]
  | .cast e t =>
    unlinked linked
      [.group step false none (.group (-step) false none (e.boxes false false) :: blank ::
        .text "as " :: t.boxes)]
  | .call f args =>
    f.boxes linked (!linked && start) ++
      .text "(" :: itemsBox (Expr.boxesOfList args) ++ [.text ")"]
  | .method receiver name generics args =>
    let short := start && receiver.isShortName
    linkedBox linked (receiver.boxes true start ++ (if short then [] else [gap]) ++ .text "." ::
      name.box :: generics.boxes true ++
      [.group (if short && !linked then -step else 0) true none
        (.text "(" :: itemsBox (Expr.boxesOfList args) ++ [.text ")"])])
  | .field e member =>
    linkedBox linked (e.boxes true start ++ (if start && e.isShortName then [] else [gap]) ++
      [.text ".", member.box])
  | .index e i =>
    linkedBox linked (e.boxes true start ++ .text "[" :: i.boxes false false ++ [.text "]"])
  | .question e => linkedBox linked (e.boxes true start ++ [.text "?"])

def Expr.boxesOfList : List Expr → List (List Box)
  | [] => []
  | e :: es => e.boxes false false :: Expr.boxesOfList es

def FieldValue.boxesOfList : List FieldValue → List (List Box)
  | [] => []
  | .mk i none :: fs => [i.box] :: FieldValue.boxesOfList fs
  | .mk i (some e) :: fs => (i.box :: .text ": " :: [.group 0 false none (e.boxes false false)]) ::
    FieldValue.boxesOfList fs

/-- Statements, each on a line of its own. `closes` tells whether a closing bracket follows. -/
def Stmt.boxesOfList (closes : Bool) : List Stmt → List Box
  | [] => []
  | .expr e semicolon :: ss =>
    .group 0 false none
        (e.boxes false true ++ (if semicolon || e.takesSemicolon then [.text ";"] else [])) ::
      .brk { blank := unbounded, offset := if closes && ss.isEmpty then -step else 0 } ::
      Stmt.boxesOfList closes ss

end

end LazyProxy.Code
