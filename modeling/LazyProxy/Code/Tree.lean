import LazyProxy.Code.Token

/-!
Syntax trees of Rust types and of the expressions that occur in them, in the lengths of arrays and in
constant arguments.

Expressions are those that compute a value from others. There is no control flow (`if`, `match`, loops,
`let` as a condition, `return`, `break`, `continue`, `await`), no closure, range, pattern or attribute, no
block with a label or a word in front, no field of a field in one number (`x.0.1`), and no value of a
structure that takes its other fields from a base or is named below a type. Statements are expressions:
none declares a variable or an item, and none is a `use`. In types, the lifetimes of a binder have no
bounds, parameters have no attributes, and no bound lists what a type captures. What has any of these is
no type here.
-/

namespace LazyProxy.Code

mutual

inductive Ty where
  | array (elem : Ty) (length : Expr)
  | slice (elem : Ty)
  | tuple (elems : List Ty)
  | paren (elem : Ty)
  | pointer (mutable : Bool) (target : Ty)
  | reference (lifetime : Option Ident) (mutable : Bool) (target : Ty)
  | never
  | infer
  | path (p : Path)
  /-- A path below a type. The first `position` segments name the trait that it comes from:
  `<self as a::b>::c` has the path `a::b::c` and the position two. -/
  | qualified (self : Ty) (position : Nat) (p : Path)
  | function (binder : Option (List Ident)) (isUnsafe : Bool) (abi : Option (Option String))
      (params : List Param) (variadic : Option (Option Ident)) (output : Option Ty)
  /-- A sum of bounds. `trailing` tells whether it ends with a plus sign. -/
  | traitObject (isDyn : Bool) (bounds : List Bound) (trailing : Bool)
  | implTrait (bounds : List Bound) (trailing : Bool)
  | macroCall (p : Path) (d : Delimiter) (body : List Token)

inductive Param where
  | mk (name : Option Ident) (type : Ty)

inductive Path where
  /-- A path by its segments. A rooted one starts with a double colon. -/
  | mk (rooted : Bool) (segments : List Segment)

inductive Segment where
  | mk (name : Ident) (args : Args)

inductive Args where
  | none
  | angled (turbofish : Bool) (args : List Arg)
  | parenthesized (inputs : List Ty) (output : Option Ty)

inductive Arg where
  | lifetime (i : Ident)
  | type (t : Ty)
  | const (e : Expr)
  | typeBinding (name : Ident) (generics : Args) (t : Ty)
  | constBinding (name : Ident) (generics : Args) (e : Expr)
  | constraint (name : Ident) (generics : Args) (bounds : List Bound)

inductive Bound where
  | lifetime (i : Ident)
  | trait (parenthesized : Bool) (binder : Option (List Ident)) (relaxed : Bool) (p : Path)

/-- An expression without control flow, patterns and declarations. -/
inductive Expr where
  | literal (negative : Bool) (kind : LiteralKind) (text : String)
  | bool (value : Bool)
  | infer
  | path (p : Path)
  | qualified (self : Ty) (position : Nat) (p : Path)
  | macroCall (p : Path) (d : Delimiter) (body : List Token)
  | paren (e : Expr)
  | tuple (elems : List Expr)
  | array (elems : List Expr)
  | repeated (e count : Expr)
  | block (body : List Stmt)
  | record (p : Path) (fields : List FieldValue)
  | unary (op : Char) (e : Expr)
  | borrow (mutable : Bool) (e : Expr)
  | binary (op : String) (left right : Expr)
  | assign (left right : Expr)
  | cast (e : Expr) (t : Ty)
  | call (f : Expr) (args : List Expr)
  | method (receiver : Expr) (name : Ident) (generics : Args) (args : List Expr)
  | field (e : Expr) (member : Ident)
  | index (e i : Expr)
  | question (e : Expr)

inductive FieldValue where
  /-- A field with its value, or a field that takes the value of the variable of its name. -/
  | mk (name : Ident) (value : Option Expr)

/-- A statement that declares nothing. -/
inductive Stmt where
  /-- An expression as a statement, with a semicolon or without. -/
  | expr (e : Expr) (semicolon : Bool)

end

instance : Inhabited Ty := ⟨.infer⟩
instance : Inhabited Path := ⟨.mk false []⟩
instance : Inhabited Expr := ⟨.infer⟩

namespace Path

def rooted : Path → Bool
  | mk r _ => r

def segments : Path → List Segment
  | mk _ ss => ss

end Path

/-- A path of one plain segment. -/
def Path.ofIdent (i : Ident) : Path :=
  .mk false [.mk i .none]

/-- The only segment of a path that is a plain name. -/
def Path.ident? : Path → Option Ident
  | .mk false [.mk i .none] => some i
  | _ => none

/-- Whether no segment takes arguments. -/
def Path.isPlain (p : Path) : Bool :=
  p.segments.all fun | .mk _ .none => true | _ => false

end LazyProxy.Code
