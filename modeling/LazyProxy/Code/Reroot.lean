import LazyProxy.Code.Tree

/-!
Types for use one module deeper: paths that start at the enclosing module or above it get one
`super` more.
-/

namespace LazyProxy.Code

/-- The segments of a path as seen from a module inside. -/
def rerootSegments (rooted : Bool) (segments : List Segment) : List Segment :=
  match rooted, segments with
  | false, .mk ⟨"self", false⟩ args :: rest => .mk ⟨"super", false⟩ args :: rest
  | false, .mk ⟨"super", false⟩ args :: rest =>
    .mk ⟨"super", false⟩ .none :: .mk ⟨"super", false⟩ args :: rest
  | _, _ => segments

mutual

/-- The type with all its paths as seen from a module inside. -/
def Ty.reroot : Ty → Ty
  | .array elem length => .array elem.reroot length.reroot
  | .slice elem => .slice elem.reroot
  | .tuple elems => .tuple (Ty.rerootList elems)
  | .paren elem => .paren elem.reroot
  | .pointer mutable target => .pointer mutable target.reroot
  | .reference lifetime mutable target => .reference lifetime mutable target.reroot
  | .never => .never
  | .infer => .infer
  | .path p => .path p.reroot
  | .qualified self position p => .qualified self.reroot position p.reroot
  | .function binder isUnsafe abi params variadic output =>
    .function binder isUnsafe abi (Param.rerootList params) variadic (Ty.rerootOption output)
  | .traitObject isDyn bounds trailing => .traitObject isDyn (Bound.rerootList bounds) trailing
  | .implTrait bounds trailing => .implTrait (Bound.rerootList bounds) trailing
  | .macroCall p d body => .macroCall p.reroot d body

def Ty.rerootOption : Option Ty → Option Ty
  | none => none
  | some t => some t.reroot

def Ty.rerootList : List Ty → List Ty
  | [] => []
  | t :: ts => t.reroot :: Ty.rerootList ts

def Param.rerootList : List Param → List Param
  | [] => []
  | .mk i t :: ps => .mk i t.reroot :: Param.rerootList ps

def Path.reroot : Path → Path
  | .mk rooted segments => .mk rooted (rerootSegments rooted (Segment.rerootList segments))

def Segment.rerootList : List Segment → List Segment
  | [] => []
  | .mk i args :: ss => .mk i args.reroot :: Segment.rerootList ss

def Args.reroot : Args → Args
  | .none => .none
  | .angled turbofish args => .angled turbofish (Arg.rerootList args)
  | .parenthesized inputs output => .parenthesized (Ty.rerootList inputs) (Ty.rerootOption output)

def Arg.rerootList : List Arg → List Arg
  | [] => []
  | .lifetime i :: as => .lifetime i :: Arg.rerootList as
  | .type t :: as => .type t.reroot :: Arg.rerootList as
  | .const e :: as => .const e.reroot :: Arg.rerootList as
  | .typeBinding i generics t :: as => .typeBinding i generics.reroot t.reroot :: Arg.rerootList as
  | .constBinding i generics e :: as =>
    .constBinding i generics.reroot e.reroot :: Arg.rerootList as
  | .constraint i generics bounds :: as =>
    .constraint i generics.reroot (Bound.rerootList bounds) :: Arg.rerootList as

def Bound.rerootList : List Bound → List Bound
  | [] => []
  | .lifetime i :: bs => .lifetime i :: Bound.rerootList bs
  | .trait parenthesized binder relaxed p :: bs =>
    .trait parenthesized binder relaxed p.reroot :: Bound.rerootList bs

def Expr.reroot : Expr → Expr
  | .literal negative kind text => .literal negative kind text
  | .bool value => .bool value
  | .infer => .infer
  | .path p => .path p.reroot
  | .qualified self position p => .qualified self.reroot position p.reroot
  | .macroCall p d body => .macroCall p.reroot d body
  | .paren e => .paren e.reroot
  | .tuple elems => .tuple (Expr.rerootList elems)
  | .array elems => .array (Expr.rerootList elems)
  | .repeated e count => .repeated e.reroot count.reroot
  | .block body => .block (Stmt.rerootList body)
  | .record p fields => .record p.reroot (FieldValue.rerootList fields)
  | .unary op e => .unary op e.reroot
  | .borrow mutable e => .borrow mutable e.reroot
  | .binary op left right => .binary op left.reroot right.reroot
  | .assign left right => .assign left.reroot right.reroot
  | .cast e t => .cast e.reroot t.reroot
  | .call f args => .call f.reroot (Expr.rerootList args)
  | .method receiver name generics args =>
    .method receiver.reroot name generics.reroot (Expr.rerootList args)
  | .field e member => .field e.reroot member
  | .index e i => .index e.reroot i.reroot
  | .question e => .question e.reroot

def Expr.rerootList : List Expr → List Expr
  | [] => []
  | e :: es => e.reroot :: Expr.rerootList es

def FieldValue.rerootList : List FieldValue → List FieldValue
  | [] => []
  | .mk i none :: fs => .mk i none :: FieldValue.rerootList fs
  | .mk i (some e) :: fs => .mk i (some e.reroot) :: FieldValue.rerootList fs

def Stmt.rerootList : List Stmt → List Stmt
  | [] => []
  | .expr e semicolon :: ss => .expr e.reroot semicolon :: Stmt.rerootList ss

end

end LazyProxy.Code
