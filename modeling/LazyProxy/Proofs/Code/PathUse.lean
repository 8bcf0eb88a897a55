import LazyProxy.Code.Tree

/-!
This module contains the paths in a type, at any depth, and what it is to rewrite them all. Two ways to
rewrite them give the same type if and only if they do the same to each path that is used in it.
-/

namespace LazyProxy.Code

/-- A path where it is used. Below a type its first `position` segments name the trait; elsewhere
`position` is zero. -/
structure PathUse where
  position : Nat
  path : Path

section

variable (f : PathUse → PathUse)

mutual

/-- The type with `f` applied to all its paths, to those in the arguments of a path before that path. -/
def Ty.mapPaths : Ty → Ty
  | .array elem length => .array elem.mapPaths length.mapPaths
  | .slice elem => .slice elem.mapPaths
  | .tuple elems => .tuple (Ty.mapPathsList elems)
  | .paren elem => .paren elem.mapPaths
  | .pointer mutable target => .pointer mutable target.mapPaths
  | .reference lifetime mutable target => .reference lifetime mutable target.mapPaths
  | .never => .never
  | .infer => .infer
  | .path p => .path (f ⟨0, p.mapArgs⟩).path
  | .qualified self position p =>
    .qualified self.mapPaths (f ⟨position, p.mapArgs⟩).position (f ⟨position, p.mapArgs⟩).path
  | .function binder isUnsafe abi params variadic output =>
    .function binder isUnsafe abi (Param.mapPathsList params) variadic (Ty.mapPathsOption output)
  | .traitObject isDyn bounds trailing => .traitObject isDyn (Bound.mapPathsList bounds) trailing
  | .implTrait bounds trailing => .implTrait (Bound.mapPathsList bounds) trailing
  | .macroCall p d body => .macroCall (f ⟨0, p.mapArgs⟩).path d body

def Ty.mapPathsOption : Option Ty → Option Ty
  | none => none
  | some t => some t.mapPaths

def Ty.mapPathsList : List Ty → List Ty
  | [] => []
  | t :: ts => t.mapPaths :: Ty.mapPathsList ts

def Param.mapPathsList : List Param → List Param
  | [] => []
  | .mk i t :: ps => .mk i t.mapPaths :: Param.mapPathsList ps

/-- The path with `f` applied to all paths in the arguments of its segments. -/
def Path.mapArgs : Path → Path
  | .mk rooted segments => .mk rooted (Segment.mapPathsList segments)

def Segment.mapPathsList : List Segment → List Segment
  | [] => []
  | .mk i args :: ss => .mk i args.mapPaths :: Segment.mapPathsList ss

def Args.mapPaths : Args → Args
  | .none => .none
  | .angled turbofish args => .angled turbofish (Arg.mapPathsList args)
  | .parenthesized inputs output =>
    .parenthesized (Ty.mapPathsList inputs) (Ty.mapPathsOption output)

def Arg.mapPathsList : List Arg → List Arg
  | [] => []
  | .lifetime i :: as => .lifetime i :: Arg.mapPathsList as
  | .type t :: as => .type t.mapPaths :: Arg.mapPathsList as
  | .const e :: as => .const e.mapPaths :: Arg.mapPathsList as
  | .typeBinding i generics t :: as =>
    .typeBinding i generics.mapPaths t.mapPaths :: Arg.mapPathsList as
  | .constBinding i generics e :: as =>
    .constBinding i generics.mapPaths e.mapPaths :: Arg.mapPathsList as
  | .constraint i generics bounds :: as =>
    .constraint i generics.mapPaths (Bound.mapPathsList bounds) :: Arg.mapPathsList as

def Bound.mapPathsList : List Bound → List Bound
  | [] => []
  | .lifetime i :: bs => .lifetime i :: Bound.mapPathsList bs
  | .trait parenthesized binder relaxed p :: bs =>
    .trait parenthesized binder relaxed (f ⟨0, p.mapArgs⟩).path :: Bound.mapPathsList bs

def Expr.mapPaths : Expr → Expr
  | .literal negative kind text => .literal negative kind text
  | .bool value => .bool value
  | .infer => .infer
  | .path p => .path (f ⟨0, p.mapArgs⟩).path
  | .qualified self position p =>
    .qualified self.mapPaths (f ⟨position, p.mapArgs⟩).position (f ⟨position, p.mapArgs⟩).path
  | .macroCall p d body => .macroCall (f ⟨0, p.mapArgs⟩).path d body
  | .paren e => .paren e.mapPaths
  | .tuple elems => .tuple (Expr.mapPathsList elems)
  | .array elems => .array (Expr.mapPathsList elems)
  | .repeated e count => .repeated e.mapPaths count.mapPaths
  | .block body => .block (Stmt.mapPathsList body)
  | .record p fields => .record (f ⟨0, p.mapArgs⟩).path (FieldValue.mapPathsList fields)
  | .unary op e => .unary op e.mapPaths
  | .borrow mutable e => .borrow mutable e.mapPaths
  | .binary op left right => .binary op left.mapPaths right.mapPaths
  | .assign left right => .assign left.mapPaths right.mapPaths
  | .cast e t => .cast e.mapPaths t.mapPaths
  | .call g args => .call g.mapPaths (Expr.mapPathsList args)
  | .method receiver name generics args =>
    .method receiver.mapPaths name generics.mapPaths (Expr.mapPathsList args)
  | .field e member => .field e.mapPaths member
  | .index e i => .index e.mapPaths i.mapPaths
  | .question e => .question e.mapPaths

def Expr.mapPathsList : List Expr → List Expr
  | [] => []
  | e :: es => e.mapPaths :: Expr.mapPathsList es

def FieldValue.mapPathsList : List FieldValue → List FieldValue
  | [] => []
  | .mk i none :: fs => .mk i none :: FieldValue.mapPathsList fs
  | .mk i (some e) :: fs => .mk i (some e.mapPaths) :: FieldValue.mapPathsList fs

def Stmt.mapPathsList : List Stmt → List Stmt
  | [] => []
  | .expr e semicolon :: ss => .expr e.mapPaths semicolon :: Stmt.mapPathsList ss

end

end

mutual

/-- All paths in a type, at any depth, with their uses. -/
def Ty.pathUses : Ty → List PathUse
  | .array elem length => elem.pathUses ++ length.pathUses
  | .slice elem => elem.pathUses
  | .tuple elems => Ty.pathUsesList elems
  | .paren elem => elem.pathUses
  | .pointer _ target => target.pathUses
  | .reference _ _ target => target.pathUses
  | .never => []
  | .infer => []
  | .path p => ⟨0, p⟩ :: p.argUses
  | .qualified self position p => self.pathUses ++ ⟨position, p⟩ :: p.argUses
  | .function _ _ _ params _ output => Param.pathUsesList params ++ Ty.pathUsesOption output
  | .traitObject _ bounds _ => Bound.pathUsesList bounds
  | .implTrait bounds _ => Bound.pathUsesList bounds
  | .macroCall p _ _ => ⟨0, p⟩ :: p.argUses

def Ty.pathUsesOption : Option Ty → List PathUse
  | none => []
  | some t => t.pathUses

def Ty.pathUsesList : List Ty → List PathUse
  | [] => []
  | t :: ts => t.pathUses ++ Ty.pathUsesList ts

def Param.pathUsesList : List Param → List PathUse
  | [] => []
  | .mk _ t :: ps => t.pathUses ++ Param.pathUsesList ps

/-- All paths in the arguments of a path's segments. -/
def Path.argUses : Path → List PathUse
  | .mk _ segments => Segment.pathUsesList segments

def Segment.pathUsesList : List Segment → List PathUse
  | [] => []
  | .mk _ args :: ss => args.pathUses ++ Segment.pathUsesList ss

def Args.pathUses : Args → List PathUse
  | .none => []
  | .angled _ args => Arg.pathUsesList args
  | .parenthesized inputs output => Ty.pathUsesList inputs ++ Ty.pathUsesOption output

def Arg.pathUsesList : List Arg → List PathUse
  | [] => []
  | .lifetime _ :: as => Arg.pathUsesList as
  | .type t :: as => t.pathUses ++ Arg.pathUsesList as
  | .const e :: as => e.pathUses ++ Arg.pathUsesList as
  | .typeBinding _ generics t :: as => generics.pathUses ++ t.pathUses ++ Arg.pathUsesList as
  | .constBinding _ generics e :: as => generics.pathUses ++ e.pathUses ++ Arg.pathUsesList as
  | .constraint _ generics bounds :: as =>
    generics.pathUses ++ Bound.pathUsesList bounds ++ Arg.pathUsesList as

def Bound.pathUsesList : List Bound → List PathUse
  | [] => []
  | .lifetime _ :: bs => Bound.pathUsesList bs
  | .trait _ _ _ p :: bs => ⟨0, p⟩ :: p.argUses ++ Bound.pathUsesList bs

def Expr.pathUses : Expr → List PathUse
  | .literal _ _ _ => []
  | .bool _ => []
  | .infer => []
  | .path p => ⟨0, p⟩ :: p.argUses
  | .qualified self position p => self.pathUses ++ ⟨position, p⟩ :: p.argUses
  | .macroCall p _ _ => ⟨0, p⟩ :: p.argUses
  | .paren e => e.pathUses
  | .tuple elems => Expr.pathUsesList elems
  | .array elems => Expr.pathUsesList elems
  | .repeated e count => e.pathUses ++ count.pathUses
  | .block body => Stmt.pathUsesList body
  | .record p fields => ⟨0, p⟩ :: p.argUses ++ FieldValue.pathUsesList fields
  | .unary _ e => e.pathUses
  | .borrow _ e => e.pathUses
  | .binary _ left right => left.pathUses ++ right.pathUses
  | .assign left right => left.pathUses ++ right.pathUses
  | .cast e t => e.pathUses ++ t.pathUses
  | .call g args => g.pathUses ++ Expr.pathUsesList args
  | .method receiver _ generics args =>
    receiver.pathUses ++ generics.pathUses ++ Expr.pathUsesList args
  | .field e _ => e.pathUses
  | .index e i => e.pathUses ++ i.pathUses
  | .question e => e.pathUses

def Expr.pathUsesList : List Expr → List PathUse
  | [] => []
  | e :: es => e.pathUses ++ Expr.pathUsesList es

def FieldValue.pathUsesList : List FieldValue → List PathUse
  | [] => []
  | .mk _ none :: fs => FieldValue.pathUsesList fs
  | .mk _ (some e) :: fs => e.pathUses ++ FieldValue.pathUsesList fs

def Stmt.pathUsesList : List Stmt → List PathUse
  | [] => []
  | .expr e _ :: ss => e.pathUses ++ Stmt.pathUsesList ss

end

/-- Two rewritings do the same to a use of a path, up to the arguments of the path, if and only if `P`
holds of the use. -/
structure PathUse.SameIff (f g : PathUse → PathUse) (P : PathUse → Prop) : Prop where
  plain : ∀ p, (f ⟨0, p.mapArgs f⟩).path = (g ⟨0, p.mapArgs g⟩).path
    ↔ P ⟨0, p⟩ ∧ p.mapArgs f = p.mapArgs g
  qualified : ∀ position p,
    ((f ⟨position, p.mapArgs f⟩).position = (g ⟨position, p.mapArgs g⟩).position
        ∧ (f ⟨position, p.mapArgs f⟩).path = (g ⟨position, p.mapArgs g⟩).path)
      ↔
    P ⟨position, p⟩ ∧ p.mapArgs f = p.mapArgs g

section

variable {f g : PathUse → PathUse} {P : PathUse → Prop}

mutual

theorem Ty.mapPaths_eq_iff (h : PathUse.SameIff f g P) (t : Ty)
    : t.mapPaths f = t.mapPaths g ↔ ∀ u ∈ t.pathUses, P u := by
  cases t with
  | array elem length =>
    rw [Ty.mapPaths, Ty.mapPaths, Ty.array.injEq, Ty.mapPaths_eq_iff h elem,
      Expr.mapPaths_eq_iff h length, Ty.pathUses, List.forall_mem_append]
  | slice elem =>
    rw [Ty.mapPaths, Ty.mapPaths, Ty.slice.injEq, Ty.mapPaths_eq_iff h elem, Ty.pathUses]
  | tuple elems =>
    rw [Ty.mapPaths, Ty.mapPaths, Ty.tuple.injEq, Ty.mapPathsList_eq_iff h elems, Ty.pathUses]
  | paren elem =>
    rw [Ty.mapPaths, Ty.mapPaths, Ty.paren.injEq, Ty.mapPaths_eq_iff h elem, Ty.pathUses]
  | pointer mutable target =>
    rw [Ty.mapPaths, Ty.mapPaths, Ty.pointer.injEq, Ty.mapPaths_eq_iff h target, Ty.pathUses]
    simp
  | reference lifetime mutable target =>
    rw [Ty.mapPaths, Ty.mapPaths, Ty.reference.injEq, Ty.mapPaths_eq_iff h target, Ty.pathUses]
    simp
  | never => simp [Ty.mapPaths, Ty.pathUses]
  | infer => simp [Ty.mapPaths, Ty.pathUses]
  | path p =>
    rw [Ty.mapPaths, Ty.mapPaths, Ty.path.injEq, h.plain, Path.mapArgs_eq_iff h p, Ty.pathUses,
      List.forall_mem_cons]
  | qualified self position p =>
    rw [Ty.mapPaths, Ty.mapPaths, Ty.qualified.injEq, Ty.mapPaths_eq_iff h self, h.qualified,
      Path.mapArgs_eq_iff h p, Ty.pathUses, List.forall_mem_append, List.forall_mem_cons]
  | function binder isUnsafe abi params variadic output =>
    rw [Ty.mapPaths, Ty.mapPaths, Ty.function.injEq, Param.mapPathsList_eq_iff h params,
      Ty.mapPathsOption_eq_iff h output, Ty.pathUses, List.forall_mem_append]
    simp
  | traitObject isDyn bounds trailing =>
    rw [Ty.mapPaths, Ty.mapPaths, Ty.traitObject.injEq, Bound.mapPathsList_eq_iff h bounds,
      Ty.pathUses]
    simp
  | implTrait bounds trailing =>
    rw [Ty.mapPaths, Ty.mapPaths, Ty.implTrait.injEq, Bound.mapPathsList_eq_iff h bounds,
      Ty.pathUses]
    simp
  | macroCall p d body =>
    rw [Ty.mapPaths, Ty.mapPaths, Ty.macroCall.injEq, h.plain, Path.mapArgs_eq_iff h p, Ty.pathUses,
      List.forall_mem_cons]
    simp

theorem Ty.mapPathsOption_eq_iff (h : PathUse.SameIff f g P) (t : Option Ty)
    : Ty.mapPathsOption f t = Ty.mapPathsOption g t ↔ ∀ u ∈ Ty.pathUsesOption t, P u := by
  cases t with
  | none => simp [Ty.mapPathsOption, Ty.pathUsesOption]
  | some t =>
    rw [Ty.mapPathsOption, Ty.mapPathsOption, Option.some.injEq, Ty.mapPaths_eq_iff h t,
      Ty.pathUsesOption]

theorem Ty.mapPathsList_eq_iff (h : PathUse.SameIff f g P) (ts : List Ty)
    : Ty.mapPathsList f ts = Ty.mapPathsList g ts ↔ ∀ u ∈ Ty.pathUsesList ts, P u := by
  cases ts with
  | nil => simp [Ty.mapPathsList, Ty.pathUsesList]
  | cons t ts =>
    rw [Ty.mapPathsList, Ty.mapPathsList, List.cons.injEq, Ty.mapPaths_eq_iff h t,
      Ty.mapPathsList_eq_iff h ts, Ty.pathUsesList, List.forall_mem_append]

theorem Param.mapPathsList_eq_iff (h : PathUse.SameIff f g P) (ps : List Param)
    : Param.mapPathsList f ps = Param.mapPathsList g ps ↔ ∀ u ∈ Param.pathUsesList ps, P u := by
  cases ps with
  | nil => simp [Param.mapPathsList, Param.pathUsesList]
  | cons p ps =>
    rcases p with ⟨i, t⟩
    rw [Param.mapPathsList, Param.mapPathsList, List.cons.injEq, Param.mk.injEq,
      Ty.mapPaths_eq_iff h t, Param.mapPathsList_eq_iff h ps, Param.pathUsesList,
      List.forall_mem_append]
    simp

theorem Path.mapArgs_eq_iff (h : PathUse.SameIff f g P) (p : Path)
    : p.mapArgs f = p.mapArgs g ↔ ∀ u ∈ p.argUses, P u := by
  rcases p with ⟨rooted, segments⟩
  rw [Path.mapArgs, Path.mapArgs, Path.mk.injEq, Segment.mapPathsList_eq_iff h segments,
    Path.argUses]
  simp

theorem Segment.mapPathsList_eq_iff (h : PathUse.SameIff f g P) (ss : List Segment)
    : Segment.mapPathsList f ss = Segment.mapPathsList g ss
        ↔
      ∀ u ∈ Segment.pathUsesList ss, P u := by
  cases ss with
  | nil => simp [Segment.mapPathsList, Segment.pathUsesList]
  | cons s ss =>
    rcases s with ⟨i, args⟩
    rw [Segment.mapPathsList, Segment.mapPathsList, List.cons.injEq, Segment.mk.injEq,
      Args.mapPaths_eq_iff h args, Segment.mapPathsList_eq_iff h ss, Segment.pathUsesList,
      List.forall_mem_append]
    simp

theorem Args.mapPaths_eq_iff (h : PathUse.SameIff f g P) (args : Args)
    : args.mapPaths f = args.mapPaths g ↔ ∀ u ∈ args.pathUses, P u := by
  cases args with
  | none => simp [Args.mapPaths, Args.pathUses]
  | angled turbofish args =>
    rw [Args.mapPaths, Args.mapPaths, Args.angled.injEq, Arg.mapPathsList_eq_iff h args,
      Args.pathUses]
    simp
  | parenthesized inputs output =>
    rw [Args.mapPaths, Args.mapPaths, Args.parenthesized.injEq, Ty.mapPathsList_eq_iff h inputs,
      Ty.mapPathsOption_eq_iff h output, Args.pathUses, List.forall_mem_append]

theorem Arg.mapPathsList_eq_iff (h : PathUse.SameIff f g P) (as : List Arg)
    : Arg.mapPathsList f as = Arg.mapPathsList g as ↔ ∀ u ∈ Arg.pathUsesList as, P u := by
  cases as with
  | nil => simp [Arg.mapPathsList, Arg.pathUsesList]
  | cons a as =>
    cases a with
    | lifetime i =>
      rw [Arg.mapPathsList, Arg.mapPathsList, List.cons.injEq, Arg.mapPathsList_eq_iff h as,
        Arg.pathUsesList]
      simp
    | type t =>
      rw [Arg.mapPathsList, Arg.mapPathsList, List.cons.injEq, Arg.type.injEq,
        Ty.mapPaths_eq_iff h t, Arg.mapPathsList_eq_iff h as, Arg.pathUsesList,
        List.forall_mem_append]
    | const e =>
      rw [Arg.mapPathsList, Arg.mapPathsList, List.cons.injEq, Arg.const.injEq,
        Expr.mapPaths_eq_iff h e, Arg.mapPathsList_eq_iff h as, Arg.pathUsesList,
        List.forall_mem_append]
    | typeBinding i generics t =>
      rw [Arg.mapPathsList, Arg.mapPathsList, List.cons.injEq, Arg.typeBinding.injEq,
        Args.mapPaths_eq_iff h generics, Ty.mapPaths_eq_iff h t, Arg.mapPathsList_eq_iff h as,
        Arg.pathUsesList, List.forall_mem_append, List.forall_mem_append]
      simp
    | constBinding i generics e =>
      rw [Arg.mapPathsList, Arg.mapPathsList, List.cons.injEq, Arg.constBinding.injEq,
        Args.mapPaths_eq_iff h generics, Expr.mapPaths_eq_iff h e, Arg.mapPathsList_eq_iff h as,
        Arg.pathUsesList, List.forall_mem_append, List.forall_mem_append]
      simp
    | constraint i generics bounds =>
      rw [Arg.mapPathsList, Arg.mapPathsList, List.cons.injEq, Arg.constraint.injEq,
        Args.mapPaths_eq_iff h generics, Bound.mapPathsList_eq_iff h bounds,
        Arg.mapPathsList_eq_iff h as, Arg.pathUsesList, List.forall_mem_append,
        List.forall_mem_append]
      simp

theorem Bound.mapPathsList_eq_iff (h : PathUse.SameIff f g P) (bs : List Bound)
    : Bound.mapPathsList f bs = Bound.mapPathsList g bs ↔ ∀ u ∈ Bound.pathUsesList bs, P u := by
  cases bs with
  | nil => simp [Bound.mapPathsList, Bound.pathUsesList]
  | cons b bs =>
    cases b with
    | lifetime i =>
      rw [Bound.mapPathsList, Bound.mapPathsList, List.cons.injEq, Bound.mapPathsList_eq_iff h bs,
        Bound.pathUsesList]
      simp
    | trait parenthesized binder relaxed p =>
      rw [Bound.mapPathsList, Bound.mapPathsList, List.cons.injEq, Bound.trait.injEq, h.plain,
        Path.mapArgs_eq_iff h p, Bound.mapPathsList_eq_iff h bs, Bound.pathUsesList,
        List.forall_mem_append, List.forall_mem_cons]
      simp

theorem Expr.mapPaths_eq_iff (h : PathUse.SameIff f g P) (e : Expr)
    : e.mapPaths f = e.mapPaths g ↔ ∀ u ∈ e.pathUses, P u := by
  cases e with
  | literal negative kind text => simp [Expr.mapPaths, Expr.pathUses]
  | bool value => simp [Expr.mapPaths, Expr.pathUses]
  | infer => simp [Expr.mapPaths, Expr.pathUses]
  | path p =>
    rw [Expr.mapPaths, Expr.mapPaths, Expr.path.injEq, h.plain, Path.mapArgs_eq_iff h p,
      Expr.pathUses, List.forall_mem_cons]
  | qualified self position p =>
    rw [Expr.mapPaths, Expr.mapPaths, Expr.qualified.injEq, Ty.mapPaths_eq_iff h self, h.qualified,
      Path.mapArgs_eq_iff h p, Expr.pathUses, List.forall_mem_append, List.forall_mem_cons]
  | macroCall p d body =>
    rw [Expr.mapPaths, Expr.mapPaths, Expr.macroCall.injEq, h.plain, Path.mapArgs_eq_iff h p,
      Expr.pathUses, List.forall_mem_cons]
    simp
  | paren e =>
    rw [Expr.mapPaths, Expr.mapPaths, Expr.paren.injEq, Expr.mapPaths_eq_iff h e, Expr.pathUses]
  | tuple elems =>
    rw [Expr.mapPaths, Expr.mapPaths, Expr.tuple.injEq, Expr.mapPathsList_eq_iff h elems,
      Expr.pathUses]
  | array elems =>
    rw [Expr.mapPaths, Expr.mapPaths, Expr.array.injEq, Expr.mapPathsList_eq_iff h elems,
      Expr.pathUses]
  | repeated e count =>
    rw [Expr.mapPaths, Expr.mapPaths, Expr.repeated.injEq, Expr.mapPaths_eq_iff h e,
      Expr.mapPaths_eq_iff h count, Expr.pathUses, List.forall_mem_append]
  | block body =>
    rw [Expr.mapPaths, Expr.mapPaths, Expr.block.injEq, Stmt.mapPathsList_eq_iff h body,
      Expr.pathUses]
  | record p fields =>
    rw [Expr.mapPaths, Expr.mapPaths, Expr.record.injEq, h.plain, Path.mapArgs_eq_iff h p,
      FieldValue.mapPathsList_eq_iff h fields, Expr.pathUses, List.forall_mem_append,
      List.forall_mem_cons]
  | unary op e =>
    rw [Expr.mapPaths, Expr.mapPaths, Expr.unary.injEq, Expr.mapPaths_eq_iff h e, Expr.pathUses]
    simp
  | borrow mutable e =>
    rw [Expr.mapPaths, Expr.mapPaths, Expr.borrow.injEq, Expr.mapPaths_eq_iff h e, Expr.pathUses]
    simp
  | binary op left right =>
    rw [Expr.mapPaths, Expr.mapPaths, Expr.binary.injEq, Expr.mapPaths_eq_iff h left,
      Expr.mapPaths_eq_iff h right, Expr.pathUses, List.forall_mem_append]
    simp
  | assign left right =>
    rw [Expr.mapPaths, Expr.mapPaths, Expr.assign.injEq, Expr.mapPaths_eq_iff h left,
      Expr.mapPaths_eq_iff h right, Expr.pathUses, List.forall_mem_append]
  | cast e t =>
    rw [Expr.mapPaths, Expr.mapPaths, Expr.cast.injEq, Expr.mapPaths_eq_iff h e,
      Ty.mapPaths_eq_iff h t, Expr.pathUses, List.forall_mem_append]
  | call callee args =>
    rw [Expr.mapPaths, Expr.mapPaths, Expr.call.injEq, Expr.mapPaths_eq_iff h callee,
      Expr.mapPathsList_eq_iff h args, Expr.pathUses, List.forall_mem_append]
  | method receiver name generics args =>
    rw [Expr.mapPaths, Expr.mapPaths, Expr.method.injEq, Expr.mapPaths_eq_iff h receiver,
      Args.mapPaths_eq_iff h generics, Expr.mapPathsList_eq_iff h args, Expr.pathUses,
      List.forall_mem_append, List.forall_mem_append]
    simp [and_assoc]
  | field e member =>
    rw [Expr.mapPaths, Expr.mapPaths, Expr.field.injEq, Expr.mapPaths_eq_iff h e, Expr.pathUses]
    simp
  | index e i =>
    rw [Expr.mapPaths, Expr.mapPaths, Expr.index.injEq, Expr.mapPaths_eq_iff h e,
      Expr.mapPaths_eq_iff h i, Expr.pathUses, List.forall_mem_append]
  | question e =>
    rw [Expr.mapPaths, Expr.mapPaths, Expr.question.injEq, Expr.mapPaths_eq_iff h e, Expr.pathUses]

theorem Expr.mapPathsList_eq_iff (h : PathUse.SameIff f g P) (es : List Expr)
    : Expr.mapPathsList f es = Expr.mapPathsList g es ↔ ∀ u ∈ Expr.pathUsesList es, P u := by
  cases es with
  | nil => simp [Expr.mapPathsList, Expr.pathUsesList]
  | cons e es =>
    rw [Expr.mapPathsList, Expr.mapPathsList, List.cons.injEq, Expr.mapPaths_eq_iff h e,
      Expr.mapPathsList_eq_iff h es, Expr.pathUsesList, List.forall_mem_append]

theorem FieldValue.mapPathsList_eq_iff (h : PathUse.SameIff f g P) (fs : List FieldValue)
    : FieldValue.mapPathsList f fs = FieldValue.mapPathsList g fs
        ↔
      ∀ u ∈ FieldValue.pathUsesList fs, P u := by
  cases fs with
  | nil => simp [FieldValue.mapPathsList, FieldValue.pathUsesList]
  | cons v fs =>
    rcases v with ⟨i, value⟩
    cases value with
    | none =>
      rw [FieldValue.mapPathsList, FieldValue.mapPathsList, List.cons.injEq,
        FieldValue.mapPathsList_eq_iff h fs, FieldValue.pathUsesList]
      simp
    | some e =>
      rw [FieldValue.mapPathsList, FieldValue.mapPathsList, List.cons.injEq, FieldValue.mk.injEq,
        Option.some.injEq, Expr.mapPaths_eq_iff h e, FieldValue.mapPathsList_eq_iff h fs,
        FieldValue.pathUsesList, List.forall_mem_append]
      simp

theorem Stmt.mapPathsList_eq_iff (h : PathUse.SameIff f g P) (ss : List Stmt)
    : Stmt.mapPathsList f ss = Stmt.mapPathsList g ss ↔ ∀ u ∈ Stmt.pathUsesList ss, P u := by
  cases ss with
  | nil => simp [Stmt.mapPathsList, Stmt.pathUsesList]
  | cons s ss =>
    rcases s with ⟨e, semicolon⟩
    rw [Stmt.mapPathsList, Stmt.mapPathsList, List.cons.injEq, Stmt.expr.injEq,
      Expr.mapPaths_eq_iff h e, Stmt.mapPathsList_eq_iff h ss, Stmt.pathUsesList,
      List.forall_mem_append]
    simp

end

end

end LazyProxy.Code
