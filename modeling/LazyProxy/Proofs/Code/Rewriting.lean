import LazyProxy.Proofs.Code.PathUse

/-!
This module contains that the paths in a type whose paths are rewritten are the rewritten paths, if the
rewriting keeps the arguments of a path.
-/

namespace LazyProxy.Code

namespace PathUse

/-- A rewriting that keeps the arguments of a path. Away from other types a path has no trait. -/
structure KeepsArgs (f : PathUse → PathUse) : Prop where
  position : ∀ p, (f ⟨0, p⟩).position = 0
  argUses : ∀ u, (f u).path.argUses = u.path.argUses

/-- The use of a path that a rewriting makes of it, with the paths in its arguments rewritten before. -/
def rewrite (f : PathUse → PathUse) (u : PathUse) : PathUse :=
  f ⟨u.position, u.path.mapArgs f⟩

variable {f : PathUse → PathUse} (h : KeepsArgs f)

include h

theorem KeepsArgs.mk_zero (p : Path) : ⟨0, (f ⟨0, p.mapArgs f⟩).path⟩ = rewrite f ⟨0, p⟩ := by
  have hposition := h.position (p.mapArgs f)
  exact congrArg (PathUse.mk · (f ⟨0, p.mapArgs f⟩).path) hposition.symm

end PathUse

section

variable {f : PathUse → PathUse}

open PathUse

mutual

theorem Ty.pathUses_mapPaths (h : KeepsArgs f) (t : Ty)
    : (t.mapPaths f).pathUses = t.pathUses.map (rewrite f) := by
  cases t with
  | array elem length =>
    rw [Ty.mapPaths, Ty.pathUses, Ty.pathUses_mapPaths h elem, Expr.pathUses_mapPaths h length,
      Ty.pathUses, List.map_append]
  | slice elem => rw [Ty.mapPaths, Ty.pathUses, Ty.pathUses_mapPaths h elem, Ty.pathUses]
  | tuple elems => rw [Ty.mapPaths, Ty.pathUses, Ty.pathUsesList_mapPathsList h elems, Ty.pathUses]
  | paren elem => rw [Ty.mapPaths, Ty.pathUses, Ty.pathUses_mapPaths h elem, Ty.pathUses]
  | pointer mutable target =>
    rw [Ty.mapPaths, Ty.pathUses, Ty.pathUses_mapPaths h target, Ty.pathUses]
  | reference lifetime mutable target =>
    rw [Ty.mapPaths, Ty.pathUses, Ty.pathUses_mapPaths h target, Ty.pathUses]
  | never => rfl
  | infer => rfl
  | path p =>
    rw [Ty.mapPaths, Ty.pathUses, h.mk_zero, h.argUses, Path.argUses_mapArgs h p, Ty.pathUses,
      List.map_cons]
  | qualified self position p =>
    rw [Ty.mapPaths, Ty.pathUses, Ty.pathUses_mapPaths h self, h.argUses, Path.argUses_mapArgs h p,
      Ty.pathUses, List.map_append, List.map_cons]
    rfl
  | function binder isUnsafe abi params variadic output =>
    rw [Ty.mapPaths, Ty.pathUses, Param.pathUsesList_mapPathsList h params,
      Ty.pathUsesOption_mapPathsOption h output, Ty.pathUses, List.map_append]
  | traitObject isDyn bounds trailing =>
    rw [Ty.mapPaths, Ty.pathUses, Bound.pathUsesList_mapPathsList h bounds, Ty.pathUses]
  | implTrait bounds trailing =>
    rw [Ty.mapPaths, Ty.pathUses, Bound.pathUsesList_mapPathsList h bounds, Ty.pathUses]
  | macroCall p d body =>
    rw [Ty.mapPaths, Ty.pathUses, h.mk_zero, h.argUses, Path.argUses_mapArgs h p, Ty.pathUses,
      List.map_cons]

theorem Ty.pathUsesOption_mapPathsOption (h : KeepsArgs f) (t : Option Ty)
    : Ty.pathUsesOption (Ty.mapPathsOption f t) = (Ty.pathUsesOption t).map (rewrite f) := by
  cases t with
  | none => rfl
  | some t => rw [Ty.mapPathsOption, Ty.pathUsesOption, Ty.pathUses_mapPaths h t, Ty.pathUsesOption]

theorem Ty.pathUsesList_mapPathsList (h : KeepsArgs f) (ts : List Ty)
    : Ty.pathUsesList (Ty.mapPathsList f ts) = (Ty.pathUsesList ts).map (rewrite f) := by
  cases ts with
  | nil => rfl
  | cons t ts =>
    rw [Ty.mapPathsList, Ty.pathUsesList, Ty.pathUses_mapPaths h t,
      Ty.pathUsesList_mapPathsList h ts, Ty.pathUsesList, List.map_append]

theorem Param.pathUsesList_mapPathsList (h : KeepsArgs f) (ps : List Param)
    : Param.pathUsesList (Param.mapPathsList f ps) = (Param.pathUsesList ps).map (rewrite f) := by
  cases ps with
  | nil => rfl
  | cons p ps =>
    rcases p with ⟨i, t⟩
    rw [Param.mapPathsList, Param.pathUsesList, Ty.pathUses_mapPaths h t,
      Param.pathUsesList_mapPathsList h ps, Param.pathUsesList, List.map_append]

theorem Path.argUses_mapArgs (h : KeepsArgs f) (p : Path)
    : (p.mapArgs f).argUses = p.argUses.map (rewrite f) := by
  rcases p with ⟨rooted, segments⟩
  rw [Path.mapArgs, Path.argUses, Segment.pathUsesList_mapPathsList h segments, Path.argUses]

theorem Segment.pathUsesList_mapPathsList (h : KeepsArgs f) (ss : List Segment)
    : Segment.pathUsesList (Segment.mapPathsList f ss)
        =
      (Segment.pathUsesList ss).map (rewrite f) := by
  cases ss with
  | nil => rfl
  | cons s ss =>
    rcases s with ⟨i, args⟩
    rw [Segment.mapPathsList, Segment.pathUsesList, Args.pathUses_mapPaths h args,
      Segment.pathUsesList_mapPathsList h ss, Segment.pathUsesList, List.map_append]

theorem Args.pathUses_mapPaths (h : KeepsArgs f) (args : Args)
    : (args.mapPaths f).pathUses = args.pathUses.map (rewrite f) := by
  cases args with
  | none => rfl
  | angled turbofish args =>
    rw [Args.mapPaths, Args.pathUses, Arg.pathUsesList_mapPathsList h args, Args.pathUses]
  | parenthesized inputs output =>
    rw [Args.mapPaths, Args.pathUses, Ty.pathUsesList_mapPathsList h inputs,
      Ty.pathUsesOption_mapPathsOption h output, Args.pathUses, List.map_append]

theorem Arg.pathUsesList_mapPathsList (h : KeepsArgs f) (as : List Arg)
    : Arg.pathUsesList (Arg.mapPathsList f as) = (Arg.pathUsesList as).map (rewrite f) := by
  cases as with
  | nil => rfl
  | cons a as =>
    cases a with
    | lifetime i =>
      rw [Arg.mapPathsList, Arg.pathUsesList, Arg.pathUsesList_mapPathsList h as, Arg.pathUsesList]
    | type t =>
      rw [Arg.mapPathsList, Arg.pathUsesList, Ty.pathUses_mapPaths h t,
        Arg.pathUsesList_mapPathsList h as, Arg.pathUsesList, List.map_append]
    | const e =>
      rw [Arg.mapPathsList, Arg.pathUsesList, Expr.pathUses_mapPaths h e,
        Arg.pathUsesList_mapPathsList h as, Arg.pathUsesList, List.map_append]
    | typeBinding i generics t =>
      rw [Arg.mapPathsList, Arg.pathUsesList, Args.pathUses_mapPaths h generics,
        Ty.pathUses_mapPaths h t, Arg.pathUsesList_mapPathsList h as, Arg.pathUsesList,
        List.map_append, List.map_append]
    | constBinding i generics e =>
      rw [Arg.mapPathsList, Arg.pathUsesList, Args.pathUses_mapPaths h generics,
        Expr.pathUses_mapPaths h e, Arg.pathUsesList_mapPathsList h as, Arg.pathUsesList,
        List.map_append, List.map_append]
    | constraint i generics bounds =>
      rw [Arg.mapPathsList, Arg.pathUsesList, Args.pathUses_mapPaths h generics,
        Bound.pathUsesList_mapPathsList h bounds, Arg.pathUsesList_mapPathsList h as,
        Arg.pathUsesList, List.map_append, List.map_append]

theorem Bound.pathUsesList_mapPathsList (h : KeepsArgs f) (bs : List Bound)
    : Bound.pathUsesList (Bound.mapPathsList f bs) = (Bound.pathUsesList bs).map (rewrite f) := by
  cases bs with
  | nil => rfl
  | cons b bs =>
    cases b with
    | lifetime i =>
      rw [Bound.mapPathsList, Bound.pathUsesList, Bound.pathUsesList_mapPathsList h bs,
        Bound.pathUsesList]
    | trait parenthesized binder relaxed p =>
      rw [Bound.mapPathsList, Bound.pathUsesList, h.mk_zero, h.argUses, Path.argUses_mapArgs h p,
        Bound.pathUsesList_mapPathsList h bs, Bound.pathUsesList, List.map_append, List.map_cons]

theorem Expr.pathUses_mapPaths (h : KeepsArgs f) (e : Expr)
    : (e.mapPaths f).pathUses = e.pathUses.map (rewrite f) := by
  cases e with
  | literal negative kind text => rfl
  | bool value => rfl
  | infer => rfl
  | path p =>
    rw [Expr.mapPaths, Expr.pathUses, h.mk_zero, h.argUses, Path.argUses_mapArgs h p, Expr.pathUses,
      List.map_cons]
  | qualified self position p =>
    rw [Expr.mapPaths, Expr.pathUses, Ty.pathUses_mapPaths h self, h.argUses,
      Path.argUses_mapArgs h p, Expr.pathUses, List.map_append, List.map_cons]
    rfl
  | macroCall p d body =>
    rw [Expr.mapPaths, Expr.pathUses, h.mk_zero, h.argUses, Path.argUses_mapArgs h p, Expr.pathUses,
      List.map_cons]
  | paren e => rw [Expr.mapPaths, Expr.pathUses, Expr.pathUses_mapPaths h e, Expr.pathUses]
  | tuple elems =>
    rw [Expr.mapPaths, Expr.pathUses, Expr.pathUsesList_mapPathsList h elems, Expr.pathUses]
  | array elems =>
    rw [Expr.mapPaths, Expr.pathUses, Expr.pathUsesList_mapPathsList h elems, Expr.pathUses]
  | repeated e count =>
    rw [Expr.mapPaths, Expr.pathUses, Expr.pathUses_mapPaths h e, Expr.pathUses_mapPaths h count,
      Expr.pathUses, List.map_append]
  | block body =>
    rw [Expr.mapPaths, Expr.pathUses, Stmt.pathUsesList_mapPathsList h body, Expr.pathUses]
  | record p fields =>
    rw [Expr.mapPaths, Expr.pathUses, h.mk_zero, h.argUses, Path.argUses_mapArgs h p,
      FieldValue.pathUsesList_mapPathsList h fields, Expr.pathUses, List.map_append, List.map_cons]
  | unary op e => rw [Expr.mapPaths, Expr.pathUses, Expr.pathUses_mapPaths h e, Expr.pathUses]
  | borrow mutable e => rw [Expr.mapPaths, Expr.pathUses, Expr.pathUses_mapPaths h e, Expr.pathUses]
  | binary op left right =>
    rw [Expr.mapPaths, Expr.pathUses, Expr.pathUses_mapPaths h left, Expr.pathUses_mapPaths h right,
      Expr.pathUses, List.map_append]
  | assign left right =>
    rw [Expr.mapPaths, Expr.pathUses, Expr.pathUses_mapPaths h left, Expr.pathUses_mapPaths h right,
      Expr.pathUses, List.map_append]
  | cast e t =>
    rw [Expr.mapPaths, Expr.pathUses, Expr.pathUses_mapPaths h e, Ty.pathUses_mapPaths h t,
      Expr.pathUses, List.map_append]
  | call callee args =>
    rw [Expr.mapPaths, Expr.pathUses, Expr.pathUses_mapPaths h callee,
      Expr.pathUsesList_mapPathsList h args, Expr.pathUses, List.map_append]
  | method receiver name generics args =>
    rw [Expr.mapPaths, Expr.pathUses, Expr.pathUses_mapPaths h receiver,
      Args.pathUses_mapPaths h generics, Expr.pathUsesList_mapPathsList h args, Expr.pathUses,
      List.map_append, List.map_append]
  | field e member => rw [Expr.mapPaths, Expr.pathUses, Expr.pathUses_mapPaths h e, Expr.pathUses]
  | index e i =>
    rw [Expr.mapPaths, Expr.pathUses, Expr.pathUses_mapPaths h e, Expr.pathUses_mapPaths h i,
      Expr.pathUses, List.map_append]
  | question e => rw [Expr.mapPaths, Expr.pathUses, Expr.pathUses_mapPaths h e, Expr.pathUses]

theorem Expr.pathUsesList_mapPathsList (h : KeepsArgs f) (es : List Expr)
    : Expr.pathUsesList (Expr.mapPathsList f es) = (Expr.pathUsesList es).map (rewrite f) := by
  cases es with
  | nil => rfl
  | cons e es =>
    rw [Expr.mapPathsList, Expr.pathUsesList, Expr.pathUses_mapPaths h e,
      Expr.pathUsesList_mapPathsList h es, Expr.pathUsesList, List.map_append]

theorem FieldValue.pathUsesList_mapPathsList (h : KeepsArgs f) (fs : List FieldValue)
    : FieldValue.pathUsesList (FieldValue.mapPathsList f fs)
        =
      (FieldValue.pathUsesList fs).map (rewrite f) := by
  cases fs with
  | nil => rfl
  | cons v fs =>
    rcases v with ⟨i, value⟩
    cases value with
    | none =>
      rw [FieldValue.mapPathsList, FieldValue.pathUsesList,
        FieldValue.pathUsesList_mapPathsList h fs, FieldValue.pathUsesList]
    | some e =>
      rw [FieldValue.mapPathsList, FieldValue.pathUsesList, Expr.pathUses_mapPaths h e,
        FieldValue.pathUsesList_mapPathsList h fs, FieldValue.pathUsesList, List.map_append]

theorem Stmt.pathUsesList_mapPathsList (h : KeepsArgs f) (ss : List Stmt)
    : Stmt.pathUsesList (Stmt.mapPathsList f ss) = (Stmt.pathUsesList ss).map (rewrite f) := by
  cases ss with
  | nil => rfl
  | cons s ss =>
    rcases s with ⟨e, semicolon⟩
    rw [Stmt.mapPathsList, Stmt.pathUsesList, Expr.pathUses_mapPaths h e,
      Stmt.pathUsesList_mapPathsList h ss, Stmt.pathUsesList, List.map_append]

end

end

end LazyProxy.Code
