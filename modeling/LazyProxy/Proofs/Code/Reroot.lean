import LazyProxy.Code.Reader
import LazyProxy.Code.Reroot
import LazyProxy.Code.Writer
import LazyProxy.Proofs.Code.PathUse

/-!
This module contains what types become for use one module deeper. All paths in them are rewritten, at any
depth, and nothing else is. But a path below a type keeps the number of segments that name its trait, so
a trait that starts further up loses its last segment to what follows. The types are those whose
expressions have no control flow, patterns and declarations. In particular none has a `use`, whose names
are no path and would stay.
-/

namespace LazyProxy.Code

/-- A path as seen from a module inside. From the module itself it starts one module up, and from
further up it goes one more. All other paths stay. -/
def Path.inside : Path → Path
  | .mk false (.mk i args :: rest) =>
    if i = ⟨"self", false⟩ then .mk false (.mk ⟨"super", false⟩ args :: rest)
    else if i = ⟨"super", false⟩ then
      .mk false (.mk ⟨"super", false⟩ .none :: .mk i args :: rest)
    else .mk false (.mk i args :: rest)
  | p => p

namespace PathUse

/-- Whether the path names a trait and starts further up than the module it is used in. -/
def IsTraitAbove : PathUse → Prop
  | ⟨position, .mk false (.mk i _ :: _)⟩ => position ≠ 0 ∧ i = ⟨"super", false⟩
  | _ => False

instance : DecidablePred IsTraitAbove
  | ⟨position, .mk false (.mk i _ :: _)⟩ =>
    inferInstanceAs (Decidable (position ≠ 0 ∧ i = ⟨"super", false⟩))
  | ⟨_, .mk true _⟩ => isFalse id
  | ⟨_, .mk false []⟩ => isFalse id

/-- The path as seen from a module inside. A trait that starts further up has one segment more. -/
def inside (u : PathUse) : PathUse :=
  ⟨if u.IsTraitAbove then u.position + 1 else u.position, u.path.inside⟩

/-- The path as seen from a module inside, with a trait of as many segments as before. -/
def insideKeepingPosition (u : PathUse) : PathUse :=
  ⟨u.position, u.path.inside⟩

end PathUse

theorem Path.inside_cons (i : Ident) (args : Args) (rest : List Segment)
    : (Path.mk false (.mk i args :: rest)).inside
        =
      if i = ⟨"self", false⟩ then .mk false (.mk ⟨"super", false⟩ args :: rest)
      else if i = ⟨"super", false⟩ then
        .mk false (.mk ⟨"super", false⟩ .none :: .mk i args :: rest)
      else .mk false (.mk i args :: rest) := by
  rfl

theorem Path.mk_rerootSegments (rooted : Bool) (segments : List Segment)
    : Path.mk rooted (rerootSegments rooted segments) = (Path.mk rooted segments).inside := by
  cases rooted with
  | true => rfl
  | false =>
    cases segments with
    | nil => rfl
    | cons s rest =>
      rcases s with ⟨i, args⟩
      rw [inside_cons]
      split
      . next hself =>
        subst hself
        rfl
      . next hself =>
        split
        . next hsuper =>
          subst hsuper
          rfl
        . next hsuper =>
          unfold rerootSegments
          split <;> simp_all

mutual

theorem Ty.reroot_eq_mapPaths (t : Ty) : t.reroot = t.mapPaths .insideKeepingPosition := by
  cases t with
  | array elem length =>
    rw [Ty.reroot, Ty.mapPaths, Ty.reroot_eq_mapPaths elem, Expr.reroot_eq_mapPaths length]
  | slice elem => rw [Ty.reroot, Ty.mapPaths, Ty.reroot_eq_mapPaths elem]
  | tuple elems => rw [Ty.reroot, Ty.mapPaths, Ty.rerootList_eq_mapPathsList elems]
  | paren elem => rw [Ty.reroot, Ty.mapPaths, Ty.reroot_eq_mapPaths elem]
  | pointer mutable target => rw [Ty.reroot, Ty.mapPaths, Ty.reroot_eq_mapPaths target]
  | reference lifetime mutable target => rw [Ty.reroot, Ty.mapPaths, Ty.reroot_eq_mapPaths target]
  | never => rfl
  | infer => rfl
  | path p =>
    rw [Ty.reroot, Ty.mapPaths, Path.reroot_eq_mapArgs p]
    rfl
  | qualified self position p =>
    rw [Ty.reroot, Ty.mapPaths, Ty.reroot_eq_mapPaths self, Path.reroot_eq_mapArgs p]
    rfl
  | function binder isUnsafe abi params variadic output =>
    rw [Ty.reroot, Ty.mapPaths, Param.rerootList_eq_mapPathsList params,
      Ty.rerootOption_eq_mapPathsOption output]
  | traitObject isDyn bounds trailing =>
    rw [Ty.reroot, Ty.mapPaths, Bound.rerootList_eq_mapPathsList bounds]
  | implTrait bounds trailing =>
    rw [Ty.reroot, Ty.mapPaths, Bound.rerootList_eq_mapPathsList bounds]
  | macroCall p d body =>
    rw [Ty.reroot, Ty.mapPaths, Path.reroot_eq_mapArgs p]
    rfl

theorem Ty.rerootOption_eq_mapPathsOption (t : Option Ty)
    : Ty.rerootOption t = Ty.mapPathsOption .insideKeepingPosition t := by
  cases t with
  | none => rfl
  | some t => rw [Ty.rerootOption, Ty.mapPathsOption, Ty.reroot_eq_mapPaths t]

theorem Ty.rerootList_eq_mapPathsList (ts : List Ty)
    : Ty.rerootList ts = Ty.mapPathsList .insideKeepingPosition ts := by
  cases ts with
  | nil => rfl
  | cons t ts =>
    rw [Ty.rerootList, Ty.mapPathsList, Ty.reroot_eq_mapPaths t, Ty.rerootList_eq_mapPathsList ts]

theorem Param.rerootList_eq_mapPathsList (ps : List Param)
    : Param.rerootList ps = Param.mapPathsList .insideKeepingPosition ps := by
  cases ps with
  | nil => rfl
  | cons p ps =>
    cases p with
    | mk i t =>
      rw [Param.rerootList, Param.mapPathsList, Ty.reroot_eq_mapPaths t,
        Param.rerootList_eq_mapPathsList ps]

theorem Path.reroot_eq_mapArgs (p : Path)
    : p.reroot = (p.mapArgs .insideKeepingPosition).inside := by
  cases p with
  | mk rooted segments =>
    rw [Path.reroot, Path.mapArgs, Segment.rerootList_eq_mapPathsList segments,
      Path.mk_rerootSegments]

theorem Segment.rerootList_eq_mapPathsList (ss : List Segment)
    : Segment.rerootList ss = Segment.mapPathsList .insideKeepingPosition ss := by
  cases ss with
  | nil => rfl
  | cons s ss =>
    cases s with
    | mk i args =>
      rw [Segment.rerootList, Segment.mapPathsList, Args.reroot_eq_mapPaths args,
        Segment.rerootList_eq_mapPathsList ss]

theorem Args.reroot_eq_mapPaths (args : Args)
    : args.reroot = args.mapPaths .insideKeepingPosition := by
  cases args with
  | none => rfl
  | angled turbofish args => rw [Args.reroot, Args.mapPaths, Arg.rerootList_eq_mapPathsList args]
  | parenthesized inputs output =>
    rw [Args.reroot, Args.mapPaths, Ty.rerootList_eq_mapPathsList inputs,
      Ty.rerootOption_eq_mapPathsOption output]

theorem Arg.rerootList_eq_mapPathsList (as : List Arg)
    : Arg.rerootList as = Arg.mapPathsList .insideKeepingPosition as := by
  cases as with
  | nil => rfl
  | cons a as =>
    cases a with
    | lifetime i => rw [Arg.rerootList, Arg.mapPathsList, Arg.rerootList_eq_mapPathsList as]
    | type t =>
      rw [Arg.rerootList, Arg.mapPathsList, Ty.reroot_eq_mapPaths t,
        Arg.rerootList_eq_mapPathsList as]
    | const e =>
      rw [Arg.rerootList, Arg.mapPathsList, Expr.reroot_eq_mapPaths e,
        Arg.rerootList_eq_mapPathsList as]
    | typeBinding i generics t =>
      rw [Arg.rerootList, Arg.mapPathsList, Args.reroot_eq_mapPaths generics,
        Ty.reroot_eq_mapPaths t, Arg.rerootList_eq_mapPathsList as]
    | constBinding i generics e =>
      rw [Arg.rerootList, Arg.mapPathsList, Args.reroot_eq_mapPaths generics,
        Expr.reroot_eq_mapPaths e, Arg.rerootList_eq_mapPathsList as]
    | constraint i generics bounds =>
      rw [Arg.rerootList, Arg.mapPathsList, Args.reroot_eq_mapPaths generics,
        Bound.rerootList_eq_mapPathsList bounds, Arg.rerootList_eq_mapPathsList as]

theorem Bound.rerootList_eq_mapPathsList (bs : List Bound)
    : Bound.rerootList bs = Bound.mapPathsList .insideKeepingPosition bs := by
  cases bs with
  | nil => rfl
  | cons b bs =>
    cases b with
    | lifetime i => rw [Bound.rerootList, Bound.mapPathsList, Bound.rerootList_eq_mapPathsList bs]
    | trait parenthesized binder relaxed p =>
      rw [Bound.rerootList, Bound.mapPathsList, Path.reroot_eq_mapArgs p,
        Bound.rerootList_eq_mapPathsList bs]
      rfl

theorem Expr.reroot_eq_mapPaths (e : Expr) : e.reroot = e.mapPaths .insideKeepingPosition := by
  cases e with
  | literal negative kind text => rfl
  | bool value => rfl
  | infer => rfl
  | path p =>
    rw [Expr.reroot, Expr.mapPaths, Path.reroot_eq_mapArgs p]
    rfl
  | qualified self position p =>
    rw [Expr.reroot, Expr.mapPaths, Ty.reroot_eq_mapPaths self, Path.reroot_eq_mapArgs p]
    rfl
  | macroCall p d body =>
    rw [Expr.reroot, Expr.mapPaths, Path.reroot_eq_mapArgs p]
    rfl
  | paren e => rw [Expr.reroot, Expr.mapPaths, Expr.reroot_eq_mapPaths e]
  | tuple elems => rw [Expr.reroot, Expr.mapPaths, Expr.rerootList_eq_mapPathsList elems]
  | array elems => rw [Expr.reroot, Expr.mapPaths, Expr.rerootList_eq_mapPathsList elems]
  | repeated e count =>
    rw [Expr.reroot, Expr.mapPaths, Expr.reroot_eq_mapPaths e, Expr.reroot_eq_mapPaths count]
  | block body => rw [Expr.reroot, Expr.mapPaths, Stmt.rerootList_eq_mapPathsList body]
  | record p fields =>
    rw [Expr.reroot, Expr.mapPaths, Path.reroot_eq_mapArgs p,
      FieldValue.rerootList_eq_mapPathsList fields]
    rfl
  | unary op e => rw [Expr.reroot, Expr.mapPaths, Expr.reroot_eq_mapPaths e]
  | borrow mutable e => rw [Expr.reroot, Expr.mapPaths, Expr.reroot_eq_mapPaths e]
  | binary op left right =>
    rw [Expr.reroot, Expr.mapPaths, Expr.reroot_eq_mapPaths left, Expr.reroot_eq_mapPaths right]
  | assign left right =>
    rw [Expr.reroot, Expr.mapPaths, Expr.reroot_eq_mapPaths left, Expr.reroot_eq_mapPaths right]
  | cast e t => rw [Expr.reroot, Expr.mapPaths, Expr.reroot_eq_mapPaths e, Ty.reroot_eq_mapPaths t]
  | call g args =>
    rw [Expr.reroot, Expr.mapPaths, Expr.reroot_eq_mapPaths g, Expr.rerootList_eq_mapPathsList args]
  | method receiver name generics args =>
    rw [Expr.reroot, Expr.mapPaths, Expr.reroot_eq_mapPaths receiver,
      Args.reroot_eq_mapPaths generics, Expr.rerootList_eq_mapPathsList args]
  | field e member => rw [Expr.reroot, Expr.mapPaths, Expr.reroot_eq_mapPaths e]
  | index e i =>
    rw [Expr.reroot, Expr.mapPaths, Expr.reroot_eq_mapPaths e, Expr.reroot_eq_mapPaths i]
  | question e => rw [Expr.reroot, Expr.mapPaths, Expr.reroot_eq_mapPaths e]

theorem Expr.rerootList_eq_mapPathsList (es : List Expr)
    : Expr.rerootList es = Expr.mapPathsList .insideKeepingPosition es := by
  cases es with
  | nil => rfl
  | cons e es =>
    rw [Expr.rerootList, Expr.mapPathsList, Expr.reroot_eq_mapPaths e,
      Expr.rerootList_eq_mapPathsList es]

theorem FieldValue.rerootList_eq_mapPathsList (fs : List FieldValue)
    : FieldValue.rerootList fs = FieldValue.mapPathsList .insideKeepingPosition fs := by
  cases fs with
  | nil => rfl
  | cons f fs =>
    cases f with
    | mk i value =>
      cases value with
      | none =>
        rw [FieldValue.rerootList, FieldValue.mapPathsList,
          FieldValue.rerootList_eq_mapPathsList fs]
      | some e =>
        rw [FieldValue.rerootList, FieldValue.mapPathsList, Expr.reroot_eq_mapPaths e,
          FieldValue.rerootList_eq_mapPathsList fs]

theorem Stmt.rerootList_eq_mapPathsList (ss : List Stmt)
    : Stmt.rerootList ss = Stmt.mapPathsList .insideKeepingPosition ss := by
  cases ss with
  | nil => rfl
  | cons s ss =>
    cases s with
    | expr e semicolon =>
      rw [Stmt.rerootList, Stmt.mapPathsList, Expr.reroot_eq_mapPaths e,
        Stmt.rerootList_eq_mapPathsList ss]

end

theorem Path.inside_inj {rooted : Bool} {i : Ident} {a b : Args} {ss ts : List Segment}
    : (Path.mk rooted (.mk i a :: ss)).inside = (Path.mk rooted (.mk i b :: ts)).inside
        ↔
      a = b ∧ ss = ts := by
  cases rooted with
  | true => simp [inside]
  | false =>
    rw [inside_cons, inside_cons]
    split
    . simp
    . split
      . simp
      . simp

section

variable (f g : PathUse → PathUse)

theorem Path.inside_mapArgs_inj (p : Path)
    : (p.mapArgs f).inside = (p.mapArgs g).inside ↔ p.mapArgs f = p.mapArgs g := by
  rcases p with ⟨rooted, segments⟩
  cases segments with
  | nil => simp [Path.mapArgs, Segment.mapPathsList]
  | cons s ss =>
    rcases s with ⟨i, args⟩
    rw [Path.mapArgs, Path.mapArgs, Segment.mapPathsList, Segment.mapPathsList, inside_inj]
    simp

theorem PathUse.isTraitAbove_mapArgs (position : Nat) (p : Path)
    : IsTraitAbove ⟨position, p.mapArgs f⟩ ↔ IsTraitAbove ⟨position, p⟩ := by
  rcases p with ⟨rooted, segments⟩
  cases segments with
  | nil => rfl
  | cons s ss =>
    rcases s with ⟨i, args⟩
    cases rooted with
    | true => rfl
    | false => rfl

end

theorem PathUse.not_isTraitAbove_zero (p : Path) : ¬IsTraitAbove ⟨0, p⟩ := by
  rcases p with ⟨rooted, segments⟩
  unfold IsTraitAbove
  split <;> simp_all

theorem PathUse.position_eq_inside_iff (u : PathUse)
    : u.position = u.inside.position ↔ ¬u.IsTraitAbove := by
  unfold inside
  split
  . next h => simp [h]
  . next h => simp [h]

theorem PathUse.sameIff_inside : SameIff insideKeepingPosition inside (¬IsTraitAbove ·) where
  plain p := by
    rw [and_iff_right (not_isTraitAbove_zero p)]
    exact Path.inside_mapArgs_inj insideKeepingPosition inside p
  qualified position p := by
    rw [← isTraitAbove_mapArgs inside, ← position_eq_inside_iff]
    exact and_congr_right fun _ => Path.inside_mapArgs_inj insideKeepingPosition inside p

/-- For use one module deeper all paths in a type are rewritten as seen from there, and nothing else is
changed, if the expressions in it are of the forms of `Expr`. Below a type, a path keeps the number of
segments that name its trait. So the type is right if and only if no trait in it starts further up. -/
theorem Ty.reroot_eq_inside_iff (t : Ty)
    : t.reroot = t.mapPaths .insideKeepingPosition
        ∧
      (t.reroot = t.mapPaths .inside ↔ ∀ u ∈ t.pathUses, ¬u.IsTraitAbove) := by
  refine ⟨t.reroot_eq_mapPaths, ?_⟩
  rw [t.reroot_eq_mapPaths]
  exact Ty.mapPaths_eq_iff PathUse.sameIff_inside t

/-- A trait that starts further up is cut short by its last segment. -/
theorem trait_not_kept
    : ¬(∀ t : Ty, t.reroot = t.mapPaths .inside)
        ∧
      (Ty.ofText? "<u8 as super::Tr>::Item").map (fun t => Token.textOf t.reroot.tokens)
          = some "< u8 as super :: super > :: Tr :: Item "
        ∧
      (Ty.ofText? "<u8 as super::Tr>::Item").map
            (fun t => Token.textOf (t.mapPaths .inside).tokens)
          = some "< u8 as super :: super :: Tr > :: Item " := by
  have hreroot : (Ty.ofText? "<u8 as super::Tr>::Item").map
        (fun t => Token.textOf t.reroot.tokens)
      = some "< u8 as super :: super > :: Tr :: Item " := by
    decide +kernel
  have hinside : (Ty.ofText? "<u8 as super::Tr>::Item").map
        (fun t => Token.textOf (t.mapPaths .inside).tokens)
      = some "< u8 as super :: super :: Tr > :: Item " := by
    decide +kernel
  refine ⟨?_, hreroot, hinside⟩
  intro h
  simp only [h] at hreroot
  rw [hinside] at hreroot
  exact absurd hreroot (by decide)

end LazyProxy.Code
