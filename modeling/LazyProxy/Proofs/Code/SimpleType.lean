import LazyProxy.Proofs.Code.TypeReading

/-!
This module contains that types built of paths, references, pointers, slices, arrays, tuples and trait
objects are read back from their tokens as they are, as long as no sum of bounds stands where a type may
be none.
-/

namespace LazyProxy.Code

open Token (operator word)

/-- The name of a segment, without its arguments. -/
def Segment.name : Segment → Ident
  | .mk i _ => i

mutual

/-- Whether a type is built of paths, references, pointers, slices, arrays, tuples and trait objects. `sum`
tells whether it may be a sum of bounds. What a reference or a pointer leads to may be one in parentheses
alone. -/
def Ty.isSimple : Bool → Ty → Bool
  | _, .slice elem => elem.isSimple true
  | _, .array elem (.literal false _ _) => elem.isSimple true
  | _, .tuple elems => Ty.areSimple elems
  | _, .paren elem => elem.isSimple true
  | _, .pointer _ target => target.isSimple false
  | _, .reference _ _ target => target.isSimple false
  | _, .never => true
  | _, .path p => p.isSimple
  | sum, .traitObject true bounds false =>
    (sum || bounds.length == 1) && bounds.any Bound.isTrait && Bound.areSimple bounds
  | _, _ => false

def Ty.areSimple : List Ty → Bool
  | [] => true
  | t :: ts => t.isSimple true && Ty.areSimple ts

/-- Whether a path may be a type and has no other arguments than such types and lifetimes. -/
def Path.isSimple : Path → Bool
  | .mk rooted segments =>
    startsTy rooted (segments.map Segment.name) && !segments.isEmpty && Segment.areSimple segments

def Segment.areSimple : List Segment → Bool
  | [] => true
  | .mk i args :: ss => i.isSegment && args.areSimpleFor i && Segment.areSimple ss

/-- Whether the name may have these arguments. -/
def Args.areSimpleFor (i : Ident) : Args → Bool
  | .none => true
  | .angled false args => (i.isName || i == ⟨"Self", false⟩) && Arg.areSimple args
  | _ => false

def Arg.areSimple : List Arg → Bool
  | [] => true
  | .lifetime _ :: as => Arg.areSimple as
  | .type t :: as => t.isSimple true && Arg.areSimple as
  | _ => false

def Bound.areSimple : List Bound → Bool
  | [] => true
  | .lifetime _ :: bs => Bound.areSimple bs
  | .trait false none false p :: bs => p.isSimple && Bound.areSimple bs
  | _ => false

end

variable {rest : List Token}

/-- A path that is read whatever follows it, as long as it does not go on. -/
def Path.IsRead (p : Path) : Prop :=
  ∀ ⦃n : Nat⦄ ⦃rest : List Token⦄, readingDepth p.tokens ≤ n + 3 → endsPath rest →
    readPath n false (p.tokens ++ rest) = some (p, rest)

/-- What may follow any type may follow a path, and starts no call. -/
theorem endsPathTy_of_endsTy (h : endsTy rest)
    : endsPathTy rest ∧ (callArguments? rest).isNone := by
  unfold endsTy at h
  split at h
  . exact ⟨rfl, rfl⟩
  . exact ⟨rfl, rfl⟩
  . next c joint ts =>
    simp only [List.contains_eq_mem, List.mem_cons, List.not_mem_nil, or_false,
      decide_eq_true_eq] at h
    rcases h with rfl | rfl | rfl
    all_goals cases joint <;> exact ⟨rfl, rfl⟩
  . contradiction

theorem endsBound_of_endsTy (h : endsTy rest)
    : endsBound rest ∧ startsWith "+" rest = false := by
  rcases endsPathTy_of_endsTy h with ⟨hpath, hcall⟩
  rw [endsPathTy_iff] at hpath
  rw [endsBound, hpath.left, hcall]
  exact ⟨rfl, hpath.right.right⟩

section Constructors

variable {t : Ty} {p : Path} {plus : Bool}

theorem Ty.readsBack_slice (h : t.ReadsBack true) : (Ty.slice t).ReadsBack plus := by
  intro n rest hn _
  have htokens : (Ty.slice t).tokens = [.group .bracket t.tokens] := by
    rw [Ty.tokens]
  rw [htokens, readingDepth, Token.countAll, Token.count, Token.countAll] at hn
  obtain ⟨n, rfl⟩ := Nat.exists_eq_add_one_of_ne_zero (n := n) (by omega)
  have hread := @h n [] (by rw [readingDepth]; omega) rfl
  rw [List.append_nil] at hread
  rw [htokens, List.singleton_append, readTy_bracket hread]

theorem Ty.readsBack_array (h : t.ReadsBack true) (kind : LiteralKind) (text : String)
    : (Ty.array t (.literal false kind text)).ReadsBack plus := by
  intro n rest hn _
  have htokens : (Ty.array t (.literal false kind text)).tokens
      = [.group .bracket (t.tokens ++ (operator ";" ++ [.literal kind text]))] := by
    simp [Ty.tokens, Expr.tokens]
  rw [htokens, readingDepth, Token.countAll, Token.count, countAll_append] at hn
  obtain ⟨n, rfl⟩ : ∃ m, n = m + 5 := Nat.exists_eq_add_of_le' (by omega)
  have hread := @h (n + 4) (operator ";" ++ [.literal kind text]) (by rw [readingDepth]; omega) rfl
  rw [htokens, List.singleton_append, readTy_array hread (readExpr_literal kind text n)]

theorem Ty.readsBack_paren (h : t.ReadsBack true) (hstart : startsSimple t.tokens)
    : (Ty.paren t).ReadsBack plus := by
  intro n rest hn hrest
  have htokens : (Ty.paren t).tokens = [.group .paren t.tokens] := by
    rw [Ty.tokens]
  rw [htokens, readingDepth, Token.countAll, Token.count] at hn
  obtain ⟨n, rfl⟩ : ∃ m, n = m + 2 := Nat.exists_eq_add_of_le' (by omega)
  have hread := @h n [] (by rw [readingDepth]; omega) rfl
  rw [List.append_nil] at hread
  have hplus : startsWith "+" rest = false := (endsBound_of_endsTy hrest).right
  rw [htokens, List.singleton_append, readTy_paren, readParenthesized_type hstart hread _ hplus]

theorem readTys_tokensOfTuple {ts : List Ty}
    (h : ∀ t ∈ ts, t.ReadsBack true ∧ startsSimple t.tokens) {n : Nat}
    (hn : readingDepth (Ty.tokensOfTuple ts) ≤ n)
    : readTys n (Ty.tokensOfTuple ts) = some (ts, []) := by
  induction ts generalizing n with
  | nil =>
    rw [readingDepth] at hn
    obtain ⟨n, rfl⟩ := Nat.exists_eq_add_one_of_ne_zero (n := n) (by omega)
    rw [Ty.tokensOfTuple, readTys]
  | cons t ts ih =>
    rw [List.forall_mem_cons] at h
    have hcomma : Token.countAll (operator ",") = 1 := rfl
    rw [Ty.tokensOfTuple, List.append_assoc] at hn ⊢
    rw [readingDepth, countAll_append, countAll_append] at hn
    obtain ⟨n, rfl⟩ := Nat.exists_eq_add_one_of_ne_zero (n := n) (by omega)
    refine readTys_cons ?_ (h.left.left (by rw [readingDepth]; omega) rfl)
      (ih h.right (by rw [readingDepth]; omega))
    simp [operator]

theorem Ty.readsBack_tuple {ts : List Ty} (h : ∀ t ∈ ts, t.ReadsBack true ∧ startsSimple t.tokens)
    : (Ty.tuple ts).ReadsBack plus := by
  intro n rest hn _
  have htokens : (Ty.tuple ts).tokens = [.group .paren (Ty.tokensOfTuple ts)] := by
    rw [Ty.tokens]
  rw [htokens, readingDepth, Token.countAll, Token.count] at hn
  obtain ⟨n, rfl⟩ : ∃ m, n = m + 2 := Nat.exists_eq_add_of_le' (by omega)
  rw [htokens, List.singleton_append, readTy_paren]
  cases ts with
  | nil => rw [Ty.tokensOfTuple, readParenthesized]
  | cons t ts =>
    rw [List.forall_mem_cons] at h
    rw [Ty.tokensOfTuple, List.append_assoc] at hn ⊢
    rw [countAll_append, countAll_append] at hn
    have hothers := readTys_tokensOfTuple h.right (n := n) (by rw [readingDepth]; omega)
    exact readParenthesized_types (startsSimple_append h.left.right _)
      (h.left.left (by rw [readingDepth]; omega) rfl) hothers plus rest

theorem Ty.readsBack_pointer (h : t.ReadsBack false) (mutable : Bool)
    : (Ty.pointer mutable t).ReadsBack plus := by
  intro n rest hn hrest
  have htokens : (Ty.pointer mutable t).tokens
      = operator "*" ++ word (if mutable then "mut" else "const") :: t.tokens := by
    simp [Ty.tokens]
  have hstar : Token.countAll (operator "*") = 1 := rfl
  rw [htokens, readingDepth, countAll_append, Token.countAll] at hn
  obtain ⟨n, rfl⟩ := Nat.exists_eq_add_one_of_ne_zero (n := n) (by omega)
  rw [htokens, List.append_assoc, List.cons_append]
  exact readTy_pointer mutable plus (h (by rw [readingDepth]; omega) hrest)

theorem Ty.readsBack_reference (h : t.ReadsBack false) (hstart : startsSimple t.tokens)
    (lifetime : Option Ident) (mutable : Bool)
    : (Ty.reference lifetime mutable t).ReadsBack plus := by
  intro n rest hn hrest
  have htokens : (Ty.reference lifetime mutable t).tokens
      = operator "&" ++ ((lifetime.map Token.lifetime).toList ++ (mutTokens mutable ++ t.tokens)) := by
    simp [Ty.tokens]
  have hamp : Token.countAll (operator "&") = 1 := rfl
  rw [htokens, readingDepth, countAll_append, countAll_append, countAll_append] at hn
  obtain ⟨n, rfl⟩ := Nat.exists_eq_add_one_of_ne_zero (n := n) (by omega)
  rw [htokens, List.append_assoc, List.append_assoc, List.append_assoc]
  exact readTy_reference (startsSimple_append hstart rest) lifetime mutable plus
    (h (by rw [readingDepth]; omega) hrest)

theorem Ty.readsBack_never : Ty.never.ReadsBack plus := by
  intro n rest hn _
  rw [readingDepth] at hn
  obtain ⟨n, rfl⟩ := Nat.exists_eq_add_one_of_ne_zero (n := n) (by omega)
  rw [Ty.tokens]
  exact readTy_never n plus rest

theorem StartsTyPath.readTy (h : StartsTyPath ts) (n : Nat) (plus : Bool)
    : Code.readTy (n + 1) plus ts = readPathTy n plus none ts := by
  cases h with
  | ident hi ts => exact readTy_ident hi n plus ts
  | root ts => exact readTy_colons n plus ts

theorem Path.IsRead.readTy {p : Path} (h : p.IsRead) (hstart : StartsTyPath p.tokens)
    {n : Nat} {rest : List Token} (hn : readingDepth p.tokens ≤ n) (hrest : endsPathTy rest)
    (plus : Bool)
    : Code.readTy n plus (p.tokens ++ rest) = some (.path p, rest) := by
  have hangle : after? "<" (p.tokens ++ rest) = none := (hstart.append rest).after?_angle
  have hends : endsPath rest := (endsPathTy_iff.mp hrest).left
  have hdepth : 16 ≤ readingDepth p.tokens := by
    rw [readingDepth]
    omega
  obtain ⟨n, rfl⟩ : ∃ m, n = m + 3 := Nat.exists_eq_add_of_le' (by omega)
  rw [(hstart.append rest).readTy]
  exact readPathTy_of_readPath (h hn hends) hangle hrest plus

theorem Path.IsRead.readsBack_path (h : p.IsRead) (hstart : StartsTyPath p.tokens)
    : (Ty.path p).ReadsBack plus := by
  intro n rest hn hrest
  exact h.readTy hstart hn (endsPathTy_of_endsTy hrest).left plus

theorem Path.IsRead.readsBack (h : p.IsRead) (hstart : StartsTyPath p.tokens) : p.ReadsBack := by
  intro n rest hn
  exact h.readTy hstart hn rfl true

end Constructors

theorem Path.startsTyPath_tokens {p : Path} (h : p.isSimple) : StartsTyPath p.tokens := by
  rcases p with ⟨rooted, segments⟩
  rw [Path.isSimple, Bool.and_eq_true, Bool.and_eq_true] at h
  cases rooted with
  | true =>
    rw [Path.tokens, if_pos rfl]
    exact .root _
  | false =>
    cases segments with
    | nil => simp at h
    | cons s ss =>
      rcases s with ⟨i, args⟩
      rcases exists_separated_eq_cons (operator "::") (.ident i) args.tokens (Segment.tokensOfList ss)
        with ⟨us, hus⟩
      rw [Path.tokens, Segment.tokensOfList, hus]
      have hstart := h.left.left
      simp only [startsTy, List.map_cons, Segment.name, List.head?_cons, Option.any_some,
        Bool.false_or] at hstart
      exact .ident hstart us

theorem Ty.startsSimple_tokens {plus : Bool} {t : Ty} (h : t.isSimple plus)
    : startsSimple t.tokens := by
  cases t with
  | path p => exact (Path.startsTyPath_tokens h).startsSimple
  | traitObject isDyn bounds trailing =>
    cases isDyn with
    | true => rfl
    | false => simp [Ty.isSimple] at h
  | _ => first | rfl | simp [Ty.isSimple] at h

theorem countAll_separated_cons {tss : List (List Token)} (hne : tss ≠ [])
    (separator ts : List Token)
    : Token.countAll (separated separator (ts :: tss))
        =
      Token.countAll ts + Token.countAll separator + Token.countAll (separated separator tss) := by
  rw [separated_cons hne, countAll_append, countAll_append, Nat.add_assoc]

theorem countAll_le_separated_cons (separator ts : List Token) (tss : List (List Token))
    : Token.countAll ts ≤ Token.countAll (separated separator (ts :: tss)) := by
  cases tss with
  | nil => exact Nat.le_refl _
  | cons us uss =>
    rw [countAll_separated_cons (by simp)]
    omega

theorem count_ident (i : Ident) : Token.count (.ident i) = 1 := by
  simp [Token.count]

theorem startsBound_tokensOfList {bs : List Bound} (h : Bound.areSimple bs) (hne : bs ≠ [])
    (rest : List Token)
    : startsBound (separated (operator "+") (Bound.tokensOfList bs) ++ rest) := by
  rcases List.exists_cons_of_ne_nil hne with ⟨b, bs, rfl⟩
  match b with
  | .lifetime i =>
    rcases exists_separated_eq_cons (operator "+") (.lifetime i) [] (Bound.tokensOfList bs)
      with ⟨us, hus⟩
    rw [Bound.tokensOfList, hus]
    rfl
  | .trait false none false p =>
    have htokens : Bound.tokensOfList (.trait false none false p :: bs)
        = p.tokens :: Bound.tokensOfList bs := by
      simp [Bound.tokensOfList, binderTokens]
    rw [Bound.areSimple, Bool.and_eq_true] at h
    have hstart := Path.startsTyPath_tokens h.left
    rw [htokens]
    cases hs : Bound.tokensOfList bs with
    | nil => exact (hstart.append rest).startsBound
    | cons ts tss =>
      rw [separated_cons (by simp), List.append_assoc]
      exact (hstart.append _).startsBound

-- The induction is on the type with its arguments and bounds. All readers are given at least the depth of
-- what they read. Those of paths, segments and bounds are called by others that have spent some of it.
mutual

theorem Ty.readsBack_of_isSimple {plus : Bool} : ∀ {t : Ty}, t.isSimple plus → t.ReadsBack plus
  | .slice elem, h => by
    rw [Ty.isSimple] at h
    exact Ty.readsBack_slice (Ty.readsBack_of_isSimple h)
  | .array elem (.literal false kind text), h => by
    rw [Ty.isSimple] at h
    exact Ty.readsBack_array (Ty.readsBack_of_isSimple h) kind text
  | .tuple elems, h => by
    rw [Ty.isSimple] at h
    exact Ty.readsBack_tuple (Ty.readsBack_of_areSimple h)
  | .paren elem, h => by
    rw [Ty.isSimple] at h
    exact Ty.readsBack_paren (Ty.readsBack_of_isSimple h) (Ty.startsSimple_tokens h)
  | .pointer mutable target, h => by
    rw [Ty.isSimple] at h
    exact Ty.readsBack_pointer (Ty.readsBack_of_isSimple h) mutable
  | .reference lifetime mutable target, h => by
    rw [Ty.isSimple] at h
    exact Ty.readsBack_reference (Ty.readsBack_of_isSimple h) (Ty.startsSimple_tokens h) lifetime
      mutable
  | .never, _ => Ty.readsBack_never
  | .path p, h => by
    rw [Ty.isSimple] at h
    exact (Path.isRead_of_isSimple h).readsBack_path (Path.startsTyPath_tokens h)
  | .traitObject true bounds false, h => by
    rw [Ty.isSimple, Bool.and_eq_true, Bool.and_eq_true] at h
    have htokens : (Ty.traitObject true bounds false).tokens
        = word "dyn" :: separated (operator "+") (Bound.tokensOfList bounds) := by
      simp [Ty.tokens]
    intro n rest hn hrest
    rw [htokens, readingDepth, Token.countAll, word, count_ident] at hn
    obtain ⟨n, rfl⟩ := Nat.exists_eq_add_one_of_ne_zero (n := n) (by omega)
    have hne : bounds ≠ [] := by
      rintro rfl
      simp at h
    rw [htokens, List.cons_append]
    exact readTy_dyn (Bound.readBounds_of_areSimple h.right hne h.left.left
      (by rw [readingDepth]; omega) hrest) h.left.right

theorem Ty.readsBack_of_areSimple : ∀ {ts : List Ty}, Ty.areSimple ts →
    ∀ t ∈ ts, t.ReadsBack true ∧ startsSimple t.tokens
  | [], _ => List.forall_mem_nil _
  | t :: ts, h => by
    rw [Ty.areSimple, Bool.and_eq_true] at h
    rw [List.forall_mem_cons]
    exact ⟨⟨Ty.readsBack_of_isSimple h.left, Ty.startsSimple_tokens h.left⟩,
      Ty.readsBack_of_areSimple h.right⟩

theorem Path.isRead_of_isSimple : ∀ {p : Path}, p.isSimple → p.IsRead
  | .mk rooted segments, h => by
    rw [Path.isSimple, Bool.and_eq_true, Bool.and_eq_true] at h
    have hne : segments ≠ [] := by
      rintro rfl
      simp at h
    intro n rest hn hrest
    rw [Path.tokens, readingDepth, countAll_append] at hn
    obtain ⟨n, rfl⟩ := Nat.exists_eq_add_one_of_ne_zero (n := n) (by omega)
    have hsegments := Segment.readSegments_of_areSimple h.right hne
      (by rw [readingDepth]; omega : _ ≤ n + 4) hrest
    rw [Path.tokens]
    cases rooted with
    | true =>
      rw [if_pos rfl, List.append_assoc, readPath_rooted, hsegments]
      rfl
    | false =>
      rcases segments with - | ⟨⟨i, args⟩, ss⟩
      . contradiction
      rcases exists_separated_eq_cons (operator "::") (.ident i) args.tokens (Segment.tokensOfList ss)
        with ⟨us, hus⟩
      rw [Segment.tokensOfList, hus] at hsegments ⊢
      have hroot : (if false = true then operator "::" else []) ++ .ident i :: us = .ident i :: us :=
        rfl
      rw [hroot, readPath_of_after?_eq_none rfl, hsegments]
      rfl

theorem Segment.readSegments_of_areSimple {n : Nat} {rest : List Token} : ∀ {ss : List Segment},
    Segment.areSimple ss → ss ≠ [] →
    readingDepth (separated (operator "::") (Segment.tokensOfList ss)) ≤ n + 4 → endsPath rest →
    readSegments n false true (separated (operator "::") (Segment.tokensOfList ss) ++ rest)
      = some (ss, rest)
  | .mk i args :: ss, h, _, hn, hrest => by
    rw [Segment.areSimple, Bool.and_eq_true, Bool.and_eq_true] at h
    rw [Segment.tokensOfList] at hn ⊢
    rw [readingDepth] at hn
    obtain ⟨n, rfl⟩ := Nat.exists_eq_add_one_of_ne_zero (n := n) (by omega)
    have hfirst := countAll_le_separated_cons (operator "::") (.ident i :: args.tokens)
      (Segment.tokensOfList ss)
    refine readSegments_of_readSegment (fun rest hrest => ?_) (fun hne => ?_) hrest
    . exact Args.readSegment_of_areSimpleFor h.left.left h.left.right (by rw [readingDepth]; omega)
        hrest
    . have hcount := countAll_separated_cons (Segment.tokensOfList_ne_nil hne) (operator "::")
        (.ident i :: args.tokens)
      have hcolons : Token.countAll (operator "::") = 2 := rfl
      exact Segment.readSegments_of_areSimple h.right hne (by rw [readingDepth]; omega) hrest

theorem Args.readSegment_of_areSimpleFor {n : Nat} {rest : List Token} {i : Ident} : ∀ {args : Args},
    i.isSegment → args.areSimpleFor i → readingDepth (.ident i :: args.tokens) ≤ n + 5 →
    hasNoArguments rest →
    readSegment n false ((.ident i :: args.tokens) ++ rest) = some (.mk i args, rest)
  | .none, hi, _, hn, hrest => by
    rw [readingDepth] at hn
    obtain ⟨n, rfl⟩ := Nat.exists_eq_add_one_of_ne_zero (n := n) (by omega)
    rw [Args.tokens]
    exact readSegment_ident hi hrest false
  | .angled false args, _, h, hn, _ => by
    rw [Args.areSimpleFor, Bool.and_eq_true] at h
    have htokens : (Args.angled false args).tokens
        = operator "<" ++ (commaSeparated (Arg.tokensOfList args) ++ operator ">") := by
      simp [Args.tokens]
    have hcount : Token.countAll (operator "<") = 1 ∧ Token.countAll (operator ">") = 1 := ⟨rfl, rfl⟩
    rw [htokens, readingDepth, Token.countAll, count_ident, countAll_append, countAll_append] at hn
    obtain ⟨n, rfl⟩ : ∃ m, n = m + 2 := Nat.exists_eq_add_of_le' (by omega)
    rw [htokens, List.cons_append, List.append_assoc, List.append_assoc]
    exact readSegment_angled h.left (Arg.readArgs_of_areSimple h.right (by rw [readingDepth]; omega))

theorem Arg.readArgs_of_areSimple {n : Nat} {rest : List Token} : ∀ {as : List Arg},
    Arg.areSimple as → readingDepth (commaSeparated (Arg.tokensOfList as)) + 2 ≤ n →
    readArgs n (commaSeparated (Arg.tokensOfList as) ++ (operator ">" ++ rest)) = some (as, rest)
  | [], _, hn => by
    obtain ⟨n, rfl⟩ := Nat.exists_eq_add_one_of_ne_zero (n := n) (by omega)
    have hclosing : after? ">" (operator ">" ++ rest) = some rest := rfl
    have htokens : commaSeparated (Arg.tokensOfList []) = [] := rfl
    rw [htokens, List.nil_append, readArgs, hclosing]
  | .lifetime i :: as, h, hn => by
    rw [Arg.areSimple] at h
    rw [Arg.tokensOfList, readingDepth] at hn
    obtain ⟨n, rfl⟩ := Nat.exists_eq_add_one_of_ne_zero (n := n) (by omega)
    rw [Arg.tokensOfList]
    refine readArgs_of_readArg (fun rest => rfl) (fun rest hrest => ?_) (fun hne => ?_)
    . obtain ⟨n, rfl⟩ := Nat.exists_eq_add_one_of_ne_zero (n := n) (by omega)
      exact readArg_lifetime hrest n i
    . have hcount := countAll_separated_cons (Arg.tokensOfList_ne_nil hne) (operator ",") [.lifetime i]
      have hcomma : Token.countAll (operator ",") = 1 := rfl
      rw [commaSeparated] at hn
      exact Arg.readArgs_of_areSimple h (by rw [readingDepth, commaSeparated]; omega)
  | .type t :: as, h, hn => by
    rw [Arg.areSimple, Bool.and_eq_true] at h
    rw [Arg.tokensOfList, readingDepth, commaSeparated] at hn
    obtain ⟨n, rfl⟩ : ∃ m, n = m + 2 := Nat.exists_eq_add_of_le' (by omega)
    have hstart := Ty.startsSimple_tokens h.left
    have hfirst := countAll_le_separated_cons (operator ",") t.tokens (Arg.tokensOfList as)
    rw [Arg.tokensOfList]
    refine readArgs_of_readArg (fun rest => ?_) (fun rest hrest => ?_) (fun hne => ?_)
    . exact after?_closing_of_startsSimple (startsSimple_append hstart rest)
    . exact readArg_type (startsSimple_append hstart rest)
        (Ty.readsBack_of_isSimple h.left (by rw [readingDepth]; omega) (endsTy_of_endsArg hrest)) hrest
    . have hcount := countAll_separated_cons (Arg.tokensOfList_ne_nil hne) (operator ",") t.tokens
      have hcomma : Token.countAll (operator ",") = 1 := rfl
      exact Arg.readArgs_of_areSimple h.right (by rw [readingDepth, commaSeparated]; omega)

theorem Bound.readBounds_of_areSimple {plus : Bool} {n : Nat} {rest : List Token} :
    ∀ {bs : List Bound}, Bound.areSimple bs → bs ≠ [] → (plus || bs.length == 1) →
    readingDepth (separated (operator "+") (Bound.tokensOfList bs)) ≤ n → endsTy rest →
    readBounds n plus (separated (operator "+") (Bound.tokensOfList bs) ++ rest)
      = some (bs, false, rest)
  | .lifetime i :: bs, h, _, hplus, hn, hrest => by
    rw [Bound.areSimple] at h
    rw [Bound.tokensOfList, readingDepth] at hn
    obtain ⟨n, rfl⟩ : ∃ m, n = m + 2 := Nat.exists_eq_add_of_le' (by omega)
    rw [Bound.tokensOfList]
    refine readBounds_of_readBound (fun rest _ => ?_) (fun hne => ?_) (endsBound_of_endsTy hrest).left
      (endsBound_of_endsTy hrest).right
    . exact readBound_lifetime n i rest
    . have hcount := countAll_separated_cons (Bound.tokensOfList_ne_nil hne) (operator "+") [.lifetime i]
      have hsum : Token.countAll (operator "+") = 1 := rfl
      refine ⟨?_, startsBound_tokensOfList h hne rest, ?_⟩
      . simpa [hne] using hplus
      . exact Bound.readBounds_of_areSimple h hne rfl (by rw [readingDepth]; omega) hrest
  | .trait false none false p :: bs, h, _, hplus, hn, hrest => by
    rw [Bound.areSimple, Bool.and_eq_true] at h
    have htokens : Bound.tokensOfList (.trait false none false p :: bs)
        = p.tokens :: Bound.tokensOfList bs := by
      simp [Bound.tokensOfList, binderTokens]
    have hfirst := countAll_le_separated_cons (operator "+") p.tokens (Bound.tokensOfList bs)
    rw [htokens, readingDepth] at hn
    obtain ⟨n, rfl⟩ : ∃ m, n = m + 3 := Nat.exists_eq_add_of_le' (by omega)
    rw [htokens]
    refine readBounds_of_readBound (fun rest hrest => ?_) (fun hne => ?_)
      (endsBound_of_endsTy hrest).left (endsBound_of_endsTy hrest).right
    . have hends := hrest
      rw [endsBound, Bool.and_eq_true] at hends
      exact readBound_path ((Path.startsTyPath_tokens h.left).append rest)
        (Path.isRead_of_isSimple h.left (by rw [readingDepth]; omega) hends.left) hrest
    . have hcount := countAll_separated_cons (Bound.tokensOfList_ne_nil hne) (operator "+") p.tokens
      have hsum : Token.countAll (operator "+") = 1 := rfl
      refine ⟨?_, startsBound_tokensOfList h.right hne rest, ?_⟩
      . simpa [hne] using hplus
      . exact Bound.readBounds_of_areSimple h.right hne rfl (by rw [readingDepth]; omega) hrest

end

theorem Path.readsBack_of_isSimple {p : Path} (h : p.isSimple) : p.ReadsBack :=
  (Path.isRead_of_isSimple h).readsBack (Path.startsTyPath_tokens h)

end LazyProxy.Code
