import LazyProxy.Proofs.Code.FieldReading

/-!
This module contains how types are read that start with a bracket, a reference, a pointer, a path or
`dyn`: what the readers of their parts give is put together, one part after the other.
-/

namespace LazyProxy.Code

open Token (operator word)

variable {n : Nat} {ts rest : List Token}

/-- Whether a type comes next, for readers that look for something else first. -/
def startsSimple : List Token → Bool
  | .ident i :: _ => i.isName || i.isPathRoot || i == ⟨"dyn", false⟩
  | .punct c _ :: _ => [':', '&', '*', '!'].contains c
  | .group d _ :: _ => d != .brace
  | _ => false

theorem startsSimple_append (h : startsSimple ts) (rest : List Token) : startsSimple (ts ++ rest) := by
  cases ts with
  | nil => contradiction
  | cons t ts => cases t <;> exact h

theorem ne_word_of_startsSimple {i : Ident} (h : startsSimple (.ident i :: ts)) {name : String}
    (hname : name ∈ ["true", "false", "mut", "for"])
    : i ≠ ⟨name, false⟩ := by
  rintro rfl
  simp only [List.mem_cons, List.not_mem_nil, or_false] at hname
  rcases hname with rfl | rfl | rfl | rfl
  all_goals contradiction

theorem readLiteral_of_startsSimple (h : startsSimple ts) : readLiteral ts = none := by
  unfold readLiteral
  split
  . contradiction
  . exact absurd rfl (ne_word_of_startsSimple h (by simp))
  . exact absurd rfl (ne_word_of_startsSimple h (by simp))
  . contradiction
  . rfl

theorem afterWord?_of_startsSimple (h : startsSimple ts) {name : String}
    (hname : name ∈ ["mut", "for"])
    : afterWord? name ts = none := by
  unfold afterWord?
  split
  . next i us =>
    rw [if_neg]
    rintro rfl
    refine absurd rfl (ne_word_of_startsSimple h ?_)
    simp only [List.mem_cons, List.not_mem_nil, or_false] at hname ⊢
    exact Or.inr (Or.inr hname)
  . rfl

theorem readBinder_of_startsSimple (h : startsSimple ts) : readBinder ts = some (none, ts) := by
  rw [readBinder, afterWord?_of_startsSimple h (by simp)]

theorem after?_closing_of_startsSimple (h : startsSimple ts) : after? ">" ts = none := by
  cases ts with
  | nil => rfl
  | cons t ts => cases t with
    | punct c joint =>
      change (if '>' = c then some ts else none) = none
      rw [if_neg]
      rintro rfl
      contradiction
    | _ => rfl

theorem readTy_bracket {body : List Token} {elem : Ty} (hread : readTy n true body = some (elem, []))
    (plus : Bool) (rest : List Token)
    : readTy (n + 1) plus (.group .bracket body :: rest) = some (.slice elem, rest) := by
  have hbinder : readBinder (.group .bracket body :: rest)
      = some (none, .group .bracket body :: rest) := rfl
  rw [readTy, hbinder]
  simp only [Option.bind_eq_bind, Option.bind_some, hread]
  rfl

theorem readExpr_literal (kind : LiteralKind) (text : String) (n : Nat)
    : readExpr (n + 4) 0 [.literal kind text] = some (.literal false kind text, []) := by
  have hliteral : readLiteral [.literal kind text] = some (.literal false kind text, []) := rfl
  rw [readExpr, readUnary, readAtom, hliteral]
  . simp only [Option.bind_eq_bind, Option.bind_some]
    rw [readTrailers_of_endsField rfl, Option.bind_some, readOperators_of_endsStmt rfl]
  all_goals simp

theorem readTy_array {body : List Token} {elem : Ty} {length : Expr} {us : List Token}
    (hread : readTy n true body = some (elem, operator ";" ++ us))
    (hlength : readExpr n 0 us = some (length, []))
    (plus : Bool) (rest : List Token)
    : readTy (n + 1) plus (.group .bracket body :: rest) = some (.array elem length, rest) := by
  have hbinder : readBinder (.group .bracket body :: rest)
      = some (none, .group .bracket body :: rest) := rfl
  have hsemicolon : after? ";" (operator ";" ++ us) = some us := rfl
  have hne : operator ";" ++ us ≠ [] := by simp [operator]
  rw [readTy, hbinder]
  simp only [Option.bind_eq_bind, Option.bind_some, hread]
  split
  . contradiction
  . simp only [hsemicolon, Option.bind_some, hlength]

theorem readTy_paren (n : Nat) (plus : Bool) (body rest : List Token)
    : readTy (n + 1) plus (.group .paren body :: rest) = readParenthesized n plus body rest := by
  have hbinder : readBinder (.group .paren body :: rest)
      = some (none, .group .paren body :: rest) := rfl
  rw [readTy, hbinder]
  rfl

theorem readParenthesized_type {body : List Token} (h : startsSimple body) {elem : Ty}
    (hread : readTy n true body = some (elem, [])) (plus : Bool) (hrest : startsWith "+" rest = false)
    : readParenthesized (n + 1) plus body rest = some (.paren elem, rest) := by
  rw [readParenthesized]
  . simp [hread, hrest]
  . rintro rfl
    contradiction
  . rintro i us rfl
    contradiction
  . rintro joint us rfl
    contradiction

theorem readParenthesized_types {body : List Token} (h : startsSimple body) {elem : Ty}
    {elems : List Ty} {us : List Token} (hread : readTy n true body = some (elem, operator "," ++ us))
    (hothers : readTys n us = some (elems, [])) (plus : Bool) (rest : List Token)
    : readParenthesized (n + 1) plus body rest = some (.tuple (elem :: elems), rest) := by
  have hcomma : after? "," (operator "," ++ us) = some us := rfl
  rw [readParenthesized]
  . simp only [hread, Option.bind_eq_bind, Option.bind_some]
    split
    . next heq => cases heq
    . simp_all
  . rintro rfl
    contradiction
  . rintro i us rfl
    contradiction
  . rintro joint us rfl
    contradiction

theorem readTys_cons {elem : Ty} {elems : List Ty} {us : List Token} (hne : ts ≠ [])
    (hread : readTy n true ts = some (elem, operator "," ++ us))
    (hothers : readTys n us = some (elems, []))
    : readTys (n + 1) ts = some (elem :: elems, []) := by
  have hcomma : after? "," (operator "," ++ us) = some us := rfl
  rw [readTys]
  . simp only [hread, Option.bind_eq_bind, Option.bind_some]
    split
    . next heq => cases heq
    . simp_all
  . exact hne

theorem readTy_pointer {target : Ty} (mutable plus : Bool)
    (hread : readTy n false ts = some (target, rest))
    : readTy (n + 1) plus (operator "*" ++ word (if mutable then "mut" else "const") :: ts)
        =
      some (.pointer mutable target, rest) := by
  have hbinder (ts : List Token) : readBinder (.punct '*' false :: ts)
      = some (none, .punct '*' false :: ts) := rfl
  have hstar : operator "*" = [.punct '*' false] := rfl
  rw [hstar, List.singleton_append, readTy, hbinder]
  cases mutable with
  | true => simp [word, hread]
  | false => simp [word, hread]

theorem readTy_never (n : Nat) (plus : Bool) (rest : List Token)
    : readTy (n + 1) plus (operator "!" ++ rest) = some (.never, rest) := by
  have hbinder : readBinder (.punct '!' false :: rest) = some (none, .punct '!' false :: rest) := rfl
  have hbang : operator "!" = [.punct '!' false] := rfl
  rw [hbang, List.singleton_append, readTy, hbinder]
  rfl

theorem readTy_reference (hts : startsSimple ts) {target : Ty} (lifetime : Option Ident)
    (mutable plus : Bool) (hread : readTy n false ts = some (target, rest))
    : readTy (n + 1) plus
        (operator "&" ++ ((lifetime.map Token.lifetime).toList ++ (mutTokens mutable ++ ts)))
        =
      some (.reference lifetime mutable target, rest) := by
  have hbinder (ts : List Token) : readBinder (.punct '&' false :: ts)
      = some (none, .punct '&' false :: ts) := rfl
  have hamp : operator "&" = [.punct '&' false] := rfl
  have hnone : afterWord? "mut" ts = none := afterWord?_of_startsSimple hts (by simp)
  have hmut : afterWord? "mut" (.ident ⟨"mut", false⟩ :: ts) = some ts := rfl
  rw [hamp, List.singleton_append, readTy, hbinder]
  cases lifetime with
  | some i => cases mutable with
    | true => simp [mutTokens, word, hmut, hread]
    | false => simp [mutTokens, hnone, hread]
  | none => cases mutable with
    | true => simp [mutTokens, word, hmut, hread]
    | false =>
      cases ts with
      | nil => contradiction
      | cons t ts => cases t with
        | lifetime i => contradiction
        | _ => simp [mutTokens, hnone, hread]

/-- What may follow an argument in angle brackets. -/
def endsArg : List Token → Bool
  | .punct c _ :: _ => [',', '>'].contains c
  | _ => false

theorem exists_of_endsArg (h : endsArg rest)
    : ∃ c joint ts, rest = .punct c joint :: ts ∧ (c = ',' ∨ c = '>') := by
  unfold endsArg at h
  split at h
  . next c joint ts => exact ⟨c, joint, ts, rfl, by simpa using h⟩
  . contradiction

theorem endsTy_of_endsArg (h : endsArg rest) : endsTy rest := by
  rcases exists_of_endsArg h with ⟨c, joint, ts, rfl, rfl | rfl⟩
  . rfl
  . rfl

theorem after?_of_endsArg (h : endsArg rest)
    : after? "=" rest = none ∧ after? ":" rest = none ∧ after? "+" rest = none := by
  rcases exists_of_endsArg h with ⟨c, joint, ts, rfl, rfl | rfl⟩
  . exact ⟨rfl, rfl, rfl⟩
  . exact ⟨rfl, rfl, rfl⟩

theorem readConst_of_startsSimple (h : startsSimple ts) (n : Nat) : readConst n ts = none := by
  cases n with
  | zero => rw [readConst]
  | succ n =>
    rw [readConst, readLiteral_of_startsSimple h]
    rintro body us rfl
    contradiction

theorem readArg_type (h : startsSimple ts) {t : Ty} (hread : readTy n true ts = some (t, rest))
    (hrest : endsArg rest)
    : readArg (n + 1) ts = some (.type t, rest) := by
  have hafter := after?_of_endsArg hrest
  rw [readArg, readConst_of_startsSimple h]
  . rw [hread]
    simp only [Option.bind_eq_bind, Option.bind_some]
    split
    . simp only [hafter.left, hafter.right.left]
    . rfl
  . rintro body us rfl
    contradiction
  . rintro i us rfl
    contradiction

theorem readArg_lifetime (hrest : endsArg rest) (n : Nat) (i : Ident)
    : readArg (n + 1) (.lifetime i :: rest) = some (.lifetime i, rest) := by
  have hplus : startsWith "+" rest = false := by
    rw [startsWith, (after?_of_endsArg hrest).right.right]
    rfl
  rw [readArg]
  simp [hplus]

theorem separated_cons {tss : List (List Token)} (hne : tss ≠ []) (separator ts : List Token)
    : separated separator (ts :: tss) = ts ++ (separator ++ separated separator tss) := by
  rcases List.exists_cons_of_ne_nil hne with ⟨us, uss, rfl⟩
  rw [separated, List.append_assoc]
  exact List.cons_ne_nil us uss

theorem exists_separated_eq_cons (separator : List Token) (t : Token) (ts : List Token)
    (tss : List (List Token))
    : ∃ us, separated separator ((t :: ts) :: tss) = t :: us := by
  cases tss with
  | nil => exact ⟨ts, rfl⟩
  | cons us uss => exact ⟨_, separated_cons (by simp) separator (t :: ts)⟩

theorem Segment.tokensOfList_ne_nil {ss : List Segment} (hne : ss ≠ [])
    : Segment.tokensOfList ss ≠ [] := by
  rcases List.exists_cons_of_ne_nil hne with ⟨⟨i, args⟩, ss, rfl⟩
  simp [Segment.tokensOfList]

theorem Arg.tokensOfList_ne_nil {as : List Arg} (hne : as ≠ []) : Arg.tokensOfList as ≠ [] := by
  rcases List.exists_cons_of_ne_nil hne with ⟨a, as, rfl⟩
  cases a with
  | _ => simp [Arg.tokensOfList]

theorem Bound.tokensOfList_ne_nil {bs : List Bound} (hne : bs ≠ []) : Bound.tokensOfList bs ≠ [] := by
  rcases List.exists_cons_of_ne_nil hne with ⟨b, bs, rfl⟩
  cases b with
  | _ => simp [Bound.tokensOfList]

/-- Arguments are read one by one up to the bracket that closes them. -/
theorem readArgs_of_readArg {a : Arg} {as : List Arg}
    (hclosed : ∀ rest, after? ">" (ts ++ rest) = none)
    (harg : ∀ rest, endsArg rest → readArg n (ts ++ rest) = some (a, rest))
    (hothers : as ≠ [] → readArgs n (commaSeparated (Arg.tokensOfList as) ++ (operator ">" ++ rest))
      = some (as, rest))
    : readArgs (n + 1) (commaSeparated (ts :: Arg.tokensOfList as) ++ (operator ">" ++ rest))
        =
      some (a :: as, rest) := by
  have hclosing : after? ">" (operator ">" ++ rest) = some rest := rfl
  cases as with
  | nil =>
    have htokens : commaSeparated (ts :: Arg.tokensOfList []) = ts := rfl
    rw [htokens, readArgs, hclosed, harg _ rfl]
    simp only [Option.bind_eq_bind, Option.bind_some, hclosing]
  | cons b as =>
    have htokens : commaSeparated (ts :: Arg.tokensOfList (b :: as))
        = ts ++ (operator "," ++ commaSeparated (Arg.tokensOfList (b :: as))) :=
      separated_cons (Arg.tokensOfList_ne_nil (by simp)) _ ts
    have hcomma (ts : List Token) : after? ">" (operator "," ++ ts) = none := rfl
    rw [htokens, List.append_assoc, List.append_assoc, readArgs, hclosed, harg _ rfl]
    simp only [Option.bind_eq_bind, Option.bind_some, hcomma, after?_comma, hothers (by simp)]

theorem readSegment_angled {i : Ident} (hi : i.isName || i == ⟨"Self", false⟩) {args : List Arg}
    (hread : readArgs n ts = some (args, rest))
    : readSegment (n + 2) false (.ident i :: (operator "<" ++ ts))
        =
      some (.mk i (.angled false args), rest) := by
  have hroot : (!i.raw && ["super", "self", "crate", "try"].contains i.name) = false := by
    rcases i with ⟨name, raw⟩
    rw [Bool.eq_false_iff]
    intro hroot
    simp only [Bool.and_eq_true, Bool.not_eq_true', List.contains_iff_mem] at hroot
    rcases hroot with ⟨rfl, hroot⟩
    have hreserved : ∀ name ∈ ["super", "self", "crate", "try"],
        ((⟨name, false⟩ : Ident).isName || (⟨name, false⟩ : Ident) == ⟨"Self", false⟩) = false := by
      decide
    rw [hreserved name hroot] at hi
    contradiction
  have hangle (ts : List Token) : after? "<" (operator "<" ++ ts) = some ts := rfl
  have hcolons (ts : List Token) : after? "::" (operator "<" ++ ts) = none := rfl
  have hstarts (ts : List Token) : (!false && startsWith "<" (operator "<" ++ ts)
      && !startsWith "<=" (operator "<" ++ ts)) = true := rfl
  rw [readSegment, hroot, if_neg (by decide), Bool.or_comm, hi, if_pos rfl, hstarts, Bool.true_or,
    if_pos rfl, readAngled, hcolons]
  simp only [Option.bind_eq_bind, Option.bind_some, hangle, hread]

/-- Segments are read one by one, as long as double colons follow. -/
theorem readSegments_of_readSegment {s : Segment} {ss : List Segment}
    (hsegment : ∀ rest, hasNoArguments rest → readSegment n false (ts ++ rest) = some (s, rest))
    (hothers : ss ≠ [] → readSegments n false true
      (separated (operator "::") (Segment.tokensOfList ss) ++ rest) = some (ss, rest))
    (hrest : endsPath rest)
    : readSegments (n + 1) false true
        (separated (operator "::") (ts :: Segment.tokensOfList ss) ++ rest)
        =
      some (s :: ss, rest) := by
  cases ss with
  | nil =>
    have htokens : separated (operator "::") (ts :: Segment.tokensOfList []) = ts := rfl
    have hend : after? "::" rest = none := by
      simp only [endsPath, startsWith, Bool.and_eq_true, Bool.not_eq_true',
        Option.isSome_eq_false_iff, Option.isNone_iff_eq_none] at hrest
      exact hrest.right
    rw [htokens, readSegments, hsegment _ (hasNoArguments_of_endsPath hrest)]
    simp [hend]
  | cons s' ss =>
    rcases s' with ⟨j, args⟩
    have htokens : separated (operator "::") (ts :: Segment.tokensOfList (.mk j args :: ss))
        = ts ++ (operator "::" ++
          separated (operator "::") (Segment.tokensOfList (.mk j args :: ss))) := by
      apply separated_cons
      simp [Segment.tokensOfList]
    rcases exists_separated_eq_cons (operator "::") (.ident j) args.tokens (Segment.tokensOfList ss)
      with ⟨us, hus⟩
    have hothers := hothers (by simp)
    rw [htokens, List.append_assoc, List.append_assoc]
    rw [Segment.tokensOfList, hus, List.cons_append] at hothers ⊢
    have hcall : thirdIsParen (operator "::" ++ .ident j :: (us ++ rest)) = false := rfl
    rw [readSegments, hsegment _ rfl]
    simp only [Option.bind_eq_bind, Option.bind_some, hcall, Bool.and_false, Bool.false_eq_true,
      if_false, after?_colons, hothers]

/-- What may follow a bound in a sum. -/
def endsBound (ts : List Token) : Bool :=
  endsPath ts && (callArguments? ts).isNone

/-- Tokens that start with a path that may be a type. -/
inductive StartsTyPath : List Token → Prop where
  | ident {i : Ident} (h : i.isName || i.isPathRoot) (ts : List Token) : StartsTyPath (.ident i :: ts)
  | root (ts : List Token) : StartsTyPath (operator "::" ++ ts)

theorem StartsTyPath.append (h : StartsTyPath ts) (rest : List Token) : StartsTyPath (ts ++ rest) := by
  cases h with
  | ident hi ts => exact .ident hi (ts ++ rest)
  | root ts =>
    rw [List.append_assoc]
    exact .root (ts ++ rest)

theorem StartsTyPath.startsSimple (h : StartsTyPath ts) : startsSimple ts := by
  cases h with
  | ident hi ts => rw [Code.startsSimple, hi, Bool.true_or]
  | root ts => rfl

theorem StartsTyPath.startsBound (h : StartsTyPath ts) : startsBound ts := by
  cases h with
  | ident hi ts => rfl
  | root ts => rfl

theorem StartsTyPath.after?_angle (h : StartsTyPath ts) : after? "<" ts = none := by
  cases h with
  | ident hi ts => rfl
  | root ts => rfl

theorem readBound_path {p : Path} (hstart : StartsTyPath ts)
    (hread : readPath n false ts = some (p, rest)) (hrest : endsBound rest)
    : readBound (n + 2) ts = some (.trait false none false p, rest) := by
  rw [endsBound, Bool.and_eq_true, Option.isNone_iff_eq_none] at hrest
  have hrelaxed : after? "?" ts = none := by
    cases hstart with
    | ident hi ts => rfl
    | root ts => rfl
  rw [readBound]
  . rw [readTraitBound, readBinder_of_startsSimple hstart.startsSimple]
    simp [hrelaxed, hread, hrest.right]
  . rintro i us rfl
    cases hstart
  . rintro body us rfl
    cases hstart

theorem readBound_lifetime (n : Nat) (i : Ident) (rest : List Token)
    : readBound (n + 1) (.lifetime i :: rest) = some (.lifetime i, rest) := by
  rw [readBound]

/-- Bounds are read one by one as long as plus signs follow. -/
theorem readBounds_of_readBound {plus : Bool} {b : Bound} {bs : List Bound}
    (hbound : ∀ rest, endsBound rest → readBound (n + 1) (ts ++ rest) = some (b, rest))
    (hothers : bs ≠ [] → plus
      ∧ startsBound (separated (operator "+") (Bound.tokensOfList bs) ++ rest)
      ∧ readBounds n true (separated (operator "+") (Bound.tokensOfList bs) ++ rest)
        = some (bs, false, rest))
    (hrest : endsBound rest) (hend : startsWith "+" rest = false)
    : readBounds (n + 2) plus (separated (operator "+") (ts :: Bound.tokensOfList bs) ++ rest)
        =
      some (b :: bs, false, rest) := by
  cases bs with
  | nil =>
    have htokens : separated (operator "+") (ts :: Bound.tokensOfList []) = ts := rfl
    rw [htokens, readBounds, hbound _ hrest]
    simp [hend]
  | cons b' bs =>
    rcases hothers (by simp) with ⟨hplus, hstart, hothers⟩
    rw [separated_cons (Bound.tokensOfList_ne_nil (by simp)), List.append_assoc, List.append_assoc]
    generalize separated (operator "+") (Bound.tokensOfList (b' :: bs)) ++ rest = us
      at hstart hothers ⊢
    have hnext : startsWith "+" (operator "+" ++ us) = true := rfl
    have hafter : after? "+" (operator "+" ++ us) = some us := rfl
    have hends : endsBound (operator "+" ++ us) := rfl
    rw [readBounds, hbound _ hends, hplus]
    simp only [Option.bind_eq_bind, Option.bind_some, hnext, Bool.and_true, if_true]
    rw [readSum, hafter]
    simp only [Option.bind_eq_bind, Option.bind_some, hstart, if_true, hothers]

theorem readTy_dyn {bounds : List Bound} {plus : Bool}
    (hread : readBounds n plus ts = some (bounds, false, rest)) (htrait : bounds.any Bound.isTrait)
    : readTy (n + 1) plus (word "dyn" :: ts) = some (.traitObject true bounds false, rest) := by
  have hbinder : readBinder (.ident ⟨"dyn", false⟩ :: ts)
      = some (none, .ident ⟨"dyn", false⟩ :: ts) := rfl
  rw [word, readTy, hbinder]
  simp only [Option.bind_eq_bind, Option.bind_some, hread, htrait]
  rfl

end LazyProxy.Code
