import LazyProxy.Proofs.Code.ItemReading

/-!
This module contains how the bodies of accessors are read: expressions that name a field, lend it or
assign to it, whatever the names are.
-/

namespace LazyProxy.Code

open Token (operator)

variable {base : Ident} {members : List Ident} {rest : List Token} {n : Nat}

/-- A field of a field, and so on, of a variable. -/
def fieldExpr (base : Ident) (members : List Ident) : Expr :=
  members.foldl .field (.path (.ofIdent base))

def memberTokens (members : List Ident) : List Token :=
  members.flatMap fun i => operator "." ++ [.ident i]

theorem tokens_foldl_field (e : Expr) (members : List Ident)
    : (members.foldl Expr.field e).tokens = e.tokens ++ memberTokens members := by
  induction members generalizing e with
  | nil => simp [memberTokens]
  | cons i members ih => simp [ih, memberTokens, Expr.tokens]

theorem tokens_fieldExpr (base : Ident) (members : List Ident)
    : (fieldExpr base members).tokens = .ident base :: memberTokens members := by
  rw [fieldExpr, tokens_foldl_field]
  rfl

/-- What ends a field in the body of an accessor. -/
def endsField : List Token → Bool
  | [] => true
  | .punct '=' false :: _ => true
  | .punct ';' false :: _ => true
  | _ => false

theorem readTrailers_of_endsField (hrest : endsField rest) (n : Nat) (e : Expr)
    : readTrailers (n + 1) e rest = some (e, rest) := by
  unfold endsField at hrest
  split at hrest
  . rw [readTrailers] <;> simp
    rfl
  . rw [readTrailers] <;> simp
    rfl
  . rw [readTrailers] <;> simp
    rfl
  . contradiction

/-- What a field takes no arguments in front of. -/
def endsMember : List Token → Bool
  | .punct '.' false :: _ => true
  | ts => endsField ts

theorem readTrailers_member {i : Ident} (hi : i.isName) {ts : List Token} (hts : endsMember ts)
    (n : Nat) (e : Expr)
    : readTrailers (n + 1) e (operator "." ++ .ident i :: ts) = readTrailers n (.field e i) ts := by
  have hdots : startsWith ".." (.punct '.' false :: .ident i :: ts) = false := rfl
  have hdot : after? "." (.punct '.' false :: .ident i :: ts) = some (.ident i :: ts) := rfl
  have hsplit : operator "." ++ .ident i :: ts = .punct '.' false :: .ident i :: ts := rfl
  have hcolons : startsWith "::" ts = false ∧ ∀ body us, ts ≠ .group .paren body :: us := by
    unfold endsMember endsField at hts
    split at hts
    . exact ⟨rfl, nofun⟩
    . split at hts
      . exact ⟨rfl, nofun⟩
      . exact ⟨rfl, nofun⟩
      . exact ⟨rfl, nofun⟩
      . contradiction
  rw [hsplit, readTrailers]
  . simp only [hdots, hdot, Bool.false_eq_true, if_false, Option.bind_eq_bind, readName_ident hi,
      Option.bind_some, hcolons.left]
    split
    . exact absurd rfl (hcolons.right _ _)
    . rfl
    . contradiction
  . simp
  . simp
  . simp

theorem endsMember_memberTokens (hrest : endsField rest) (members : List Ident)
    : endsMember (memberTokens members ++ rest) := by
  cases members with
  | nil =>
    unfold endsField at hrest
    split at hrest
    . rfl
    . rfl
    . rfl
    . contradiction
  | cons i members => rfl

theorem readTrailers_memberTokens (h : ∀ i ∈ members, i.isName) (hrest : endsField rest) (e : Expr)
    (n : Nat)
    : readTrailers (members.length + (n + 1)) e (memberTokens members ++ rest)
        =
      some (members.foldl .field e, rest) := by
  induction members generalizing e with
  | nil => rw [memberTokens, List.flatMap_nil, List.nil_append, List.length_nil, Nat.zero_add,
      readTrailers_of_endsField hrest, List.foldl_nil]
  | cons i members ih =>
    rw [List.forall_mem_cons] at h
    have hsplit : memberTokens (i :: members) ++ rest
        = operator "." ++ .ident i :: (memberTokens members ++ rest) := by
      simp [memberTokens]
    rw [hsplit, List.length_cons, Nat.add_right_comm,
      readTrailers_member h.left (endsMember_memberTokens hrest members), ih h.right,
      List.foldl_cons]

theorem isSegment_of_isPathRoot (h : base.isName || base.isPathRoot) : base.isSegment := by
  rw [Bool.or_eq_true] at h
  cases h with
  | inl h => exact Ident.isSegment_of_isName h
  | inr h =>
    simp only [Ident.isPathRoot, Bool.and_eq_true, List.contains_eq_mem, decide_eq_true_eq] at h
    simp only [Ident.isSegment, Bool.or_eq_true, List.contains_eq_mem, decide_eq_true_eq]
    apply Or.inr
    have hnames : ∀ name ∈ ["self", "Self", "super", "crate"],
        name ∈ ["self", "Self", "super", "crate", "try"] := by decide
    exact hnames _ h.right

theorem readLiteral_ident (h : base.isName || base.isPathRoot) (ts : List Token)
    : readLiteral (.ident base :: ts) = none := by
  unfold readLiteral
  split
  . next heq => cases heq
  . next heq =>
    cases heq
    exact absurd h (by decide)
  . next heq =>
    cases heq
    exact absurd h (by decide)
  . next heq => cases heq
  . rfl

/-- A variable is read as the path of its name. -/
theorem readAtom_ident (h : base.isName || base.isPathRoot) {ts : List Token} (hts : endsMember ts)
    (hn : 5 ≤ n)
    : readAtom n (.ident base :: ts) = some (.path (.ofIdent base), ts) := by
  obtain ⟨n, rfl⟩ := Nat.exists_eq_add_of_le' hn
  have hends : endsPath ts ∧ startsWith "!" ts = false ∧ ∀ body us, ts ≠ .group .brace body :: us := by
    unfold endsMember endsField at hts
    split at hts
    . exact ⟨rfl, rfl, nofun⟩
    . split at hts
      . exact ⟨rfl, rfl, nofun⟩
      . exact ⟨rfl, rfl, nofun⟩
      . exact ⟨rfl, rfl, nofun⟩
      . contradiction
  have hbang : behindBang? (.ofIdent base) ts = none := by
    rw [behindBang?, hends.right.left]
    rfl
  have hpath : readPath (n + 3) true (.ident base :: ts) = some (.ofIdent base, ts) := by
    have hnames : [base].all Ident.isSegment = true := by simpa using isSegment_of_isPathRoot h
    have hread := readPath_tokens_ofNames (List.cons_ne_nil base []) (Nat.le_add_left _ n)
      hends.left false true
    rw [if_pos hnames] at hread
    exact hread
  have hstarts : startsPath (.ident base :: ts) = true := h
  have hangle : after? "<" (.ident base :: ts) = none := rfl
  rw [readAtom, readLiteral_ident h]
  . simp only [hstarts, Bool.not_true, Bool.false_eq_true, if_false]
    rw [readQualified, hangle]
    simp only [Option.bind_eq_bind, hpath, Option.bind_some, hbang]
    split
    . exact absurd rfl (hends.right.right _ _)
    . rfl
  . intro us hus
    cases hus
    exact absurd h (by decide)
  . simp
  . simp
  . simp

/-- What may stand in front of an operand. -/
theorem readUnary_ident (ts : List Token)
    : readUnary (n + 1) (.ident base :: ts)
        =
      (readAtom n (.ident base :: ts)).bind fun (e, ts) => readTrailers n e ts := by
  rw [readUnary]
  . rfl
  . simp
  . simp
  . simp
  . simp

/-- An operand that is read where it has been written, at the end of a statement or in front of an
assignment. -/
structure Expr.ReadsBack (e : Expr) : Prop where
  start : ∃ t ts, e.tokens = t :: ts ∧ ∀ joint, t ≠ .punct ';' joint
  readUnary : ∀ ⦃n : Nat⦄ ⦃rest : List Token⦄, e.tokens.length + 6 ≤ n → endsField rest →
    Code.readUnary n (e.tokens ++ rest) = some (e, rest)

theorem length_le_length_memberTokens (members : List Ident)
    : members.length ≤ (memberTokens members).length := by
  refine length_le_length_flatMap ?_ members
  simp

theorem readsBack_fieldExpr (h : base.isName || base.isPathRoot)
    (hmembers : ∀ i ∈ members, i.isName)
    : (fieldExpr base members).ReadsBack where
  start := ⟨.ident base, memberTokens members, tokens_fieldExpr base members, nofun⟩
  readUnary := by
    intro n rest hn hrest
    have hlength := length_le_length_memberTokens members
    rw [tokens_fieldExpr, List.length_cons] at hn
    obtain ⟨n, rfl⟩ := Nat.exists_eq_add_of_le' hn
    have hdepth : n + ((memberTokens members).length + 1 + 6)
        = members.length + (n + (memberTokens members).length - members.length + 5 + 1) + 1 := by
      omega
    rw [tokens_fieldExpr, List.cons_append, hdepth, readUnary_ident,
      readAtom_ident h (endsMember_memberTokens hrest members) (by omega), Option.bind_some]
    exact readTrailers_memberTokens hmembers hrest _ _

theorem readUnary_borrow {ts : List Token} (hbase : base ≠ ⟨"mut", false⟩) (mutable : Bool)
    : readUnary (n + 1) (operator "&" ++ (mutTokens mutable ++ .ident base :: ts))
        =
      (readUnary n (.ident base :: ts)).map fun (e, rest) => (.borrow mutable e, rest) := by
  have hread : ((readUnary n (.ident base :: ts)).bind fun r => some (Expr.borrow mutable r.1, r.2))
      = (readUnary n (.ident base :: ts)).map fun (e, rest) => (.borrow mutable e, rest) := by
    cases readUnary n (.ident base :: ts) with
    | none => rfl
    | some r => rfl
  have hamp (us : List Token) : operator "&" ++ us = .punct '&' false :: us := rfl
  rw [hamp, readUnary]
  cases mutable with
  | true => exact hread
  | false =>
    have hmut : afterWord? "mut" (.ident base :: ts) = none := by
      rcases base with ⟨name, _ | _⟩
      . rw [afterWord?, if_neg]
        rintro rfl
        exact hbase rfl
      . rfl
    have htokens : mutTokens false ++ .ident base :: ts = .ident base :: ts := rfl
    rw [htokens]
    simp only [hmut]
    exact hread

theorem Expr.ReadsBack.borrow (h : (fieldExpr base members).ReadsBack) (hbase : base ≠ ⟨"mut", false⟩)
    (mutable : Bool)
    : (Expr.borrow mutable (fieldExpr base members)).ReadsBack where
  start := ⟨.punct '&' false, _, rfl, by simp⟩
  readUnary := by
    intro n rest hn hrest
    have htokens (us : List Token) : (Expr.borrow mutable (fieldExpr base members)).tokens ++ us
        = operator "&" ++ (mutTokens mutable ++ ((fieldExpr base members).tokens ++ us)) := by
      simp [Expr.tokens]
    have hlength := congrArg List.length (htokens [])
    have hamp : (operator "&").length = 1 := rfl
    simp only [List.append_nil, List.length_append, hamp] at hlength
    obtain ⟨n, rfl⟩ := Nat.exists_eq_add_one_of_ne_zero (by omega : n ≠ 0)
    have hdepth : (fieldExpr base members).tokens.length + 6 ≤ n := by omega
    have hread := h.readUnary hdepth hrest
    rw [htokens]
    rw [tokens_fieldExpr, List.cons_append] at hread ⊢
    rw [readUnary_borrow hbase, hread]
    rfl

/-- What ends a statement in the body of an accessor. -/
def endsStmt : List Token → Bool
  | [] => true
  | .punct ';' false :: _ => true
  | _ => false

theorem nextTightness_of_endsStmt (h : endsStmt rest) : nextTightness rest = 0 := by
  unfold endsStmt at h
  split at h
  . rfl
  . rfl
  . contradiction

/-- At the end of a statement no operator follows. -/
theorem readOperators_of_endsStmt (hrest : endsStmt rest) (n : Nat) (e : Expr)
    : readOperators (n + 1) 0 e rest = some (e, rest) := by
  unfold endsStmt at hrest
  rw [readOperators]
  split at hrest
  . rfl
  . rfl
  . contradiction

theorem readTighter_of_endsStmt (hrest : endsStmt rest) (n tightness : Nat) (e : Expr)
    : readTighter (n + 1) tightness e rest = some (e, rest) := by
  have hassignment : (0 == tightness && tightness == Tightness.assignment) = false := by
    cases tightness with
    | zero => rfl
    | succ tightness => rfl
  rw [readTighter, nextTightness_of_endsStmt hrest]
  simp [hassignment]

theorem readOperators_assign {right : Expr} {ts : List Token}
    (hts : readUnary (n + 1) ts = some (right, rest)) (hrest : endsStmt rest) (left : Expr)
    : readOperators (n + 3) 0 left (operator "=" ++ ts) = some (.assign left right, rest) := by
  have hequals : operator "=" ++ ts = .punct '=' false :: ts := rfl
  have hoperator : readBinaryOperator (.punct '=' false :: ts) = none := rfl
  have hassign : (decide (0 ≤ Tightness.assignment) && startsWith "=" (.punct '=' false :: ts)
      && !startsWith "=>" (.punct '=' false :: ts)) = true := rfl
  have hafter : after? "=" (.punct '=' false :: ts) = some ts := rfl
  have hright : readRight (n + 2) Tightness.assignment ts = some (right, rest) := by
    rw [readRight, hts]
    simp only [Option.bind_eq_bind, Option.bind_some]
    exact readTighter_of_endsStmt hrest n Tightness.assignment right
  rw [hequals, readOperators, hoperator]
  simp only [hassign, if_true, hafter, Option.bind_eq_bind, Option.bind_some, hright]
  exact readOperators_of_endsStmt hrest (n + 1) _

/-- The depth of reading leaves room for each of the tokens. -/
theorem length_add_le_readingDepth (ts : List Token) : ts.length + 16 ≤ readingDepth ts := by
  have hcount := length_le_countAll ts
  rw [readingDepth]
  omega

/-- What is read as an operand is read as a statement without a semicolon, if nothing follows. -/
theorem readStmts_last {e : Expr} {t : Token} {ts : List Token} (ht : ∀ joint, t ≠ .punct ';' joint)
    (hread : readUnary (n + 1) (t :: ts) = some (e, []))
    : readStmts (n + 3) (t :: ts) = some [.expr e false] := by
  have hexpr : readExpr (n + 2) 0 (t :: ts) = some (e, []) := by
    rw [readExpr, hread]
    exact readOperators_of_endsStmt rfl n e
  rw [readStmts]
  . rw [hexpr]
    rfl
  . simp
  . intro joint us hus
    rw [List.cons.injEq] at hus
    exact ht joint hus.left

theorem readStmts_assign {left right : Expr} {t : Token} {ts us : List Token}
    (ht : ∀ joint, t ≠ .punct ';' joint)
    (hleft : readUnary (n + 3) (t :: ts) = some (left, operator "=" ++ us))
    (hright : readUnary (n + 1) us = some (right, operator ";"))
    : readStmts (n + 5) (t :: ts) = some [.expr (.assign left right) true] := by
  have hexpr : readExpr (n + 4) 0 (t :: ts) = some (.assign left right, [.punct ';' false]) := by
    rw [readExpr, hleft]
    exact readOperators_assign hright rfl left
  have hsemicolon : after? ";" [.punct ';' false] = some [] := rfl
  have hend : readStmts (n + 4) [] = some [] := by rw [readStmts]
  rw [readStmts]
  . simp only [hexpr, hsemicolon, Option.bind_eq_bind, Option.bind_some, hend]
  . simp
  . intro joint us hus
    rw [List.cons.injEq] at hus
    exact ht joint hus.left

/-- An operand is read back as the only statement of a body. -/
theorem Expr.ReadsBack.readBack {e : Expr} (h : e.ReadsBack) : ReadBack [.expr e false] := by
  rcases h.start with ⟨t, ts, htokens, ht⟩
  have hbody : Stmt.tokensOfList [.expr e false] = e.tokens := by simp [Stmt.tokensOfList]
  obtain ⟨n, hn⟩ := Nat.exists_eq_add_of_le' (length_add_le_readingDepth e.tokens)
  have hdepth : e.tokens.length + 6 ≤ n + e.tokens.length + 13 + 1 := by omega
  have hend : endsField [] := rfl
  have hread := h.readUnary hdepth hend
  rw [List.append_nil] at hread
  rw [ReadBack, hbody, hn]
  rw [htokens] at hread ⊢
  exact readStmts_last ht hread

/-- An assignment is read back as the only statement of a body. -/
theorem readBack_assign {left right : Expr} (hleft : left.ReadsBack) (hright : right.ReadsBack)
    : ReadBack [.expr (.assign left right) true] := by
  rcases hleft.start with ⟨t, ts, htokens, ht⟩
  have hbody : Stmt.tokensOfList [.expr (.assign left right) true]
      = left.tokens ++ (operator "=" ++ (right.tokens ++ operator ";")) := by
    simp [Stmt.tokensOfList, Expr.tokens]
  have hlength := length_add_le_readingDepth
    (left.tokens ++ (operator "=" ++ (right.tokens ++ operator ";")))
  rw [List.length_append, List.length_append, List.length_append] at hlength
  obtain ⟨n, hn⟩ := Nat.exists_eq_add_of_le'
    (Nat.le_trans (by decide : 5 ≤ 16) (Nat.le_of_add_left_le hlength))
  rw [hn] at hlength
  have hleftDepth : left.tokens.length + 6 ≤ n + 3 := by omega
  have hrightDepth : right.tokens.length + 6 ≤ n + 1 := by omega
  have hassign : endsField (operator "=" ++ (right.tokens ++ operator ";")) := rfl
  have hend : endsField (operator ";") := rfl
  have hreadLeft := hleft.readUnary hleftDepth hassign
  rw [ReadBack, hbody, hn]
  rw [htokens, List.cons_append] at hreadLeft ⊢
  exact readStmts_assign ht hreadLeft (hright.readUnary hrightDepth hend)

end LazyProxy.Code
