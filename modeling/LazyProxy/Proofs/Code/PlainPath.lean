import LazyProxy.Code.Writer
import LazyProxy.Proofs.Code.Lexing

/-!
This module contains how paths without arguments are read: from their tokens, whatever follows them, and
from text.
-/

namespace LazyProxy.Code

open Text
open Token (operator)

namespace Ident

/-- Whether a name may be a segment of a path: no word is reserved but for those that name modules or
types, and `try`. -/
def isSegment (i : Ident) : Bool :=
  i.isName || ["self", "Self", "super", "crate", "try"].contains i.name

theorem isSegment_of_isName {i : Ident} (h : i.isName) : i.isSegment := by
  rw [isSegment, h, Bool.true_or]

end Ident

/-- A path of names without arguments. -/
def Path.ofNames (rooted : Bool) (names : List Ident) : Path :=
  .mk rooted (names.map (.mk · .none))

variable {i : Ident} {ts rest : List Token} {n : Nat}

/-- The tokens of a path behind what roots it. -/
def nameTokens (names : List Ident) : List Token :=
  separated (operator "::") (names.map ([.ident ·]))

theorem tokensOfList_ofNames (names : List Ident)
    : Segment.tokensOfList (names.map (.mk · .none)) = names.map ([.ident ·]) := by
  induction names with
  | nil => rfl
  | cons i names ih => rw [List.map_cons, Segment.tokensOfList, ih, Args.tokens, List.map_cons]

theorem tokens_ofNames (rooted : Bool) (names : List Ident)
    : (Path.ofNames rooted names).tokens
        =
      (if rooted then operator "::" else []) ++ nameTokens names := by
  rw [Path.ofNames, Path.tokens, tokensOfList_ofNames, nameTokens]

/-- Whether no arguments follow. -/
def hasNoArguments (ts : List Token) : Bool :=
  !startsWith "<" ts && !(startsWith "::" ts && thirdIs '<' ts)

/-- Whether a path without arguments ends here. -/
def endsPath (ts : List Token) : Bool :=
  !startsWith "<" ts && !startsWith "::" ts

theorem hasNoArguments_of_endsPath (h : endsPath ts) : hasNoArguments ts := by
  rw [endsPath, Bool.and_eq_true, Bool.not_eq_true', Bool.not_eq_true'] at h
  rw [hasNoArguments, h.left, h.right]
  rfl

theorem readSegment_ident (h : i.isSegment) (hrest : hasNoArguments rest) (inExpr : Bool)
    : readSegment (n + 1) inExpr (.ident i :: rest) = some (.mk i .none, rest) := by
  simp only [hasNoArguments, Bool.and_eq_true, Bool.not_eq_true'] at hrest
  simp only [readSegment]
  split
  . rfl
  . next hroot =>
    have hname : (i == ⟨"Self", false⟩ || i.isName) = true := by
      rcases i with ⟨name, raw⟩
      simp only [Ident.isSegment, Ident.isName] at h ⊢
      cases raw with
      | true => simp
      | false =>
        simp only [Bool.false_or, Bool.or_eq_true, List.contains_eq_mem,
          decide_eq_true_eq] at h ⊢
        rcases h with h | h
        . exact Or.inr h
        . simp only [List.mem_cons, List.not_mem_nil, or_false] at h
          rcases h with rfl | rfl | rfl | rfl | rfl
          . simp at hroot
          . simp
          . simp at hroot
          . simp at hroot
          . simp at hroot
    rw [if_pos hname, if_neg]
    simp [hrest]

theorem readSegment_eq_none (h : i.isSegment = false) (n : Nat) (inExpr : Bool) (rest : List Token)
    : readSegment n inExpr (.ident i :: rest) = none := by
  cases n with
  | zero => rw [readSegment]
  | succ n =>
    simp only [Ident.isSegment, Bool.or_eq_false_iff] at h
    simp only [readSegment, h.left, Bool.or_false]
    split
    . next hroot => simp_all
    . split
      . next hself => simp_all
      . rfl

theorem after?_colons (ts : List Token) : after? "::" (operator "::" ++ ts) = some ts := by
  rfl

theorem nameTokens_cons_cons (i j : Ident) (names : List Ident)
    : nameTokens (i :: j :: names) = .ident i :: operator "::" ++ nameTokens (j :: names) := by
  rfl

/-- A name in front of a double colon is a segment of its own. -/
theorem readSegments_cons (hts : hasNoArguments (operator "::" ++ ts))
    (hcall : thirdIsParen (operator "::" ++ ts) = false) (inExpr beforeCall : Bool)
    : readSegments (n + 2) inExpr beforeCall (.ident i :: (operator "::" ++ ts))
        =
      if i.isSegment then
        (readSegments (n + 1) inExpr beforeCall ts).map fun (ss, rest) => (.mk i .none :: ss, rest)
      else none := by
  rw [readSegments]
  split
  . next hi =>
    rw [readSegment_ident hi hts]
    simp only [Option.bind_eq_bind, Option.bind_some, hcall, Bool.and_false, Bool.false_eq_true,
      if_false, after?_colons]
    cases readSegments (n + 1) inExpr beforeCall ts with
    | none => rfl
    | some r => rfl
  . next hi =>
    rw [readSegment_eq_none (by simpa using hi)]
    rfl

/-- What a reader of paths makes of the tokens of names: it takes those that may be segments. -/
theorem readSegments_nameTokens {names : List Ident} (hne : names ≠ []) (hn : names.length + 1 ≤ n)
    (hrest : endsPath rest) (inExpr beforeCall : Bool)
    : readSegments n inExpr beforeCall (nameTokens names ++ rest)
        =
      if names.all Ident.isSegment then some (names.map (.mk · .none), rest) else none := by
  induction names generalizing n with
  | nil => contradiction
  | cons i names ih =>
    rw [List.length_cons] at hn
    rcases Nat.exists_eq_add_of_le hn with ⟨k, rfl⟩
    have hfuel : names.length + 1 + 1 + k = names.length + k + 1 + 1 := by omega
    rw [hfuel, List.all_cons]
    cases names with
    | nil =>
      have hend : after? "::" rest = none := by
        simp only [endsPath, startsWith, Bool.and_eq_true, Bool.not_eq_true',
          Option.isSome_eq_false_iff, Option.isNone_iff_eq_none] at hrest
        exact hrest.right
      rw [nameTokens, List.map_singleton, separated, List.singleton_append, readSegments,
        List.all_nil, Bool.and_true]
      split
      . next hi =>
        rw [readSegment_ident hi (hasNoArguments_of_endsPath hrest)]
        simp [hend]
      . next hi =>
        rw [readSegment_eq_none (by simpa using hi)]
        rfl
    | cons j names =>
      have hnext : ∃ us, nameTokens (j :: names) ++ rest = .ident j :: us := by
        cases names with
        | nil => exact ⟨_, rfl⟩
        | cons k names => exact ⟨_, rfl⟩
      have hread := ih (n := (j :: names).length + k + 1) (by simp) (by omega)
      rw [nameTokens_cons_cons, List.cons_append, List.cons_append, List.append_assoc]
      rcases hnext with ⟨us, hus⟩
      rw [hus] at hread ⊢
      rw [readSegments_cons rfl rfl, hread]
      cases i.isSegment with
      | false => rfl
      | true => cases (j :: names).all Ident.isSegment with
        | true => rfl
        | false => rfl

theorem head_nameTokens {names : List Ident} (hne : names ≠ [])
    : ∃ ts, nameTokens names = .ident (names.head hne) :: ts := by
  match names with
  | [i] => exact ⟨[], rfl⟩
  | i :: j :: names => exact ⟨_, nameTokens_cons_cons i j names⟩

theorem readPath_rooted (n : Nat) (inExpr : Bool) (ts : List Token)
    : readPath (n + 1) inExpr (operator "::" ++ ts)
        =
      (readSegments n inExpr true ts).map fun (segments, rest) => (.mk true segments, rest) := by
  rw [readPath, after?_colons]
  dsimp only
  cases readSegments n inExpr true ts with
  | none => rfl
  | some r => rfl

theorem readPath_of_after?_eq_none {ts : List Token} (h : after? "::" ts = none) (n : Nat)
    (inExpr : Bool)
    : readPath (n + 1) inExpr ts
        =
      (readSegments n inExpr true ts).map fun (segments, rest) => (.mk false segments, rest) := by
  rw [readPath, h]
  dsimp only
  cases readSegments n inExpr true ts with
  | none => rfl
  | some r => rfl

theorem readPath_tokens_ofNames {names : List Ident} (hne : names ≠ [])
    (hn : names.length + 2 ≤ n) (hrest : endsPath rest) (rooted inExpr : Bool)
    : readPath n inExpr ((Path.ofNames rooted names).tokens ++ rest)
        =
      if names.all Ident.isSegment then some (Path.ofNames rooted names, rest) else none := by
  rcases Nat.exists_eq_add_of_le hn with ⟨k, rfl⟩
  have hfuel : names.length + 2 + k = names.length + 1 + k + 1 := by omega
  have hsegments := readSegments_nameTokens (n := names.length + 1 + k) hne (by omega) hrest inExpr
    true
  have hread : readPath (names.length + 1 + k + 1) inExpr
      ((Path.ofNames rooted names).tokens ++ rest)
        =
      (readSegments (names.length + 1 + k) inExpr true (nameTokens names ++ rest)).map
        fun (segments, rest) => (.mk rooted segments, rest) := by
    rw [tokens_ofNames]
    cases rooted with
    | true => exact readPath_rooted _ inExpr (nameTokens names ++ rest)
    | false =>
      rcases head_nameTokens hne with ⟨ts, hts⟩
      apply readPath_of_after?_eq_none
      rw [hts]
      rfl
  rw [hfuel, hread, hsegments]
  cases names.all Ident.isSegment with
  | true => rfl
  | false => rfl

/-- Whether the type that is a path ends with it. -/
def endsPathTy (ts : List Token) : Bool :=
  endsPath ts && !startsWith "!" ts && !startsWith "+" ts

theorem endsPathTy_iff
    : endsPathTy ts ↔ endsPath ts ∧ startsWith "!" ts = false ∧ startsWith "+" ts = false := by
  simp only [endsPathTy, Bool.and_eq_true, Bool.not_eq_true', and_assoc]

theorem readTy_ident (h : i.isName || i.isPathRoot) (n : Nat) (plus : Bool) (ts : List Token)
    : readTy (n + 1) plus (.ident i :: ts) = readPathTy n plus none (.ident i :: ts) := by
  have hne : ∀ name ∈ ["for", "fn", "unsafe", "extern", "dyn", "impl", "_"], i ≠ ⟨name, false⟩ := by
    intro name hname hi
    subst hi
    simp only [List.mem_cons, List.not_mem_nil, or_false] at hname
    rcases hname with rfl | rfl | rfl | rfl | rfl | rfl | rfl
    all_goals exact absurd h (by decide)
  have hbinder : readBinder (.ident i :: ts) = some (none, .ident i :: ts) := by
    have hfor : afterWord? "for" (.ident i :: ts) = none := by
      rcases i with ⟨name, raw⟩
      cases raw with
      | true => rfl
      | false =>
        simp only [afterWord?]
        rw [if_neg]
        intro hname
        exact hne "for" (by simp) (by rw [hname])
    rw [readBinder, hfor]
  have hstart : startsPath (.ident i :: ts) = true := h
  rw [readTy, hbinder]
  simp only [Option.bind_eq_bind, Option.bind_some]
  split
  all_goals simp_all

theorem readTy_colons (n : Nat) (plus : Bool) (ts : List Token)
    : readTy (n + 1) plus (operator "::" ++ ts) = readPathTy n plus none (operator "::" ++ ts) := by
  have hcolons : operator "::" = [.punct ':' true, .punct ':' false] := rfl
  have hbinder : readBinder (operator "::" ++ ts) = some (none, operator "::" ++ ts) := rfl
  have hstart : startsPath (operator "::" ++ ts) = true := rfl
  rw [readTy, hbinder]
  simp only [hcolons, List.cons_append, List.nil_append, Option.bind_eq_bind, Option.bind_some]
  rw [hcolons] at hstart
  simp only [List.cons_append, List.nil_append] at hstart
  simp [hstart]

/-- Whether a path of names may be a type. Only below a root it may start with `try`. -/
def startsTy (rooted : Bool) (names : List Ident) : Bool :=
  rooted || names.head?.any fun i => i.isName || i.isPathRoot

theorem readPathTy_of_readPath {p : Path} (hpath : readPath n false ts = some (p, rest))
    (hstart : after? "<" ts = none) (hrest : endsPathTy rest) (plus : Bool)
    : readPathTy (n + 2) plus none ts = some (.path p, rest) := by
  rcases endsPathTy_iff.mp hrest with ⟨-, hbang, hplus⟩
  have hbehind : behindBang? p rest = none := by
    rw [behindBang?, hbang]
    rfl
  rw [readPathTy, readQualified, hstart]
  simp only [Option.bind_eq_bind, Option.bind_some, hpath, hbehind]
  simp [hplus]

theorem length_le_countAll (ts : List Token) : ts.length ≤ Token.countAll ts := by
  induction ts with
  | nil => simp
  | cons t ts ih =>
    have ht : 1 ≤ Token.count t := by
      cases t with
      | group d body => simp [Token.count]
      | _ => simp [Token.count]
    rw [Token.countAll, List.length_cons]
    omega

theorem nest?_tokens (done ts : List Token)
    : nest? [] done (ts.map Lexeme.token) = some (done.reverse ++ ts) := by
  induction ts generalizing done with
  | nil => simp [nest?]
  | cons t ts ih =>
    rw [List.map_cons, nest?, ih, List.reverse_cons, List.append_assoc]
    rfl

section Text

variable {cs : List Char}

theorem lexemes?_colon (cs : List Char)
    : lexemes? (':' :: cs)
        =
      (lexemes? cs).map (.token (.punct ':' (startsPunct cs)) :: ·) := by
  have hread : readLexeme? (':' :: cs)
      = some ([.token (.punct ':' (startsPunct cs))], cs) := rfl
  rw [lexemes?_eq hread (by simp)]
  rfl

theorem lexemes?_colons (h : startsPunct cs = false)
    : lexemes? ("::".toList ++ cs)
        =
      (lexemes? cs).map ((operator "::").map Lexeme.token ++ ·) := by
  have hcolon : startsPunct (':' :: cs) = true := rfl
  have htext : "::".toList ++ cs = ':' :: ':' :: cs := rfl
  rw [htext, lexemes?_colon, lexemes?_colon, hcolon, h, Option.map_map]
  rfl

theorem toList_join_cons_cons (i j : Ident) (names : List Ident)
    : (join "::" ((i :: j :: names).map Ident.text)).toList
        =
      i.text.toList ++ ("::".toList ++ (join "::" ((j :: names).map Ident.text)).toList) := by
  simp [join, String.intercalate_cons_cons]

theorem exists_join_eq_cons (h : i.IsWritten) (names : List Ident)
    : ∃ c cs, (join "::" ((i :: names).map Ident.text)).toList = c :: cs ∧ isWordStart c := by
  rcases exists_text_eq_cons h with ⟨c, cs, htext, hc⟩
  cases names with
  | nil => exact ⟨c, cs, by simpa [join] using htext, hc⟩
  | cons j names => exact ⟨c, _, by rw [toList_join_cons_cons, htext, List.cons_append], hc⟩

/-- Names with double colons between them are the tokens of a path. -/
theorem lexemes?_join {names : List Ident} (hne : names ≠ []) (h : ∀ i ∈ names, i.IsWritten)
    : lexemes? (join "::" (names.map Ident.text)).toList
        =
      some ((nameTokens names).map Lexeme.token) := by
  match names with
  | [i] =>
    have hnil : lexemes? [] = some [] := by
      rw [lexemes?]
      rfl
    have hend : endsWord [] := rfl
    have hi := lexemes?_text (h i (by simp)) hend
    rw [List.append_nil, hnil] at hi
    simpa [join, nameTokens, separated] using hi
  | i :: j :: names =>
    have hend : endsWord ("::".toList ++ (join "::" ((j :: names).map Ident.text)).toList) := by
      have hcolon : (!isWordPart ':' && !(['"', '\'', '#'].contains ':')) = true := by
        decide
      exact hcolon
    have hstart : startsPunct (join "::" ((j :: names).map Ident.text)).toList = false := by
      rcases exists_join_eq_cons (h j (by simp)) names with ⟨c, cs, htext, hc⟩
      rw [htext, startsPunct_eq_false hc]
    rw [List.forall_mem_cons] at h
    rw [toList_join_cons_cons, lexemes?_text h.left hend, lexemes?_colons hstart,
      lexemes?_join (by simp) h.right]
    simp [nameTokens_cons_cons]

/-- The tokens of a path, from its text. -/
theorem tokens?_ofNames {names : List Ident} (hne : names ≠ []) (h : ∀ i ∈ names, i.IsWritten)
    (rooted : Bool)
    : tokens? ((if rooted then "::" else "") ++ join "::" (names.map Ident.text))
        =
      some (Path.ofNames rooted names).tokens := by
  rcases List.exists_cons_of_ne_nil hne with ⟨i, others, rfl⟩
  rcases exists_join_eq_cons (h i (by simp)) others with ⟨c, cs, htext, hc⟩
  have hlexemes := lexemes?_join hne h
  have hmark : c ≠ '\ufeff' := ne_of_isWordStart hc (by decide)
  cases rooted with
  | true =>
    have hstart := startsPunct_eq_false hc cs
    rw [← htext] at hstart
    rw [tokens?_eq (by simp), if_pos rfl, String.toList_append, lexemes?_colons hstart, hlexemes,
      Option.map_some, Option.bind_some, ← List.map_append, nest?_tokens, tokens_ofNames, if_pos rfl]
    rfl
  | false =>
    have hempty : (if false then "::" else "") ++ join "::" ((i :: others).map Ident.text)
        = join "::" ((i :: others).map Ident.text) := String.empty_append
    rw [hempty, tokens?_eq (by rw [htext]; simpa using hmark), hlexemes, Option.bind_some,
      nest?_tokens, tokens_ofNames]
    rfl

theorem length_le_length_nameTokens (names : List Ident)
    : names.length ≤ (nameTokens names).length := by
  match names with
  | [] => simp
  | [i] => simp [nameTokens, separated]
  | i :: j :: names =>
    have h := length_le_length_nameTokens (j :: names)
    rw [nameTokens_cons_cons]
    simp only [List.cons_append, List.length_cons, List.length_append] at h ⊢
    omega

/-- The path that a text of names is read as: it is one if each name may be a segment. -/
theorem ofText?_ofNames {names : List Ident} (hne : names ≠ []) (h : ∀ i ∈ names, i.IsWritten)
    (rooted : Bool)
    : Path.ofText? ((if rooted then "::" else "") ++ join "::" (names.map Ident.text))
        =
      if names.all Ident.isSegment then some (Path.ofNames rooted names) else none := by
  have hdepth : names.length + 2 ≤ readingDepth (Path.ofNames rooted names).tokens := by
    have hcount := length_le_countAll (Path.ofNames rooted names).tokens
    have hlength := length_le_length_nameTokens names
    rw [tokens_ofNames, List.length_append] at hcount
    rw [readingDepth, tokens_ofNames]
    omega
  have hend : endsPath [] := rfl
  have hread := readPath_tokens_ofNames hne hdepth hend rooted false
  rw [List.append_nil] at hread
  rw [Path.ofText?, tokens?_ofNames hne h]
  simp only [Option.bind_eq_bind, Option.bind_some, hread]
  cases names.all Ident.isSegment with
  | true => rfl
  | false => rfl

end Text

end LazyProxy.Code
