import LazyProxy.Proofs.Code.Lexing
import LazyProxy.Proofs.Code.SimpleType

/-!
This module contains that words, lifetimes, operators and brackets are read from their text as the same
tokens again, and simple types that are made of them as the same types.
-/

namespace LazyProxy.Code

open Text

instance (i : Ident) : Decidable i.IsWritten :=
  decidable_of_iff (Ident.isWord i.name ∧ (i.raw → i.name ∉ Ident.withoutRawForm))
    ⟨fun h => ⟨h.left, h.right⟩, fun h => ⟨h.isWord, h.hasRawForm⟩⟩

namespace Token

mutual

/-- The lexemes that a token is read from. -/
def lexemes : Token → List Lexeme
  | .group d body => .opening d :: (lexemesOf body ++ [.closing d])
  | t => [.token t]

def lexemesOf : List Token → List Lexeme
  | [] => []
  | t :: ts => t.lexemes ++ lexemesOf ts

end

/-- The characters of the operators in simple types. -/
def typePuncts : List Char :=
  [':', '<', '>', ',', ';', '&', '*', '!', '+']

/-- Whether a joint character is followed by another one. -/
def isJoined : Token → List Token → Bool
  | .punct _ true, .punct _ _ :: _ => true
  | .punct _ true, _ => false
  | _, _ => true

mutual

/-- Whether a token is read from its text again. -/
def isLegible : Token → Bool
  | .ident i => decide i.IsWritten
  | .lifetime i => decide i.IsWritten
  | .punct c _ => typePuncts.contains c
  | .literal _ _ => false
  | .group _ body => areLegible body

def areLegible : List Token → Bool
  | [] => true
  | t :: ts => t.isLegible && t.isJoined ts && areLegible ts

end

end Token

open Token (areLegible lexemesOf)

mutual

theorem nest?_lexemes (enclosing : List (Delimiter × List Token)) (done : List Token) (ls : List Lexeme)
    (t : Token)
    : nest? enclosing done (t.lexemes ++ ls) = nest? enclosing (t :: done) ls := by
  cases t with
  | group d body =>
    rw [Token.lexemes, List.cons_append, List.append_assoc, nest?, nest?_lexemesOf, List.append_nil,
      List.singleton_append, nest?, if_pos rfl, List.reverse_reverse]
  | _ =>
    rw [Token.lexemes, List.singleton_append, nest?]
    nofun

theorem nest?_lexemesOf (enclosing : List (Delimiter × List Token)) (done : List Token)
    (ls : List Lexeme) (ts : List Token)
    : nest? enclosing done (lexemesOf ts ++ ls) = nest? enclosing (ts.reverse ++ done) ls := by
  cases ts with
  | nil => rfl
  | cons t ts =>
    rw [lexemesOf, List.append_assoc, nest?_lexemes, nest?_lexemesOf, List.reverse_cons,
      List.append_assoc, List.singleton_append]

end

variable {cs : List Char} {i : Ident}

theorem endsWord_blank (cs : List Char) : endsWord (' ' :: cs) := by
  have hblank : (!isWordPart ' ' && !(['"', '\'', '#'].contains ' ')) = true := by
    decide
  exact hblank

theorem lexemes?_blank (cs : List Char) : lexemes? (' ' :: cs) = lexemes? cs :=
  lexemes?_gap (by decide) cs

theorem lexemes?_punct {c : Char} (hc : c ∈ Token.typePuncts) (cs : List Char)
    : lexemes? (c :: cs)
        =
      (lexemes? cs).map (.token (.punct c (startsPunct cs)) :: ·) := by
  have hread : readLexeme? (c :: cs) = some ([.token (.punct c (startsPunct cs))], cs) := by
    simp only [Token.typePuncts, List.mem_cons, List.not_mem_nil, or_false] at hc
    rcases hc with rfl | rfl | rfl | rfl | rfl | rfl | rfl | rfl | rfl
    all_goals rfl
  rw [lexemes?_eq hread (by simp)]
  rfl

theorem lexemes?_opening (d : Delimiter) (cs : List Char)
    : lexemes? (d.opening :: cs) = (lexemes? cs).map (.opening d :: ·) := by
  have hread : readLexeme? (d.opening :: cs) = some ([.opening d], cs) := by
    cases d with
    | _ => rfl
  rw [lexemes?_eq hread (by simp)]
  rfl

theorem lexemes?_closing (d : Delimiter) (cs : List Char)
    : lexemes? (d.closing :: cs) = (lexemes? cs).map (.closing d :: ·) := by
  have hread : readLexeme? (d.closing :: cs) = some ([.closing d], cs) := by
    cases d with
    | _ => rfl
  rw [lexemes?_eq hread (by simp)]
  rfl

/-- An apostrophe in front of a word starts no character literal. -/
theorem readCharacter_text (h : i.IsWritten) (cs : List Char)
    : readCharacter false (i.text.toList ++ ' ' :: cs) = none := by
  rcases Ident.exists_of_isWord h.isWord with ⟨c, ds, hname, hc, hds⟩
  rcases i with ⟨name, _ | _⟩
  . have htext : (Ident.text ⟨name, false⟩).toList = c :: ds := hname
    have hbackslash : c ≠ '\\' := by
      rintro rfl
      exact absurd hc (by decide)
    -- What follows the first letter does not close a literal.
    have hquote : ∀ rest, ds ++ ' ' :: cs ≠ '\'' :: rest := by
      intro rest hrest
      have hhead : (ds ++ ' ' :: cs).head? = some '\'' := by
        rw [hrest]
        rfl
      exact absurd (not_mem_of_head? hds (endsWord_blank cs) hhead) (by decide)
    rw [htext, List.cons_append]
    unfold readCharacter
    split
    . next heq => exact absurd (List.head_eq_of_cons_eq heq) hbackslash
    . next heq => exact absurd (List.head_eq_of_cons_eq heq) hbackslash
    . next heq => exact absurd (List.head_eq_of_cons_eq heq) hbackslash
    . next heq =>
      rw [List.cons.injEq] at heq
      rcases heq with ⟨rfl, rfl⟩
      simp only [Bool.false_and, Bool.false_eq_true, if_false]
    . rfl
  . have htext : (Ident.text ⟨name, true⟩).toList = 'r' :: '#' :: name.toList := by
      rw [Ident.text, if_pos rfl, String.toList_append]
      rfl
    rw [htext]
    rfl

theorem lexemes?_lifetime (h : i.IsWritten) (cs : List Char)
    : lexemes? ('\'' :: (i.text.toList ++ ' ' :: cs))
        =
      (lexemes? cs).map (.token (.lifetime i) :: ·) := by
  have hliteral : dropLiteral? ('\'' :: (i.text.toList ++ ' ' :: cs)) = none := by
    change (readCharacter false (i.text.toList ++ ' ' :: cs)).map
      (fun v => (LiteralKind.char, dropSuffix v.2)) = none
    rw [readCharacter_text h]
    rfl
  have hlifetime : readLifetime? (i.text.toList ++ ' ' :: cs) = some (i, ' ' :: cs) := by
    rw [readLifetime?, readIdent?_text h (endsWord_blank cs)]
    rfl
  have htoken : readToken? ('\'' :: (i.text.toList ++ ' ' :: cs))
      = some (.lifetime i, ' ' :: cs) := by
    have hpunct : startsPunct ('\'' :: (i.text.toList ++ ' ' :: cs)) = true := rfl
    rw [readToken?, hliteral]
    simp only [hpunct, if_true, hlifetime]
    rfl
  have hread : readLexeme? ('\'' :: (i.text.toList ++ ' ' :: cs))
      = some ([.token (.lifetime i)], ' ' :: cs) := by
    have hgap : ¬isGap '\'' := by decide
    have hcomment : startsComment ('\'' :: (i.text.toList ++ ' ' :: cs)) = false := rfl
    have hbracket : Delimiter.ofOpening? '\'' = none ∧ Delimiter.ofClosing? '\'' = none := ⟨rfl, rfl⟩
    rw [readLexeme?, if_neg hgap, hcomment, hbracket.left, hbracket.right, htoken]
    rfl
  have hlength : (' ' :: cs).length < ('\'' :: (i.text.toList ++ ' ' :: cs)).length := by
    simp only [List.length_cons, List.length_append]
    omega
  rw [lexemes?_eq hread hlength, lexemes?_blank]
  rfl

theorem textOf_joint (c : Char) (ts : List Token)
    : (Token.textOf (.punct c true :: ts)).toList = c :: (Token.textOf ts).toList := by
  simp [Token.textOf, Token.text]

/-- Behind a token that is not joint stands a blank. -/
theorem textOf_cons {t : Token} (h : t.isJoined []) (ts : List Token)
    : (Token.textOf (t :: ts)).toList = t.text.toList ++ ' ' :: (Token.textOf ts).toList := by
  have htext : Token.textOf (t :: ts) = t.text ++ " " ++ Token.textOf ts := by
    rw [Token.textOf]
    rintro c rfl
    contradiction
  rw [htext]
  simp

theorem exists_joint_of_isJoined {t : Token} {ts : List Token} (h : t.isJoined ts)
    (hjoint : ¬t.isJoined [])
    : ∃ c d joint us, t = .punct c true ∧ ts = .punct d joint :: us := by
  cases t with
  | punct c joint => cases joint with
    | false => exact absurd rfl hjoint
    | true => cases ts with
      | nil => contradiction
      | cons u us => cases u with
        | punct d joint => exact ⟨c, d, joint, us, rfl, rfl⟩
        | _ => contradiction
  | _ => exact absurd rfl hjoint

theorem isPunct_of_mem_typePuncts {c : Char} (hc : c ∈ Token.typePuncts)
    : isPunct c = true ∧ c ≠ '/' ∧ c ≠ '\ufeff' := by
  simp only [Token.typePuncts, List.mem_cons, List.not_mem_nil, or_false] at hc
  rcases hc with rfl | rfl | rfl | rfl | rfl | rfl | rfl | rfl | rfl
  all_goals decide

theorem startsPunct_textOf {c : Char} (hc : c ∈ Token.typePuncts) (joint : Bool) (ts : List Token)
    (cs : List Char)
    : startsPunct ((Token.textOf (.punct c joint :: ts)).toList ++ cs) := by
  rcases isPunct_of_mem_typePuncts hc with ⟨hpunct, hslash, -⟩
  obtain ⟨rest, hrest⟩ : ∃ rest, (Token.textOf (.punct c joint :: ts)).toList ++ cs = c :: rest := by
    cases joint with
    | true => exact ⟨_, by rw [textOf_joint, List.cons_append]⟩
    | false =>
      rw [textOf_cons rfl, Token.text]
      simp
  have hcomment : startsComment (c :: rest) = false := by
    unfold startsComment
    split
    . next heq => exact absurd (List.head_eq_of_cons_eq heq) hslash
    . next heq => exact absurd (List.head_eq_of_cons_eq heq) hslash
    . rfl
  rw [hrest, startsPunct, hcomment]
  simpa using hpunct

mutual

/-- A token with a blank behind it is read as the token. -/
theorem lexemes?_token {t : Token} (h : t.isLegible) (hjoined : t.isJoined []) (cs : List Char)
    : lexemes? (t.text.toList ++ ' ' :: cs) = (lexemes? cs).map (t.lexemes ++ ·) := by
  cases t with
  | ident i =>
    rw [Token.isLegible, decide_eq_true_iff] at h
    rw [Token.text, lexemes?_text h (endsWord_blank cs), lexemes?_blank]
    rfl
  | lifetime i =>
    rw [Token.isLegible, decide_eq_true_iff] at h
    rw [Token.text, String.toList_append]
    exact lexemes?_lifetime h cs
  | punct c joint =>
    rw [Token.isLegible, List.contains_iff_mem] at h
    cases joint with
    | true => contradiction
    | false =>
      have hpunct := lexemes?_punct h (' ' :: cs)
      have hblank : startsPunct (' ' :: cs) = false := rfl
      rw [lexemes?_blank, hblank] at hpunct
      simpa [Token.text, Token.lexemes] using hpunct
  | literal kind text => contradiction
  | group d body =>
    rw [Token.isLegible] at h
    have htext : (Token.group d body).text.toList ++ ' ' :: cs
        = d.opening :: ((Token.textOf body).toList ++ d.closing :: ' ' :: cs) := by
      rw [Token.text]
      simp
    rw [htext, lexemes?_opening, lexemes?_textOf h, lexemes?_closing, lexemes?_blank, Token.lexemes]
    cases lexemes? cs with
    | none => rfl
    | some ls => simp

/-- Tokens are read from their text again. -/
theorem lexemes?_textOf {ts : List Token} (h : areLegible ts) (cs : List Char)
    : lexemes? ((Token.textOf ts).toList ++ cs) = (lexemes? cs).map (lexemesOf ts ++ ·) := by
  cases ts with
  | nil =>
    rw [Token.textOf, lexemesOf]
    cases hcs : lexemes? cs with
    | none => simpa using hcs
    | some ls => simpa using hcs
  | cons t ts =>
    rw [areLegible, Bool.and_eq_true, Bool.and_eq_true] at h
    have hrest := lexemes?_textOf h.right cs
    have hmap : (((lexemes? cs).map (lexemesOf ts ++ ·)).map (t.lexemes ++ ·))
        = (lexemes? cs).map (lexemesOf (t :: ts) ++ ·) := by
      rw [Option.map_map, lexemesOf]
      congr 1
      funext ls
      exact (List.append_assoc _ _ _).symm
    by_cases hjoined : t.isJoined []
    . rw [textOf_cons hjoined, List.append_assoc, List.cons_append, lexemes?_token h.left.left hjoined,
        hrest, hmap]
    . rcases exists_joint_of_isJoined h.left.right hjoined with ⟨c, d, joint, us, rfl, rfl⟩
      have hc := h.left.left
      have hd := h.right
      rw [areLegible, Bool.and_eq_true, Bool.and_eq_true] at hd
      rw [Token.isLegible, List.contains_iff_mem] at hc hd
      rw [textOf_joint, List.cons_append, lexemes?_punct hc, hrest, ← hmap,
        startsPunct_textOf hd.left.left]
      rfl

end

theorem head?_textOf_ne {ts : List Token} (h : areLegible ts)
    : (Token.textOf ts).toList.head? ≠ some '\ufeff' := by
  cases ts with
  | nil =>
    rw [Token.textOf]
    nofun
  | cons t ts =>
    rw [areLegible, Bool.and_eq_true, Bool.and_eq_true] at h
    have hlegible := h.left.left
    cases t with
    | ident i =>
      rw [Token.isLegible, decide_eq_true_iff] at hlegible
      rcases exists_text_eq_cons hlegible with ⟨c, cs, htext, hc⟩
      have hmark : c ≠ '\ufeff' := ne_of_isWordStart hc (by decide)
      rw [textOf_cons rfl, Token.text, htext]
      simpa using hmark
    | lifetime i =>
      rw [textOf_cons rfl, Token.text, String.toList_append]
      simp
    | punct c joint =>
      rw [Token.isLegible, List.contains_iff_mem] at hlegible
      rcases isPunct_of_mem_typePuncts hlegible with ⟨-, -, hmark⟩
      cases joint with
      | true =>
        rw [textOf_joint]
        simpa using hmark
      | false =>
        rw [textOf_cons rfl, Token.text]
        simpa using hmark
    | literal kind text => contradiction
    | group d body =>
      rw [textOf_cons rfl, Token.text]
      cases d with
      | _ => simp [Delimiter.opening]

theorem tokens?_textOf {ts : List Token} (h : areLegible ts) : tokens? (Token.textOf ts) = some ts := by
  have hread := lexemes?_textOf h []
  have hnil : lexemes? [] = some [] := by
    rw [lexemes?]
    rfl
  have hnest := nest?_lexemesOf [] [] [] ts
  rw [List.append_nil, hnil] at hread
  rw [tokens?_eq (head?_textOf_ne h), hread]
  simpa [nest?] using hnest

/-- A simple type is read from the text of its tokens again. -/
theorem Ty.ofText?_textOf {t : Ty} (h : t.isSimple true) (htokens : areLegible t.tokens)
    : Ty.ofText? (Token.textOf t.tokens) = some t := by
  have hread := (Ty.readsBack_of_isSimple h).readTy (rfl : endsTy [])
  rw [List.append_nil] at hread
  rw [Ty.ofText?, tokens?_textOf htokens]
  simp only [Option.bind_eq_bind, Option.bind_some, hread]

end LazyProxy.Code
