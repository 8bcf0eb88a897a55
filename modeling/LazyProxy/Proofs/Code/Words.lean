import LazyProxy.Code.Lexer
import LazyProxy.Proofs.Target.Constructors

/-!
This module contains how words are read from text: whatever follows a word, it is one token as long as
nothing continues it.
-/

namespace LazyProxy.Code

open Text

namespace Ident

/-- An identifier that can be written: a word, in the raw form only if it has one. -/
structure IsWritten (i : Ident) : Prop where
  isWord : isWord i.name
  hasRawForm : i.raw → i.name ∉ withoutRawForm

theorem isWritten_of_isIdentifier {name : String} (h : isIdentifier name)
    : IsWritten ⟨name, false⟩ where
  isWord := isWord_of_isIdentifier h
  hasRawForm := by simp

/-- A word by its first character and the others. -/
theorem exists_of_isWord {name : String} (h : isWord name)
    : ∃ c cs, name.toList = c :: cs ∧ isWordStart c ∧ ∀ d ∈ cs, isWordPart d := by
  unfold isWord at h
  split at h
  . contradiction
  . next c cs hname => exact ⟨c, cs, hname, by simpa using h⟩

end Ident

/-- Whether no word and no quoted literal goes on here. -/
def endsWord (cs : List Char) : Bool :=
  cs.head?.all fun c => !isWordPart c && !(['"', '\'', '#'].contains c)

theorem not_isWordStart_of_toNat_mem {codes : List Nat} {c : Char} (h : c.toNat ∈ codes)
    (hcodes : codes.all fun n => !isWordStart (Char.ofNat n))
    : ¬isWordStart c := by
  have hc := List.all_eq_true.mp hcodes _ h
  rw [Char.ofNat_toNat] at hc
  simpa using hc

theorem not_isGap_of_isWordStart {c : Char} (h : isWordStart c) : ¬isGap c := by
  intro hgap
  have hmem : c.toNat ∈ List.range' 9 5 ++ [0x20, 0x85, 0xA0, 0x1680] ++ List.range' 0x2000 11
      ++ [0x2028, 0x2029, 0x202F, 0x205F, 0x3000, 0x200E, 0x200F] := by
    simp only [isGap, isBlank, Bool.or_eq_true, Bool.and_eq_true, decide_eq_true_eq,
      beq_iff_eq] at hgap
    simp only [List.mem_append, List.mem_range'_1, List.mem_cons, List.not_mem_nil, or_false]
    omega
  exact not_isWordStart_of_toNat_mem hmem (by decide +kernel) h

theorem not_isDigit_of_isWordStart {c : Char} (h : isWordStart c) : ¬c.isDigit := by
  intro hdigit
  have hmem : c.toNat ∈ List.range' 48 10 := by
    rw [Char.isDigit, Bool.and_eq_true, decide_eq_true_iff, decide_eq_true_iff] at hdigit
    simp only [ge_iff_le, UInt32.le_iff_toNat_le] at hdigit
    rw [List.mem_range'_1]
    exact ⟨hdigit.left, Nat.lt_succ_of_le hdigit.right⟩
  exact not_isWordStart_of_toNat_mem hmem (by decide +kernel) h

/-- Characters that start no word, among them all that a token may be made of. -/
def marks : List Char :=
  "~!@#$%^&*-=+|;:,<.>/?'\"()[]\x7b\x7d0\ufeff".toList

theorem isWordStart_of_mem_marks : ∀ d ∈ marks, isWordStart d = false := by
  have hall : marks.all (!isWordStart ·) := by decide +kernel
  simpa using hall

theorem ne_of_isWordStart {c d : Char} (h : isWordStart c) (hd : d ∈ marks) : c ≠ d := by
  rintro rfl
  rw [isWordStart_of_mem_marks c hd] at h
  contradiction

variable {cs rest : List Char} {i : Ident}

theorem dropWhile_isWordPart (hcs : ∀ c ∈ cs, isWordPart c) (hrest : endsWord rest)
    : (cs ++ rest).dropWhile isWordPart = rest := by
  rw [List.dropWhile_append_of_pos hcs]
  cases rest with
  | nil => rfl
  | cons c rest =>
    have hc : isWordPart c = false := by
      simp only [endsWord, List.head?_cons, Option.all_some, Bool.and_eq_true] at hrest
      simpa using hrest.left
    rw [List.dropWhile_cons, hc]
    rfl

theorem dropWord?_append {name : String} (h : Ident.isWord name) (hrest : endsWord rest)
    : dropWord? (name.toList ++ rest) = some rest := by
  rcases Ident.exists_of_isWord h with ⟨c, cs, hname, hc, hcs⟩
  rw [hname, List.cons_append, dropWord?, if_pos hc, dropWhile_isWordPart hcs hrest]

/-- What follows the first character of a word opens no literal. -/
theorem not_mem_of_head? {c : Char} (hcs : ∀ c ∈ cs, isWordPart c) (hrest : endsWord rest)
    (h : (cs ++ rest).head? = some c)
    : c ∉ ['"', '\'', '#'] := by
  cases cs with
  | nil =>
    rw [List.nil_append] at h
    simp only [endsWord, h, Option.all_some, Bool.and_eq_true] at hrest
    simpa using hrest.right
  | cons d cs =>
    rw [List.cons_append, List.head?_cons, Option.some.injEq] at h
    subst h
    have hall : ['"', '\'', '#'].all (!isWordPart ·) := by decide
    intro hmem
    have hpart := List.all_eq_true.mp hall d hmem
    rw [hcs d (by simp)] at hpart
    contradiction

theorem take_append_sub (cs rest : List Char)
    : (cs ++ rest).take ((cs ++ rest).length - rest.length) = cs := by
  rw [List.length_append, Nat.add_sub_cancel, List.take_left']
  rfl

theorem readIdent?_text (h : i.IsWritten) (hrest : endsWord rest)
    : readIdent? (i.text.toList ++ rest) = some (i, rest) := by
  have hdrop := dropWord?_append h.isWord hrest
  rcases i with ⟨name, _ | _⟩
  . have htext : (Ident.text ⟨name, false⟩) = name := rfl
    rw [htext]
    unfold readIdent?
    split
    . next r hname =>
      -- A number sign follows no first letter of a word.
      rcases Ident.exists_of_isWord h.isWord with ⟨c, cs, hcs, -, hparts⟩
      rw [hcs, List.cons_append, List.cons.injEq] at hname
      have hhead : (cs ++ rest).head? = some '#' := by rw [hname.right]; rfl
      exact absurd (not_mem_of_head? hparts hrest hhead) (by decide)
    . rw [hdrop, Option.bind_eq_bind, Option.bind_some, take_append_sub, String.ofList_toList]
  . have htext : (Ident.text ⟨name, true⟩).toList = 'r' :: '#' :: name.toList := by
      rw [Ident.text, if_pos rfl, String.toList_append]
      rfl
    have hraw : (["_", "super", "self", "Self", "crate"] : List String).contains name = false := by
      have hname := h.hasRawForm rfl
      simpa [Ident.withoutRawForm] using hname
    rw [htext, List.cons_append, List.cons_append, readIdent?]
    rw [hdrop, Option.bind_eq_bind, Option.bind_some, take_append_sub, String.ofList_toList]
    simp only [hraw]
    rfl

theorem readHashed_eq_none {k : QuotedKind} (hashes : Nat)
    (h : ∀ c, cs.head? = some c → c ∉ ['"', '\'', '#'])
    : readHashed k (List.replicate hashes '#' ++ cs) = none := by
  have hcs : cs.takeWhile (· == '#') = [] := by
    cases cs with
    | nil => rfl
    | cons c cs =>
      have hc := h c rfl
      simp only [List.mem_cons, List.not_mem_nil, or_false, not_or] at hc
      rw [List.takeWhile_cons_of_neg]
      simpa using hc.right.right
  have htake : (List.replicate hashes '#' ++ cs).takeWhile (· == '#')
      = List.replicate hashes '#' := by
    rw [List.takeWhile_append_of_pos (by simp), hcs, List.append_nil]
  have hdrop : (List.replicate hashes '#' ++ cs).drop hashes = cs := List.drop_left' (by simp)
  unfold readHashed
  simp only [htake, List.length_replicate, hdrop]
  split
  . exact absurd (h '"' rfl) (by decide)
  . rfl

theorem dropDigits?_eq_none {c : Char} (h : isWordStart c) : dropDigits? 10 true (c :: cs) = none := by
  unfold dropDigits?
  split
  . rfl
  . split
    . next v hv =>
      have hdigit := not_isDigit_of_isWordStart h
      unfold digitValue? at hv
      rw [if_neg hdigit] at hv
      have hlarge : ¬v < 10 := by
        split at hv
        . cases hv
          omega
        . split at hv
          . cases hv
            omega
          . contradiction
      rw [if_neg hlarge, Bool.or_true, if_pos rfl]
    . rfl

theorem dropDecimal?_eq_none {c : Char} (h : isWordStart c) : dropDecimal? (c :: cs) = none := by
  have hdigit := not_isDigit_of_isWordStart h
  rw [dropDecimal?, if_pos (by simpa using hdigit)]

theorem dropInteger?_eq_none {c : Char} (h : isWordStart c) : dropInteger? (c :: cs) = none := by
  have hzero : c ≠ '0' := ne_of_isWordStart h (by decide)
  unfold dropInteger?
  split
  . next hcs => exact absurd (List.head_eq_of_cons_eq hcs) hzero
  . next hcs => exact absurd (List.head_eq_of_cons_eq hcs) hzero
  . next hcs => exact absurd (List.head_eq_of_cons_eq hcs) hzero
  . rw [dropDigits?_eq_none h]
    rfl

/-- A part of a word that comes first is followed by another part of it. -/
theorem exists_of_append_eq_cons {c : Char} {r : List Char} (hcs : ∀ c ∈ cs, isWordPart c)
    (hrest : endsWord rest) (hc : isWordPart c) (h : cs ++ rest = c :: r)
    : ∃ ds, (∀ d ∈ ds, isWordPart d) ∧ r = ds ++ rest := by
  cases cs with
  | nil =>
    rw [List.nil_append] at h
    rw [h] at hrest
    simp [endsWord, hc] at hrest
  | cons d cs =>
    rw [List.cons_append, List.cons.injEq] at h
    exact ⟨cs, fun e he => hcs e (by simp [he]), h.right.symm⟩

/-- No literal starts like a word. -/
theorem dropLiteral?_word {c : Char} (hc : isWordStart c) (hcs : ∀ c ∈ cs, isWordPart c)
    (hrest : endsWord rest)
    : dropLiteral? (c :: (cs ++ rest)) = none := by
  have hquote : ∀ d, (cs ++ rest).head? = some d → d ∉ ['"', '\'', '#'] :=
    fun d => not_mem_of_head? hcs hrest
  have hraw : ∀ {k r}, cs ++ rest = 'r' :: r → readHashed k r = none := by
    intro k r hr
    rcases exists_of_append_eq_cons hcs hrest (by decide) hr with ⟨ds, hds, rfl⟩
    exact readHashed_eq_none 0 fun d => not_mem_of_head? hds hrest
  unfold dropLiteral?
  dsimp only
  split
  . next h => exact absurd (List.head_eq_of_cons_eq h) (ne_of_isWordStart hc (by decide))
  . next r h =>
    rw [List.cons.injEq] at h
    have hread := readHashed_eq_none (k := .text) 0 (h.right ▸ hquote)
    rw [List.replicate_zero, List.nil_append] at hread
    rw [hread]
    rfl
  . next r h =>
    rw [List.cons.injEq] at h
    exact absurd (hquote '"' (by rw [h.right]; rfl)) (by decide)
  . next r h =>
    rw [List.cons.injEq] at h
    rw [hraw h.right]
    rfl
  . next r h =>
    rw [List.cons.injEq] at h
    exact absurd (hquote '"' (by rw [h.right]; rfl)) (by decide)
  . next r h =>
    rw [List.cons.injEq] at h
    rw [hraw h.right]
    rfl
  . next r h =>
    rw [List.cons.injEq] at h
    exact absurd (hquote '\'' (by rw [h.right]; rfl)) (by decide)
  . next h => exact absurd (List.head_eq_of_cons_eq h) (ne_of_isWordStart hc (by decide))
  . rw [dropFloat?, dropDecimal?_eq_none hc, dropInteger?_eq_none hc]
    rfl

theorem dropLiteral?_text (h : i.IsWritten) (hrest : endsWord rest)
    : dropLiteral? (i.text.toList ++ rest) = none := by
  rcases Ident.exists_of_isWord h.isWord with ⟨c, cs, hname, hc, hcs⟩
  rcases i with ⟨name, _ | _⟩
  . have htext : (Ident.text ⟨name, false⟩).toList = c :: cs := hname
    rw [htext, List.cons_append]
    exact dropLiteral?_word hc hcs hrest
  . have htext : (Ident.text ⟨name, true⟩).toList = 'r' :: '#' :: c :: cs := by
      rw [Ident.text, if_pos rfl, String.toList_append, hname]
      rfl
    have hhead : ∀ d, (c :: (cs ++ rest)).head? = some d → d ∉ ['"', '\'', '#'] := by
      intro d hd
      rw [List.head?_cons, Option.some.injEq] at hd
      subst hd
      simp only [List.mem_cons, List.not_mem_nil, or_false, not_or]
      exact ⟨ne_of_isWordStart hc (by decide), ne_of_isWordStart hc (by decide),
        ne_of_isWordStart hc (by decide)⟩
    have hread : readHashed .text ('#' :: c :: (cs ++ rest)) = none :=
      readHashed_eq_none 1 hhead
    rw [htext, List.cons_append, List.cons_append, List.cons_append]
    change (readHashed .text ('#' :: c :: (cs ++ rest))).map
      (fun v => (LiteralKind.string, dropSuffix v.2)) = none
    rw [hread]
    rfl

/-- The text of a word by its first character. A raw one goes on with a number sign and a word. -/
theorem exists_text_eq_cons (h : i.IsWritten)
    : ∃ c cs, i.text.toList = c :: cs ∧ isWordStart c := by
  rcases Ident.exists_of_isWord h.isWord with ⟨c, cs, hname, hc, -⟩
  rcases i with ⟨name, _ | _⟩
  . exact ⟨c, cs, hname, hc⟩
  . refine ⟨'r', '#' :: c :: cs, ?_, by decide⟩
    rw [Ident.text, if_pos rfl, String.toList_append, hname]
    rfl

theorem not_isPrefixOf_text (h : i.IsWritten) (hrest : endsWord rest)
    : (quotedStarts.any fun s => s.toList.isPrefixOf (i.text.toList ++ rest)) = false := by
  rw [List.any_eq_false]
  intro s hs hprefix
  rw [List.isPrefixOf_iff_prefix] at hprefix
  rcases hprefix with ⟨t, ht⟩
  rcases Ident.exists_of_isWord h.isWord with ⟨c, cs, hname, hc, hcs⟩
  rcases i with ⟨name, _ | _⟩
  . have htext : (Ident.text ⟨name, false⟩).toList = c :: cs := hname
    rw [htext, List.cons_append] at ht
    have hquote : ∀ d, (cs ++ rest).head? = some d → d ∉ ['"', '\'', '#'] :=
      fun d => not_mem_of_head? hcs hrest
    have hraw : ∀ d r, cs ++ rest = 'r' :: d :: r → d ∉ ['"', '\'', '#'] := by
      intro d r hr
      rcases exists_of_append_eq_cons hcs hrest (by decide) hr with ⟨ds, hds, hdr⟩
      exact not_mem_of_head? hds hrest (by rw [← hdr]; rfl)
    simp only [quotedStarts, List.mem_cons, List.not_mem_nil, or_false] at hs
    rcases hs with rfl | rfl | rfl | rfl | rfl | rfl | rfl | rfl | rfl | rfl
    all_goals
      have htail := List.tail_eq_of_cons_eq ht
      first
        | exact absurd (hquote _ (by rw [← htail]; rfl)) (by decide)
        | exact absurd (hraw _ _ htail.symm) (by decide)
  . have htext : (Ident.text ⟨name, true⟩).toList = 'r' :: '#' :: c :: cs := by
      rw [Ident.text, if_pos rfl, String.toList_append, hname]
      rfl
    have hdouble : '"' ≠ c := (ne_of_isWordStart hc (by decide)).symm
    have hnumber : '#' ≠ c := (ne_of_isWordStart hc (by decide)).symm
    rw [htext] at ht
    simp only [quotedStarts, List.mem_cons, List.not_mem_nil, or_false] at hs
    rcases hs with rfl | rfl | rfl | rfl | rfl | rfl | rfl | rfl | rfl | rfl
    all_goals simp [hdouble, hnumber] at ht

theorem startsPunct_eq_false {c : Char} (hc : isWordStart c) (cs : List Char)
    : startsPunct (c :: cs) = false := by
  have hpuncts : "~!@#$%^&*-=+|;:,<.>/?'".toList ⊆ marks := by decide
  have hpunct : isPunct c = false := by
    rw [Bool.eq_false_iff]
    intro hmem
    rw [isPunct, List.contains_iff_mem] at hmem
    exact ne_of_isWordStart hc (hpuncts hmem) rfl
  rw [startsPunct, List.head?_cons, Option.map_some, Option.getD_some, hpunct, Bool.and_false]

theorem readToken?_text (h : i.IsWritten) (hrest : endsWord rest)
    : readToken? (i.text.toList ++ rest) = some (.ident i, rest) := by
  rcases exists_text_eq_cons h with ⟨c, cs, htext, hc⟩
  have hpunct : startsPunct (i.text.toList ++ rest) = false := by
    rw [htext]
    exact startsPunct_eq_false hc _
  unfold readToken?
  rw [dropLiteral?_text h hrest]
  simp only [hpunct, not_isPrefixOf_text h hrest, readIdent?_text h hrest]
  rfl

theorem lexemes?_eq {ls : List Lexeme} (h : readLexeme? cs = some (ls, rest))
    (hlength : rest.length < cs.length)
    : lexemes? cs = (lexemes? rest).map (ls ++ ·) := by
  have hne : cs.isEmpty = false := by
    cases cs with
    | nil => contradiction
    | cons c cs => rfl
  rw [lexemes?, hne, h]
  simp [hlength]

theorem ofOpening?_eq_none {c : Char} (h : isWordStart c) : Delimiter.ofOpening? c = none := by
  rw [Delimiter.ofOpening?, List.find?_eq_none]
  intro d hd
  rw [beq_iff_eq]
  apply Ne.symm
  cases d with
  | paren => exact ne_of_isWordStart h (by decide)
  | bracket => exact ne_of_isWordStart h (by decide)
  | brace => exact ne_of_isWordStart h (by decide)

theorem ofClosing?_eq_none {c : Char} (h : isWordStart c) : Delimiter.ofClosing? c = none := by
  rw [Delimiter.ofClosing?, List.find?_eq_none]
  intro d hd
  rw [beq_iff_eq]
  apply Ne.symm
  cases d with
  | paren => exact ne_of_isWordStart h (by decide)
  | bracket => exact ne_of_isWordStart h (by decide)
  | brace => exact ne_of_isWordStart h (by decide)

theorem lexemes?_text (h : i.IsWritten) (hrest : endsWord rest)
    : lexemes? (i.text.toList ++ rest) = (lexemes? rest).map (.token (.ident i) :: ·) := by
  rcases exists_text_eq_cons h with ⟨c, cs, htext, hc⟩
  have hread : readLexeme? (i.text.toList ++ rest) = some ([.token (.ident i)], rest) := by
    have htoken := readToken?_text h hrest
    have hslash : c ≠ '/' := ne_of_isWordStart hc (by decide)
    have hcomment : startsComment (i.text.toList ++ rest) = false := by
      rw [htext, List.cons_append]
      unfold startsComment
      split
      . next hcs => exact absurd (List.head_eq_of_cons_eq hcs) hslash
      . next hcs => exact absurd (List.head_eq_of_cons_eq hcs) hslash
      . rfl
    rw [htext, List.cons_append] at htoken hcomment ⊢
    rw [readLexeme?, if_neg (not_isGap_of_isWordStart hc), hcomment, ofOpening?_eq_none hc,
      ofClosing?_eq_none hc, htoken]
    rfl
  refine lexemes?_eq hread ?_
  rw [htext, List.length_append, List.length_cons]
  omega

end LazyProxy.Code
