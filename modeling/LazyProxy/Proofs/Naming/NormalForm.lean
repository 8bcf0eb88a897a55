import LazyProxy.Proofs.Naming.Fusion

/-!
This module contains that snake case is a normal form of identifiers: it consists of words of small
letters or of digits, which stay as they are when they are cut again.
-/

namespace LazyProxy

open Text

namespace SnakeCase

/-- A word as snake case writes it, which may be empty. -/
def IsSnakeWord (w : List Char) : Prop :=
  (∀ c ∈ w, c.isLower) ∨ ∀ c ∈ w, c.isDigit

theorem isSnakeWord_nil : IsSnakeWord [] :=
  Or.inl (List.forall_mem_nil _)

/-- A letter or digit in lower case. -/
def IsSnakePart (c : Char) : Prop :=
  c.isLower ∨ c.isDigit

theorem IsSnakeWord.isSnakePart {w : List Char} (h : IsSnakeWord w) : ∀ c ∈ w, IsSnakePart c := by
  intro c hc
  cases h with
  | inl h => exact Or.inl (h c hc)
  | inr h => exact Or.inr (h c hc)

section Characters

variable {c d : Char}

theorem isUpper_eq_false_of_isDigit (h : c.isDigit) : c.isUpper = false := by
  have hzero : '0'.toNat = 48 := rfl
  have hnine : '9'.toNat = 57 := rfl
  rw [Char.isDigit_iff_toNat] at h
  rw [Bool.eq_false_iff, Ne, isUpper_iff_toNat]
  omega

theorem isLower_eq_false_of_isDigit (h : c.isDigit) : c.isLower = false := by
  have hzero : '0'.toNat = 48 := rfl
  have hnine : '9'.toNat = 57 := rfl
  rw [Char.isDigit_iff_toNat] at h
  rw [Bool.eq_false_iff, Ne, isLower_iff_toNat]
  omega

theorem toLower_of_isSnakePart (h : IsSnakePart c) : c.toLower = c := by
  cases h with
  | inl h => exact toLower_of_not_isUpper (not_isUpper_of_isLower h)
  | inr h => exact toLower_of_not_isUpper (by simp [isUpper_eq_false_of_isDigit h])

theorem isAlphanum_of_isSnakePart (h : IsSnakePart c) : c.isAlphanum := by
  cases h with
  | inl h => exact isAlphanum_of_isLower h
  | inr h => simp [Char.isAlphanum, h]

/-- Letters become small letters, and digits stay digits. -/
theorem isLower_or_isDigit_toLower (h : c.isAlphanum)
    : c.toLower.isLower ∧ c.isDigit = false ∨ c.toLower.isDigit ∧ c.isDigit := by
  unfold Char.isAlphanum Char.isAlpha at h
  simp only [Bool.or_eq_true] at h
  rcases h with (h | h) | h
  . exact Or.inl ⟨isLower_toLower_of_isUpper h, isDigit_eq_false_of_isAlpha (isAlpha_of_isUpper h)⟩
  . have hlower := toLower_of_isSnakePart (Or.inl h)
    exact Or.inl ⟨by rwa [hlower], isDigit_eq_false_of_isAlpha (isAlpha_of_isLower h)⟩
  . have hlower := toLower_of_isSnakePart (Or.inr h)
    exact Or.inr ⟨by rwa [hlower], h⟩

/-- Letters and digits do not meet within a word. -/
theorem isDigit_eq_of_not_endsWord (hc : c.isAlphanum) (hd : d.isAlphanum) {cs : List Char}
    (h : endsWord [c] ((d :: cs).map ([·])) = false)
    : c.isDigit = d.isDigit := by
  have hc' := toNat_lt_of_isAlphanum hc
  have hd' := toNat_lt_of_isAlphanum hd
  simp only [endsWord, List.map_cons, isDigit, isUpper_singleton hc', isUpper_singleton hd',
    isLower_singleton hc', isLower_singleton hd', Bool.or_eq_false_iff] at h
  unfold Char.isAlphanum Char.isAlpha at hc hd
  simp only [Bool.or_eq_true] at hc hd
  rw [Bool.eq_iff_iff]
  constructor
  . intro hdigit
    simp_all
  . intro hdigit
    simp_all

/-- Within a word of one kind no further word ends, nor in front of an underscore. -/
theorem endsWord_eq_false_of_isSnakeWord {w : List Char} (h : IsSnakeWord (c :: w)) {cs : List Char}
    (hcs : ∀ d ∈ cs.head?, d = '_')
    : endsWord [c] ((w ++ cs).map ([·])) = false := by
  have hunderscore : ∀ rest : List Char, endsWord [c] (('_' :: rest).map ([·])) = false := by
    intro rest
    have hupper : isUpper ['_'] = false := by decide
    have hlower : isLower ['_'] = false := by decide
    have hdigit : isDigit ['_'] = false := by decide
    simp [endsWord, hupper, hlower, hdigit]
  cases w with
  | nil =>
    cases cs with
    | nil => rfl
    | cons d cs =>
      rw [hcs d rfl]
      exact hunderscore cs
  | cons d w =>
    cases h with
    | inl h =>
      rw [List.forall_mem_cons, List.forall_mem_cons] at h
      exact endsWord_of_isLower (w ++ cs) (isAlpha_of_isLower h.left) h.right.left
    | inr h =>
      rw [List.forall_mem_cons, List.forall_mem_cons] at h
      have hc' := toNat_lt_of_isAlphanum (isAlphanum_of_isSnakePart (Or.inr h.left))
      have hd' := toNat_lt_of_isAlphanum (isAlphanum_of_isSnakePart (Or.inr h.right.left))
      simp [endsWord, isDigit, isUpper_singleton hc', isUpper_singleton hd', isLower_singleton hc',
        isLower_singleton hd', isUpper_eq_false_of_isDigit h.left,
        isLower_eq_false_of_isDigit h.left, isUpper_eq_false_of_isDigit h.right.left,
        isLower_eq_false_of_isDigit h.right.left]

end Characters

theorem lowerWords_underscore (cs : List Char) : lowerWords ('_' :: cs) = [] :: lowerWords cs :=
  rfl

theorem exists_lowerWords_cons {c : Char} (cs : List Char) (hc : c.isAlphanum)
    : ∃ w ws, lowerWords (c :: cs) = (c.toLower :: w) :: ws := by
  rcases exists_words_cons (cs.map ([·])) (isSeparator_singleton_of_isAlphanum hc) with ⟨w, ws, h⟩
  exact ⟨_, _, by rw [lowerWords, List.map_cons, h]; rfl⟩

theorem isSnakeWord_singleton {c : Char} (hc : c.isAlphanum) : IsSnakeWord [c.toLower] := by
  rcases isLower_or_isDigit_toLower hc with ⟨hlower, -⟩ | ⟨hdigit, -⟩
  . exact Or.inl (List.forall_mem_singleton.mpr hlower)
  . exact Or.inr (List.forall_mem_singleton.mpr hdigit)

/-- A word goes on with what it starts with. -/
theorem IsSnakeWord.cons {c d : Char} {w : List Char} (hc : c.isAlphanum) (hd : d.isAlphanum)
    (h : IsSnakeWord (d.toLower :: w)) (hsame : c.isDigit = d.isDigit)
    : IsSnakeWord (c.toLower :: d.toLower :: w) := by
  rcases isLower_or_isDigit_toLower hd with ⟨hdlower, hdletter⟩ | ⟨hddigit, hdigit⟩
  . have hw := h.resolve_right fun hw => by
      rw [isLower_eq_false_of_isDigit (hw _ List.mem_cons_self)] at hdlower
      contradiction
    have hclower := (isLower_or_isDigit_toLower hc).resolve_right fun hcdigit => by
      rw [hsame, hdletter] at hcdigit
      exact absurd hcdigit.right (by decide)
    exact Or.inl (List.forall_mem_cons.mpr ⟨hclower.left, hw⟩)
  . have hw := h.resolve_left fun hw => by
      have hdlower := hw _ List.mem_cons_self
      rw [isLower_eq_false_of_isDigit hddigit] at hdlower
      contradiction
    have hcdigit := (isLower_or_isDigit_toLower hc).resolve_left fun hcletter => by
      rw [hsame, hdigit] at hcletter
      exact absurd hcletter.right (by decide)
    exact Or.inr (List.forall_mem_cons.mpr ⟨hcdigit.left, hw⟩)

theorem isSnakeWord_of_mem_lowerWords {cs : List Char} (h : ∀ c ∈ cs, isIdentifierPart c)
    : ∀ w ∈ lowerWords cs, IsSnakeWord w := by
  induction cs with
  | nil => exact List.forall_mem_singleton.mpr isSnakeWord_nil
  | cons c cs ih =>
    rw [List.forall_mem_cons] at h
    specialize ih h.right
    by_cases hc : c.isAlphanum
    . cases hends : endsWord [c] (cs.map ([·])) with
      | true =>
        rw [lowerWords_cons_of_endsWord hc hends, List.forall_mem_cons]
        exact ⟨isSnakeWord_singleton hc, ih⟩
      | false =>
        rw [lowerWords_cons_of_not_endsWord hc hends]
        cases cs with
        | nil => exact List.forall_mem_singleton.mpr (isSnakeWord_singleton hc)
        | cons d cs =>
          by_cases hd : d.isAlphanum
          . rcases exists_lowerWords_cons cs hd with ⟨w, ws, hwords⟩
            rw [hwords, List.forall_mem_cons] at ih
            rw [hwords, List.modifyHead_cons, List.forall_mem_cons]
            exact ⟨ih.left.cons hc hd (isDigit_eq_of_not_endsWord hc hd hends), ih.right⟩
          . -- An underscore ends the word.
            have hd : d = '_' := by simpa [isIdentifierPart, hd] using h.right d
            subst hd
            rw [lowerWords_underscore, List.forall_mem_cons] at ih
            rw [lowerWords_underscore, List.modifyHead_cons, List.forall_mem_cons]
            exact ⟨isSnakeWord_singleton hc, ih.right⟩
    . have hc : c = '_' := by simpa [isIdentifierPart, hc] using h.left
      subst hc
      rw [lowerWords_underscore, List.forall_mem_cons]
      exact ⟨isSnakeWord_nil, ih⟩

/-- A word of snake case goes on to the next underscore. -/
theorem lowerWords_append_of_isSnakeWord {w cs : List Char} (h : IsSnakeWord w)
    (hcs : ∀ c ∈ cs.head?, c = '_')
    : lowerWords (w ++ cs) = (lowerWords cs).modifyHead (w ++ ·) := by
  induction w with
  | nil =>
    rw [List.nil_append]
    cases lowerWords cs with
    | nil => rfl
    | cons v vs => rfl
  | cons c w ih =>
    have hc := h.isSnakePart c List.mem_cons_self
    have hw : IsSnakeWord w :=
      h.imp (fun h => (List.forall_mem_cons.mp h).right) fun h => (List.forall_mem_cons.mp h).right
    rw [List.cons_append, lowerWords_cons_of_not_endsWord (isAlphanum_of_isSnakePart hc)
      (endsWord_eq_false_of_isSnakeWord h hcs), ih hw, toLower_of_isSnakePart hc]
    cases lowerWords cs with
    | nil => rfl
    | cons v vs => rfl

/-- Words of snake case are found again between the underscores. -/
theorem lowerWords_intercalate {ws : List (List Char)} (hne : ws ≠ []) (h : ∀ w ∈ ws, IsSnakeWord w)
    : lowerWords (List.intercalate ['_'] ws) = ws := by
  induction ws with
  | nil => contradiction
  | cons w ws ih =>
    rw [List.forall_mem_cons] at h
    cases ws with
    | nil =>
      have hword : lowerWords (w ++ []) = (lowerWords []).modifyHead (w ++ ·) :=
        lowerWords_append_of_isSnakeWord h.left nofun
      rw [List.append_nil] at hword
      rw [List.intercalate_singleton, hword]
      exact congrArg (fun w => [w]) (List.append_nil w)
    | cons v vs =>
      rw [List.intercalate_cons_cons, List.append_assoc, List.singleton_append,
        lowerWords_append_of_isSnakeWord h.left (by simp), lowerWords_underscore,
        ih (List.cons_ne_nil v vs) h.right, List.modifyHead_cons, List.append_nil]

theorem lowerWords_ne_nil (cs : List Char) : lowerWords cs ≠ [] := by
  rw [lowerWords, Ne, List.map_eq_nil_iff]
  exact words_ne_nil _

theorem isSnakePart_of_mem_chars {cs : List Char} (h : ∀ c ∈ cs, isIdentifierPart c)
    : ∀ c ∈ chars cs, IsSnakePart c ∨ c = '_' := by
  intro c hc
  by_cases hunderscore : c = '_'
  . exact Or.inr hunderscore
  . rw [chars_eq_intercalate (isAscii_of_isIdentifierPart h)] at hc
    have hfilter : c ∈ (List.intercalate ['_'] (lowerWords cs)).filter (· != '_') := by
      simp [hc, hunderscore]
    rw [filter_intercalate, List.mem_filter, List.mem_flatten] at hfilter
    rcases hfilter with ⟨⟨w, hw, hcw⟩, -⟩
    exact Or.inl ((isSnakeWord_of_mem_lowerWords h w hw).isSnakePart c hcw)

theorem chars_chars {cs : List Char} (h : ∀ c ∈ cs, isIdentifierPart c)
    : chars (chars cs) = chars cs := by
  have hascii : IsAscii (chars cs) := by
    intro c hc
    rcases isSnakePart_of_mem_chars h c hc with hc | rfl
    . exact toNat_lt_of_isAlphanum (isAlphanum_of_isSnakePart hc)
    . decide
  rw [chars_eq_intercalate hascii, chars_eq_intercalate (isAscii_of_isIdentifierPart h),
    lowerWords_intercalate (lowerWords_ne_nil cs) (isSnakeWord_of_mem_lowerWords h)]

end SnakeCase

theorem isDigit_eq_false_of_isIdentifierStart {c : Char} (h : isIdentifierStart c)
    : c.isDigit = false := by
  rw [isIdentifierStart, Bool.or_eq_true, beq_iff_eq] at h
  rcases h with h | rfl
  . exact isDigit_eq_false_of_isAlpha h
  . rfl

/-- The snake case of an identifier is an identifier of small letters, digits and underscores. It has
the letters and digits of the identifier in their order, and it is its own snake case. -/
theorem snakeCase_normalizes (name : String) (h : isIdentifier name)
    : snakeCase name ≠ ""
        ∧
      (∀ c ∈ (snakeCase name).toList, c.isLower ∨ c.isDigit ∨ c = '_')
        ∧
      (∀ c, (snakeCase name).toList.head? = some c → c.isDigit = false)
        ∧
      withoutUnderscores (snakeCase name) = foldCase (withoutUnderscores name)
        ∧
      snakeCase (snakeCase name) = snakeCase name := by
  have hparts := isIdentifierPart_of_mem h
  have hsnake := isIdentifier_snakeCase h
  refine ⟨ne_empty_of_isIdentifier hsnake, ?_, ?_, withoutUnderscores_snakeCase hparts, ?_⟩
  . intro c hc
    rw [snakeCase, String.toList_ofList] at hc
    rw [← or_assoc]
    exact SnakeCase.isSnakePart_of_mem_chars hparts c hc
  . intro c hc
    rcases (isIdentifier_iff.mp hsnake).left with ⟨d, hd, hstart⟩
    rw [hd, Option.some.injEq] at hc
    rw [← hc]
    exact isDigit_eq_false_of_isIdentifierStart hstart
  . rw [snakeCase, snakeCase, String.toList_ofList, SnakeCase.chars_chars hparts]

/-- Words end at capitals, digits and underscores, of which those that follow each other stay. -/
theorem snakeCase_normalizes_utf8
    : isIdentifier "_UTF8Text__v2"
        ∧
      snakeCase "_UTF8Text__v2" = "_utf_8_text__v_2"
        ∧
      withoutUnderscores "_utf_8_text__v_2" = foldCase "UTF8Textv2"
        ∧
      snakeCase "_utf_8_text__v_2" = "_utf_8_text__v_2" := by
  have hidentifier : isIdentifier "_UTF8Text__v2" := by decide
  have hsnake : snakeCase "_UTF8Text__v2" = "_utf_8_text__v_2" := by decide
  have hwithout : withoutUnderscores "_UTF8Text__v2" = "UTF8Textv2" := by decide
  rcases snakeCase_normalizes _ hidentifier with ⟨-, -, -, hletters, hagain⟩
  rw [hsnake] at hletters hagain
  exact ⟨hidentifier, hsnake, hwithout ▸ hletters, hagain⟩

end LazyProxy
