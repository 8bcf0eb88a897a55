import LazyProxy.Proofs.Naming.Words
import Mathlib.Data.List.Chain

/-!
This module contains what becomes of the words of a property's name when its accessor is written in snake
case: they stay as they are, but single letters that follow each other become one word.
-/

namespace LazyProxy

open Text

theorem isUpper_toUpper_of_isLower {c : Char} (h : c.isLower) : c.toUpper.isUpper := by
  have hupper := toNat_toUpper_of_isLower h
  rw [isLower_iff_toNat] at h
  rw [isUpper_iff_toNat]
  omega

theorem toLower_toUpper_of_isLower {c : Char} (h : c.isLower) : c.toUpper.toLower = c := by
  have hupper := toNat_toUpper_of_isLower h
  have hlower := toNat_toLower_of_isUpper (isUpper_toUpper_of_isLower h)
  rw [isLower_iff_toNat] at h
  rw [← Char.toNat_inj]
  omega

theorem isDigit_eq_false_of_isAlpha {c : Char} (h : c.isAlpha) : c.isDigit = false := by
  unfold Char.isAlpha at h
  simp only [Bool.or_eq_true, isUpper_iff_toNat, isLower_iff_toNat] at h
  have hzero : '0'.toNat = 48 := rfl
  have hnine : '9'.toNat = 57 := rfl
  rw [Bool.eq_false_iff, Ne, Char.isDigit_iff_toNat]
  omega

theorem splitWhen_intercalate_of_forall {p : Char → Bool} {separator : Char} (hseparator : p separator)
    {ws : List (List Char)} (h : ∀ w ∈ ws, ∀ c ∈ w, p c = false) (hne : ws ≠ [])
    : splitWhen p (List.intercalate [separator] ws) = ws := by
  have hword : ∀ w ∈ ws, splitWhen p w = [w] := fun w hw => splitWhen_eq_singleton (h w hw)
  induction ws with
  | nil => contradiction
  | cons w ws ih =>
    rw [List.forall_mem_cons] at h hword
    cases ws with
    | nil => rw [List.intercalate_singleton, hword.left]
    | cons v vs =>
      rw [List.intercalate_cons_cons, List.append_assoc, List.singleton_append,
        splitWhen_append_cons hseparator, hword.left, ih h.right (List.cons_ne_nil v vs) hword.right]
      rfl

namespace SnakeCase

theorem words_cons_of_endsWord {a : Cluster} {rest : List Cluster} (ha : isSeparator a = false)
    (h : endsWord a rest)
    : words (a :: rest) = [a] :: words rest := by
  rw [words, ha, if_neg Bool.false_ne_true, if_pos h]

theorem words_cons_of_not_endsWord {a : Cluster} {rest : List Cluster} (ha : isSeparator a = false)
    (h : endsWord a rest = false)
    : words (a :: rest) = (words rest).modifyHead (a :: ·) := by
  rw [words, ha, if_neg Bool.false_ne_true, h, if_neg Bool.false_ne_true]
  cases hw : words rest with
  | nil => exact absurd hw (words_ne_nil rest)
  | cons w ws => rfl

section Letters

variable {c d : Char} (cs : List Char)

theorem endsWord_of_isUpper (hc : c.isLower) (hd : d.isUpper)
    : endsWord [c] ((d :: cs).map ([·])) := by
  have hc' := toNat_lt_of_isAlphanum (isAlphanum_of_isLower hc)
  have hd' := toNat_lt_of_isAlphanum (isAlphanum_of_isUpper hd)
  simp [endsWord, isLower_singleton hc', isUpper_singleton hd', hc, hd]

theorem endsWord_of_isLower (hc : c.isAlpha) (hd : d.isLower)
    : endsWord [c] ((d :: cs).map ([·])) = false := by
  have hd' := toNat_lt_of_isAlphanum (isAlphanum_of_isLower hd)
  have hupper : isUpper [d] = false := by
    rw [isUpper_singleton hd', Bool.eq_false_iff]
    exact not_isUpper_of_isLower hd
  have hdigit : d.isDigit = false := isDigit_eq_false_of_isAlpha (isAlpha_of_isLower hd)
  simp [endsWord, isDigit, hupper, hdigit, isDigit_eq_false_of_isAlpha hc]

/-- Between two capitals a word ends if a small letter follows them. -/
theorem endsWord_capitals (hc : c.isUpper) (hd : d.isUpper) (hcs : ∀ e ∈ cs.head?, e.isAlpha)
    : endsWord [c] ((d :: cs).map ([·])) = (cs.head?.map Char.isLower).getD false := by
  have hc' := toNat_lt_of_isAlphanum (isAlphanum_of_isUpper hc)
  have hd' := toNat_lt_of_isAlphanum (isAlphanum_of_isUpper hd)
  have hlower : isLower [c] = false := by
    rw [isLower_singleton hc', Bool.eq_false_iff]
    exact fun hlower => not_isUpper_of_isLower hlower hc
  have hdigit : ∀ {e : Char}, e.isUpper → e.isDigit = false :=
    fun he => isDigit_eq_false_of_isAlpha (isAlpha_of_isUpper he)
  have hnext : ((cs.map ([·])).head?.map isLower).getD false
      = (cs.head?.map Char.isLower).getD false := by
    cases cs with
    | nil => rfl
    | cons e cs =>
      have he : e.isAlphanum := by simp [Char.isAlphanum, hcs e rfl]
      exact isLower_singleton (toNat_lt_of_isAlphanum he)
  rw [← hnext]
  simp [endsWord, isDigit, hlower, hdigit hc, hdigit hd, isUpper_singleton hc', isUpper_singleton hd',
    hc, hd]

end Letters

/-- The words of an ASCII name in lower case. -/
def lowerWords (cs : List Char) : List (List Char) :=
  (words (cs.map ([·]))).map fun w => w.flatten.map Char.toLower

theorem chars_eq_intercalate {cs : List Char} (h : IsAscii cs)
    : chars cs = List.intercalate ['_'] (lowerWords cs) := by
  rw [chars, clusters_eq_map h, lowerWords]
  congr 1
  refine List.map_congr_left fun w hw => lower_eq_map fun c hc => ?_
  rcases List.mem_flatten.mp hc with ⟨k, hk, hck⟩
  have hk : k ∈ (words (cs.map ([·]))).flatten := List.mem_flatten.mpr ⟨w, hw, hk⟩
  rw [flatten_words] at hk
  rcases List.mem_map.mp (List.mem_filter.mp hk).left with ⟨d, hd, rfl⟩
  rw [List.mem_singleton.mp hck]
  exact h d hd

theorem lowerWords_cons_of_endsWord {c : Char} {cs : List Char} (hc : c.isAlphanum)
    (h : endsWord [c] (cs.map ([·])))
    : lowerWords (c :: cs) = [c.toLower] :: lowerWords cs := by
  rw [lowerWords, List.map_cons, words_cons_of_endsWord (isSeparator_singleton_of_isAlphanum hc) h]
  rfl

theorem lowerWords_cons_of_not_endsWord {c : Char} {cs : List Char} (hc : c.isAlphanum)
    (h : endsWord [c] (cs.map ([·])) = false)
    : lowerWords (c :: cs) = (lowerWords cs).modifyHead (c.toLower :: ·) := by
  rw [lowerWords, lowerWords, List.map_cons,
    words_cons_of_not_endsWord (isSeparator_singleton_of_isAlphanum hc) h]
  cases words (cs.map ([·])) with
  | nil => rfl
  | cons w ws => rfl

/-- Small letters are a word if a capital or nothing follows them. -/
theorem lowerWords_append {w cs : List Char} (hne : w ≠ []) (hw : ∀ c ∈ w, c.isLower)
    (hcs : ∀ c ∈ cs.head?, c.isUpper)
    : lowerWords (w ++ cs) = w :: if cs = [] then [] else lowerWords cs := by
  induction w with
  | nil => contradiction
  | cons c w ih =>
    rw [List.forall_mem_cons] at hw
    have hc := isAlphanum_of_isLower hw.left
    have hlower : c.toLower = c := toLower_of_not_isUpper (not_isUpper_of_isLower hw.left)
    cases w with
    | nil =>
      rw [List.singleton_append]
      cases cs with
      | nil =>
        rw [lowerWords_cons_of_not_endsWord hc rfl, hlower]
        rfl
      | cons d cs =>
        have hends := endsWord_of_isUpper cs hw.left (hcs d rfl)
        rw [lowerWords_cons_of_endsWord hc hends, hlower, if_neg (List.cons_ne_nil d cs)]
    | cons d w =>
      have hends := endsWord_of_isLower (w ++ cs) (c := c) (isAlpha_of_isLower hw.left)
        (hw.right d List.mem_cons_self)
      rw [List.cons_append, List.cons_append, lowerWords_cons_of_not_endsWord hc hends,
        ← List.cons_append, ih (List.cons_ne_nil d w) hw.right, hlower]
      rfl

end SnakeCase

/-- Whether no two words that follow each other are single letters. -/
def LettersApart (ws : List String) : Prop :=
  ws.IsChain fun u v => ¬(u.length = 1 ∧ v.length = 1)

instance (ws : List String) : Decidable (LettersApart ws) :=
  inferInstanceAs (Decidable (ws.IsChain _))

/-- The words of a name, with single letters that follow each other made one word. -/
def fuseLetters : List String → List String
  | u :: v :: ws =>
    if u.length = 1 ∧ v.length = 1 then (fuseLetters (v :: ws)).modifyHead (u ++ ·)
    else u :: fuseLetters (v :: ws)
  | ws => ws

theorem fuseLetters_ne_nil {ws : List String} (hne : ws ≠ []) : fuseLetters ws ≠ [] := by
  fun_induction fuseLetters ws with
  | case1 u v ws hletters ih => simpa using ih (List.cons_ne_nil v ws)
  | case2 u v ws hletters ih => exact List.cons_ne_nil _ _
  | case3 ws hws => exact hne

theorem length_fuseLetters_le (ws : List String) : (fuseLetters ws).length ≤ ws.length := by
  fun_induction fuseLetters ws with
  | case1 u v ws h ih =>
    rw [List.length_modifyHead, List.length_cons]
    omega
  | case2 u v ws h ih =>
    rw [List.length_cons, List.length_cons]
    omega
  | case3 ws hws => exact Nat.le_refl _

theorem fuseLetters_eq_self_iff (ws : List String) : fuseLetters ws = ws ↔ LettersApart ws := by
  unfold LettersApart
  fun_induction fuseLetters ws with
  | case1 u v ws hletters ih =>
    -- There are fewer words than before.
    have hne : (fuseLetters (v :: ws)).modifyHead (u ++ ·) ≠ u :: v :: ws := by
      intro heq
      have hlength := congrArg List.length heq
      have hle := length_fuseLetters_le (v :: ws)
      rw [List.length_modifyHead, List.length_cons] at hlength
      omega
    rw [List.isChain_cons_cons]
    exact iff_of_false hne fun hchain => hchain.left hletters
  | case2 u v ws hletters ih =>
    rw [List.cons.injEq, List.isChain_cons_cons, ih]
    exact and_congr (iff_of_true rfl hletters) Iff.rfl
  | case3 ws hws =>
    cases ws with
    | nil => exact iff_of_true rfl .nil
    | cons u ws =>
      cases ws with
      | nil => exact iff_of_true rfl (.singleton u)
      | cons v ws => exact absurd rfl (hws u v ws)

/-- Whether a text is a word of small letters. -/
def IsSmallWord (w : String) : Prop :=
  w ≠ "" ∧ ∀ c ∈ w.toList, c.isLower

instance (w : String) : Decidable (IsSmallWord w) :=
  decidable_of_iff (w ≠ "" ∧ w.toList.all Char.isLower) (by simp [IsSmallWord])

theorem IsSmallWord.exists_cons {w : String} (h : IsSmallWord w)
    : ∃ c cs, w.toList = c :: cs ∧ c.isLower ∧ ∀ d ∈ cs, d.isLower := by
  rcases h with ⟨hne, hlower⟩
  rcases List.exists_cons_of_ne_nil (mt String.toList_eq_nil_iff.mp hne) with ⟨c, cs, hw⟩
  rw [hw, List.forall_mem_cons] at hlower
  exact ⟨c, cs, hw, hlower.left, hlower.right⟩

theorem isSmallWord_of_mem_fuseLetters {ws : List String} (h : ∀ w ∈ ws, IsSmallWord w)
    : ∀ w ∈ fuseLetters ws, IsSmallWord w := by
  fun_induction fuseLetters ws with
  | case1 u v ws hletters ih =>
    rw [List.forall_mem_cons] at h
    have hfused := ih h.right
    cases hw : fuseLetters (v :: ws) with
    | nil => simp
    | cons w rest =>
      rw [hw, List.forall_mem_cons] at hfused
      rw [List.modifyHead_cons, List.forall_mem_cons]
      refine ⟨⟨by simp [h.left.left], ?_⟩, hfused.right⟩
      rw [String.toList_append, List.forall_mem_append]
      exact ⟨h.left.right, hfused.left.right⟩
  | case2 u v ws hletters ih =>
    rw [List.forall_mem_cons] at h
    exact List.forall_mem_cons.mpr ⟨h.left, ih h.right⟩
  | case3 ws hws => exact h

namespace SnakeCase

/-- The words one after another, each with a capital. -/
def capitalized (ws : List String) : List Char :=
  (ws.map String.toList).flatMap capitalize

theorem capitalized_cons (w : String) (ws : List String)
    : capitalized (w :: ws) = capitalize w.toList ++ capitalized ws := by
  rw [capitalized, List.map_cons, List.flatMap_cons]
  rfl

theorem isUpper_of_head?_capitalized {ws : List String} (h : ∀ w ∈ ws, IsSmallWord w)
    : ∀ c ∈ (capitalized ws).head?, c.isUpper := by
  cases ws with
  | nil => simp [capitalized]
  | cons w ws =>
    rcases (h w List.mem_cons_self).exists_cons with ⟨c, cs, hw, hc, -⟩
    simpa [capitalized_cons, hw, capitalize] using isUpper_toUpper_of_isLower hc

theorem capitalized_ne_nil {ws : List String} (hne : ws ≠ []) (h : ∀ w ∈ ws, IsSmallWord w)
    : capitalized ws ≠ [] := by
  rcases List.exists_cons_of_ne_nil hne with ⟨w, rest, rfl⟩
  rcases (h w List.mem_cons_self).exists_cons with ⟨c, cs, hw, -⟩
  simp [capitalized_cons, hw, capitalize]

/-- A word of several letters is found again. -/
theorem lowerWords_capital_append {c : Char} {cs rest : List Char} (hc : c.isLower) (hne : cs ≠ [])
    (hcs : ∀ d ∈ cs, d.isLower) (hrest : ∀ d ∈ rest.head?, d.isUpper)
    : lowerWords (c.toUpper :: (cs ++ rest))
        =
      (c :: cs) :: if rest = [] then [] else lowerWords rest := by
  have hupper := isUpper_toUpper_of_isLower hc
  have hends : endsWord [c.toUpper] ((cs ++ rest).map ([·])) = false := by
    rcases List.exists_cons_of_ne_nil hne with ⟨d, ds, rfl⟩
    exact endsWord_of_isLower _ (isAlpha_of_isUpper hupper) (hcs d List.mem_cons_self)
  rw [lowerWords_cons_of_not_endsWord (isAlphanum_of_isUpper hupper) hends,
    lowerWords_append hne hcs hrest, toLower_toUpper_of_isLower hc]
  rfl

theorem lowerWords_capitalized_singleton {u : String} (hu : IsSmallWord u)
    : lowerWords (capitalized [u]) = [u.toList] := by
  rcases hu.exists_cons with ⟨c, cs, hlist, hc, hcs⟩
  rw [capitalized_cons, hlist, capitalize]
  cases cs with
  | nil =>
    have hupper := isUpper_toUpper_of_isLower hc
    rw [List.singleton_append, lowerWords_cons_of_not_endsWord (isAlphanum_of_isUpper hupper) rfl,
      toLower_toUpper_of_isLower hc]
    rfl
  | cons d ds =>
    have hnil : ∀ e ∈ (capitalized []).head?, e.isUpper := by simp [capitalized]
    rw [List.cons_append, lowerWords_capital_append hc (List.cons_ne_nil d ds) hcs hnil]
    rfl

variable {u v : String} {ws : List String}

/-- Of two single letters the first one becomes a part of the word of the second one. -/
theorem lowerWords_capitalized_of_letters (h : ∀ w ∈ u :: v :: ws, IsSmallWord w)
    (hletters : u.length = 1 ∧ v.length = 1)
    : lowerWords (capitalized (u :: v :: ws))
        =
      (lowerWords (capitalized (v :: ws))).modifyHead (u.toList ++ ·) := by
  rw [List.forall_mem_cons, List.forall_mem_cons] at h
  rcases h with ⟨hu, hv, hws⟩
  rcases hu.exists_cons with ⟨c, cs, hu, hc, -⟩
  rcases hv.exists_cons with ⟨d, ds, hv, hd, -⟩
  have hcs : cs = [] := by simpa [← String.length_toList, hu] using hletters.left
  have hds : ds = [] := by simpa [← String.length_toList, hv] using hletters.right
  subst hcs hds
  have hcupper := isUpper_toUpper_of_isLower hc
  have hdupper := isUpper_toUpper_of_isLower hd
  have hnext := isUpper_of_head?_capitalized hws
  -- No small letter follows the two capitals.
  have hends : endsWord [c.toUpper] ((capitalized (v :: ws)).map ([·])) = false := by
    rw [capitalized_cons, hv, capitalize, List.singleton_append,
      endsWord_capitals _ hcupper hdupper fun e he => isAlpha_of_isUpper (hnext e he)]
    cases hhead : (capitalized ws).head? with
    | none => rfl
    | some e => exact Bool.eq_false_iff.mpr fun hlower => not_isUpper_of_isLower hlower (hnext e hhead)
  rw [capitalized_cons, hu, capitalize, List.singleton_append,
    lowerWords_cons_of_not_endsWord (isAlphanum_of_isUpper hcupper) hends,
    toLower_toUpper_of_isLower hc]
  rfl

/-- Of two words one of which has several letters the first one is a word for itself. -/
theorem lowerWords_capitalized_of_not_letters (h : ∀ w ∈ u :: v :: ws, IsSmallWord w)
    (hletters : ¬(u.length = 1 ∧ v.length = 1))
    : lowerWords (capitalized (u :: v :: ws)) = u.toList :: lowerWords (capitalized (v :: ws)) := by
  rw [List.forall_mem_cons] at h
  rcases h.left.exists_cons with ⟨c, cs, hu, hc, hcs⟩
  have hnext := isUpper_of_head?_capitalized h.right
  have hne := capitalized_ne_nil (List.cons_ne_nil v ws) h.right
  rw [capitalized_cons, hu, capitalize]
  cases cs with
  | cons e es =>
    rw [List.cons_append, lowerWords_capital_append hc (List.cons_ne_nil e es) hcs hnext, if_neg hne]
  | nil =>
    rcases (h.right v List.mem_cons_self).exists_cons with ⟨d, ds, hv, hd, hds⟩
    have hcupper := isUpper_toUpper_of_isLower hc
    have hdupper := isUpper_toUpper_of_isLower hd
    cases ds with
    | nil => exact absurd (by simp [← String.length_toList, hu, hv]) hletters
    | cons e es =>
      -- The second word goes on with a small letter, which ends the first one.
      have he := hds e List.mem_cons_self
      have hends : endsWord [c.toUpper] ((capitalized (v :: ws)).map ([·])) := by
        rw [capitalized_cons, hv, capitalize, List.cons_append,
          endsWord_capitals _ hcupper hdupper (by simpa using isAlpha_of_isLower he)]
        exact he
      rw [List.singleton_append, lowerWords_cons_of_endsWord (isAlphanum_of_isUpper hcupper) hends,
        toLower_toUpper_of_isLower hc]

theorem lowerWords_capitalized (hne : ws ≠ []) (h : ∀ w ∈ ws, IsSmallWord w)
    : lowerWords (capitalized ws) = (fuseLetters ws).map String.toList := by
  fun_induction fuseLetters ws with
  | case1 u v ws hletters ih =>
    rw [lowerWords_capitalized_of_letters h hletters,
      ih (List.cons_ne_nil v ws) (List.forall_mem_cons.mp h).right]
    cases fuseLetters (v :: ws) with
    | nil => rfl
    | cons w rest =>
      rw [List.map_cons, List.modifyHead_cons, List.modifyHead_cons, List.map_cons,
        String.toList_append]
  | case2 u v ws hletters ih =>
    rw [lowerWords_capitalized_of_not_letters h hletters,
      ih (List.cons_ne_nil v ws) (List.forall_mem_cons.mp h).right]
    rfl
  | case3 ws hws =>
    rcases List.exists_cons_of_ne_nil hne with ⟨u, rest, rfl⟩
    cases rest with
    | nil => exact lowerWords_capitalized_singleton (h u List.mem_cons_self)
    | cons v ws => exact absurd rfl (hws u v ws)

end SnakeCase

variable {ws : List String}

theorem isIdentifierPart_of_isLower {c : Char} (h : c.isLower) : isIdentifierPart c := by
  simp [isIdentifierPart, isAlphanum_of_isLower h]

theorem isIdentifier_join (hne : ws ≠ []) (h : ∀ w ∈ ws, IsSmallWord w)
    : isIdentifier (join "_" ws) := by
  rw [isIdentifier_iff]
  constructor
  . rcases List.exists_cons_of_ne_nil hne with ⟨w, rest, rfl⟩
    rcases (h w List.mem_cons_self).exists_cons with ⟨c, cs, hw, hc, -⟩
    refine ⟨c, ?_, by simp [isIdentifierStart, isAlpha_of_isLower hc]⟩
    rw [join, String.toList_intercalate, List.map_cons, hw, intercalate_cons_left]
    rfl
  . intro c hc
    rcases mem_of_mem_join hc with hc | ⟨w, hw, hc⟩
    . have hc : c = '_' := by simpa using hc
      rw [hc]
      rfl
    . exact isIdentifierPart_of_isLower ((h w hw).right c hc)

theorem isWordSeparator_eq_false_of_isAlphanum {c : Char} (h : c.isAlphanum)
    : isWordSeparator c = false := by
  have hunderscore : c ≠ '_' := by
    rintro rfl
    contradiction
  have hhyphen : c ≠ '-' := by
    rintro rfl
    contradiction
  have hblank : isBlank c = false :=
    isBlank_eq_false_of_isIdentifierPart (by simp [isIdentifierPart, h])
  rw [isWordSeparator, hblank, Bool.or_false, Bool.or_eq_false_iff]
  exact ⟨beq_eq_false_iff_ne.mpr hunderscore, beq_eq_false_iff_ne.mpr hhyphen⟩

/-- The words of the name are those that it is joined from. -/
theorem toList_classify_join (hne : ws ≠ []) (h : ∀ w ∈ ws, IsSmallWord w)
    : (classify (join "_" ws)).toList = SnakeCase.capitalized ws := by
  have hwords : ∀ w ∈ ws.map String.toList, ∀ c ∈ w, isWordSeparator c = false := by
    rw [List.forall_mem_map]
    exact fun w hw c hc =>
      isWordSeparator_eq_false_of_isAlphanum (isAlphanum_of_isLower ((h w hw).right c hc))
  have hsplit : splitWhen isWordSeparator (join "_" ws).toList = ws.map String.toList := by
    rw [join, String.toList_intercalate]
    exact splitWhen_intercalate_of_forall rfl hwords (by simpa using hne)
  rw [toList_classify, hsplit, SnakeCase.capitalized]

/-- The accessor of a property as it is written by hand in snake case. -/
def AccessorKind.handWritten (k : AccessorKind) (property : String) : String :=
  k.verb ++ "_" ++ property

/-- In snake case the name of an accessor has the words of its property behind its verb, with single
letters that follow each other made one word. -/
theorem snakeCase_nameFor_join (k : AccessorKind) (hne : ws ≠ []) (h : ∀ w ∈ ws, IsSmallWord w)
    : snakeCase (k.nameFor (join "_" ws)) = k.handWritten (join "_" (fuseLetters ws)) := by
  have hascii : IsAscii (k.nameFor (join "_" ws)).toList := fun c hc =>
    toNat_lt_of_isAlphanum (k.isAlphanum_of_mem_nameFor (isIdentifier_join hne h) c hc)
  have hverb : IsSmallWord k.verb := by
    cases k with
    | getter => decide
    | setter => decide
  have hname : (k.nameFor (join "_" ws)).toList = k.verb.toList ++ SnakeCase.capitalized ws := by
    rw [AccessorKind.nameFor_eq, String.toList_append, toList_classify_join hne h]
  have hwords : SnakeCase.lowerWords (k.nameFor (join "_" ws)).toList
      = (k.verb :: fuseLetters ws).map String.toList := by
    rw [hname, SnakeCase.lowerWords_append (mt String.toList_eq_nil_iff.mp hverb.left) hverb.right
      (SnakeCase.isUpper_of_head?_capitalized h), if_neg (SnakeCase.capitalized_ne_nil hne h),
      SnakeCase.lowerWords_capitalized hne h]
    rfl
  rcases List.exists_cons_of_ne_nil (fuseLetters_ne_nil hne) with ⟨w, rest, hw⟩
  rw [snakeCase, SnakeCase.chars_eq_intercalate hascii, hwords, hw]
  apply String.toList_injective
  simp [join, AccessorKind.handWritten]

/-- The accessor is spelled like its property unless two single letters follow each other. -/
theorem snakeCase_nameFor_join_eq_iff (k : AccessorKind) (hne : ws ≠ [])
    (h : ∀ w ∈ ws, IsSmallWord w)
    : snakeCase (k.nameFor (join "_" ws)) = k.handWritten (join "_" ws)
        ↔
      LettersApart ws := by
  have hpieces : ∀ {vs : List String}, (∀ w ∈ vs, IsSmallWord w) →
      ∀ p ∈ vs.map String.toList, p ≠ [] ∧ '_' ∉ p := by
    intro vs hvs
    rw [List.forall_mem_map]
    intro w hw
    refine ⟨mt String.toList_eq_nil_iff.mp (hvs w hw).left, fun hmem => ?_⟩
    exact absurd ((hvs w hw).right _ hmem) (by decide)
  have hinj : join "_" (fuseLetters ws) = join "_" ws ↔ fuseLetters ws = ws := by
    rw [← String.toList_inj, join, join, String.toList_intercalate, String.toList_intercalate]
    exact (intercalate_inj (hpieces (isSmallWord_of_mem_fuseLetters h)) (hpieces h)).trans
      (List.map_inj_right fun _ _ => String.toList_inj.mp)
  rw [snakeCase_nameFor_join k hne h, AccessorKind.handWritten, AccessorKind.handWritten,
    String.append_right_inj, hinj, fuseLetters_eq_self_iff]

end LazyProxy
