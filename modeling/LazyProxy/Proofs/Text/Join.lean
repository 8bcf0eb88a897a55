import Mathlib.Data.List.TakeWhile
import LazyProxy.Proofs.Text.Split
import LazyProxy.Text.Blank

/-!
This module contains how joining texts and cutting them undo each other, and what is left of a joined
text when blanks and separators are taken off in front.
-/

namespace LazyProxy.Text

theorem splitWhen_intercalate {separator : Char} {ps : List (List Char)}
    (h : ∀ p ∈ ps, separator ∉ p) (hne : ps ≠ [])
    : splitWhen (· == separator) (List.intercalate [separator] ps) = ps := by
  rw [splitWhen_eq_splitOnP, ← List.splitOn_eq_splitOnP]
  exact List.splitOn_intercalate separator h hne

theorem intercalate_splitWhen (separator : Char) (cs : List Char)
    : List.intercalate [separator] (splitWhen (· == separator) cs) = cs := by
  rw [splitWhen_eq_splitOnP, ← List.splitOn_eq_splitOnP]
  exact List.intercalate_splitOn separator

theorem isInfix_intercalate {separator p : List Char} {ps : List (List Char)} (h : p ∈ ps)
    : p <:+: List.intercalate separator ps := by
  induction ps with
  | nil => contradiction
  | cons q qs ih =>
    cases qs with
    | nil =>
      rw [List.mem_singleton] at h
      simp [h, List.intercalate_singleton]
    | cons r rs =>
      rw [List.intercalate_cons_cons, List.append_assoc]
      cases List.mem_cons.mp h with
      | inl h =>
        rw [h]
        exact (List.prefix_append _ _).isInfix
      | inr h => exact (ih h).trans ((List.suffix_append _ _).trans (List.suffix_append _ _)).isInfix

theorem isInfix_of_mem_lines {cs line : List Char} (h : line ∈ lines cs) : line <:+: cs := by
  rcases exists_prefix_of_mem_lines h with ⟨piece, hpiece, hstart⟩
  have hinfix : piece <:+: List.intercalate ['\n'] (splitWhen (· == '\n') cs) :=
    isInfix_intercalate hpiece
  rw [intercalate_splitWhen] at hinfix
  exact hstart.isInfix.trans hinfix

theorem intercalate_cons_left {separator w : List Char} (c : Char) (ws : List (List Char))
    : List.intercalate separator ((c :: w) :: ws) = c :: List.intercalate separator (w :: ws) := by
  cases ws with
  | nil => simp
  | cons v vs => simp

theorem takeWhile_intercalate {x : Char} {p : List Char} (hx : x ∉ p) (xs : List Char)
    (ps : List (List Char))
    : (List.intercalate (x :: xs) (p :: ps)).takeWhile (· != x) = p := by
  have hp : ∀ c ∈ p, (c != x) = true := by
    intro c hc
    rw [bne_iff_ne]
    rintro rfl
    exact hx hc
  cases ps with
  | nil => rw [List.intercalate_singleton, List.takeWhile_eq_self_iff.mpr hp]
  | cons q qs =>
    rw [List.intercalate_cons_cons, List.append_assoc, List.takeWhile_append_of_pos hp]
    simp

/-- Pieces are told apart by their join if the separator starts with a character of none of them. -/
theorem intercalate_inj {x : Char} {xs : List Char} {ps qs : List (List Char)}
    (hps : ∀ p ∈ ps, p ≠ [] ∧ x ∉ p) (hqs : ∀ q ∈ qs, q ≠ [] ∧ x ∉ q)
    : List.intercalate (x :: xs) ps = List.intercalate (x :: xs) qs ↔ ps = qs := by
  constructor
  . intro h
    induction ps generalizing qs with
    | nil =>
      cases qs with
      | nil => rfl
      | cons q qs =>
        have hq := hqs q (by simp)
        rw [← takeWhile_intercalate hq.right xs qs, ← h] at hq
        exact absurd rfl hq.left
    | cons p ps ih =>
      rw [List.forall_mem_cons] at hps
      cases qs with
      | nil =>
        have hp := hps.left
        rw [← takeWhile_intercalate hp.right xs ps, h] at hp
        exact absurd rfl hp.left
      | cons q qs =>
        rw [List.forall_mem_cons] at hqs
        have hpq : p = q := by
          rw [← takeWhile_intercalate hps.left.right xs ps, h]
          exact takeWhile_intercalate hqs.left.right xs qs
        subst hpq
        -- What follows the first piece is a separator or nothing.
        cases ps with
        | nil =>
          cases qs with
          | nil => rfl
          | cons r rs => simp at h
        | cons o os =>
          cases qs with
          | nil => simp at h
          | cons r rs =>
            rw [List.intercalate_cons_cons, List.intercalate_cons_cons] at h
            rw [ih hps.right hqs.right (List.append_cancel_left h)]
  . rintro rfl
    rfl

theorem intercalate_splitColons (cs : List Char)
    : List.intercalate [':', ':'] (splitColons cs) = cs := by
  fun_induction splitColons cs with
  | case1 => rfl
  | case2 c => rfl
  | case3 c d cs hcolons ih =>
    rw [List.intercalate_cons_of_ne_nil (splitColons_ne_nil cs), ih, hcolons.left, hcolons.right]
    rfl
  | case4 c d cs hcolons w ws hw ih =>
    rw [hw] at ih
    rw [intercalate_cons_left, ih]
  | case5 c d cs hcolons hw => exact absurd hw (splitColons_ne_nil _)

theorem mem_of_mem_join {separator : String} {names : List String} {a : Char}
    (h : a ∈ (join separator names).toList)
    : a ∈ separator.toList ∨ ∃ name ∈ names, a ∈ name.toList := by
  unfold join at h
  induction names with
  | nil => simp at h
  | cons name names ih =>
    cases names with
    | nil => exact Or.inr ⟨name, by simp, by simpa using h⟩
    | cons other names =>
      rw [String.intercalate_cons_cons, String.toList_append, String.toList_append] at h
      rw [List.mem_append, List.mem_append] at h
      rcases h with (h | h) | h
      . exact Or.inr ⟨name, by simp, h⟩
      . exact Or.inl h
      . cases ih h with
        | inl h => exact Or.inl h
        | inr h =>
          rcases h with ⟨found, hfound, h⟩
          exact Or.inr ⟨found, List.mem_cons_of_mem _ hfound, h⟩

theorem join_append_singleton {separator : String} {names : List String} (h : names ≠ [])
    (name : String)
    : join separator (names ++ [name]) = join separator names ++ separator ++ name := by
  rw [join, String.intercalate_append_of_ne_nil h (List.cons_ne_nil name []),
    String.intercalate_singleton]
  rfl

/-- To exchange characters of a text is to exchange them in its parts and between them. -/
theorem map_join (f : Char → Char) (separator : String) (parts : List String)
    : (join separator parts).map f = join (separator.map f) (parts.map (·.map f)) := by
  apply String.toList_injective
  simp only [join, String.toList_map, String.toList_intercalate, List.map_map]
  induction parts with
  | nil => rfl
  | cons p ps ih =>
    cases ps with
    | nil => simp
    | cons q qs =>
      simp only [List.map_cons, List.intercalate_cons_cons, List.map_append] at ih ⊢
      rw [ih]
      simp

theorem getLast?_intercalate {separator : List Char} {ps : List (List Char)} {p : List Char}
    (hp : ps.getLast? = some p) (hne : p ≠ [])
    : (List.intercalate separator ps).getLast? = p.getLast? := by
  induction ps with
  | nil => contradiction
  | cons q ps ih =>
    cases ps with
    | nil =>
      rw [List.getLast?_singleton, Option.some.injEq] at hp
      rw [hp, List.intercalate_singleton]
    | cons r ps =>
      rw [List.getLast?_cons_cons] at hp
      rw [List.intercalate_cons_cons, List.getLast?_append, ih hp]
      rw [List.getLast?_eq_some_getLast hne]
      rfl

theorem hasColons_append_cons {c : Char} (hc : c ≠ ':') (xs ys : List Char)
    : hasColons (xs ++ c :: ys) = (hasColons xs || hasColons ys) := by
  induction xs with
  | nil =>
    cases ys with
    | nil => rfl
    | cons y ys => simp [hasColons, hc]
  | cons x xs ih =>
    cases xs with
    | nil =>
      rw [List.nil_append] at ih
      simp [hasColons, hc, ih]
    | cons z zs =>
      simp only [List.cons_append] at *
      rw [hasColons, ih, hasColons, Bool.or_assoc]

theorem hasColons_eq_false_of_append {xs ys : List Char} (h : hasColons (xs ++ ys) = false)
    : hasColons ys = false := by
  induction xs with
  | nil => exact h
  | cons x xs ih =>
    apply ih
    cases hzs : xs ++ ys with
    | nil => rfl
    | cons z zs =>
      rw [List.cons_append, hzs, hasColons, Bool.or_eq_false_iff] at h
      exact h.right

theorem hasColons_eq_false_of_mem_splitColons (cs : List Char)
    : ∀ p ∈ splitColons cs, hasColons p = false := by
  fun_induction splitColons cs with
  | case1 => simp [hasColons]
  | case2 c => simp [hasColons]
  | case3 c d cs hcolons ih => simpa [hasColons] using ih
  | case4 c d cs hcolons w ws hw ih =>
    rw [hw, List.forall_mem_cons] at ih
    rw [List.forall_mem_cons]
    refine ⟨?_, ih.right⟩
    cases w with
    | nil => rfl
    | cons x w =>
      -- The piece goes on with `d`, so `c` starts no double colon.
      have hjoin := intercalate_splitColons (d :: cs)
      rw [hw, intercalate_cons_left, List.cons.injEq] at hjoin
      rw [hasColons, ih.left, Bool.or_false, hjoin.left]
      simpa using hcolons
  | case5 c d cs hcolons hw => exact absurd hw (splitColons_ne_nil _)

theorem hasColons_intercalate {separator : Char} (hseparator : separator ≠ ':')
    {ps : List (List Char)} (h : ∀ p ∈ ps, hasColons p = false)
    : hasColons (List.intercalate [separator] ps) = false := by
  induction ps with
  | nil => rfl
  | cons p ps ih =>
    rw [List.forall_mem_cons] at h
    cases ps with
    | nil => simpa using h.left
    | cons q qs =>
      rw [List.intercalate_cons_cons, List.append_assoc, List.singleton_append]
      rw [hasColons_append_cons hseparator, h.left, ih h.right]
      rfl

theorem dropColons_eq_self {cs : List Char} (h : hasColons cs = false) : dropColons cs = cs := by
  fun_cases dropColons cs with
  | case1 c d cs hcolons => simp [hasColons, hcolons] at h
  | case2 => rfl
  | case3 => rfl

theorem dropColons_suffix (cs : List Char) : dropColons cs <:+ cs := by
  fun_induction dropColons cs with
  | case1 c d cs hcolons ih => exact ih.trans (List.suffix_append [c, d] cs)
  | case2 => exact List.suffix_refl _
  | case3 => exact List.suffix_refl _

theorem mem_tail_splitWhen_append {p : Char → Bool} (xs : List Char) {ys w : List Char}
    (h : w ∈ (splitWhen p ys).tail)
    : w ∈ (splitWhen p (xs ++ ys)).tail := by
  induction xs with
  | nil => exact h
  | cons x xs ih =>
    rw [List.cons_append, splitWhen]
    split
    . exact List.mem_of_mem_tail ih
    . cases hw : splitWhen p (xs ++ ys) with
      | nil => exact absurd hw (splitWhen_ne_nil _ _)
      | cons v vs =>
        rw [hw] at ih
        exact ih

/-- Texts that start with no separator are not empty up to the next one. -/
theorem nil_not_mem_splitWhen_of_append {p : Char → Bool} {xs ys : List Char}
    (hstart : ∃ c, ys.head? = some c ∧ p c = false) (h : [] ∉ splitWhen p (xs ++ ys))
    : [] ∉ splitWhen p ys := by
  rcases hstart with ⟨c, hc, hpc⟩
  intro hnil
  cases ys with
  | nil => contradiction
  | cons y ys =>
    rw [List.head?_cons, Option.some.injEq] at hc
    subst hc
    have htail : [] ∉ (splitWhen p (y :: ys)).tail := fun hmem =>
      h (List.mem_of_mem_tail (mem_tail_splitWhen_append xs hmem))
    cases hw : splitWhen p ys with
    | nil => exact absurd hw (splitWhen_ne_nil _ _)
    | cons w ws =>
      have hcut : splitWhen p (y :: ys) = (y :: w) :: ws := by
        simp [splitWhen, hpc, hw]
      rw [hcut] at hnil htail
      cases List.mem_cons.mp hnil with
      | inl hnil => contradiction
      | inr hnil => exact htail hnil

theorem getLast?_dropWhile {p : Char → Bool} {cs : List Char} {c : Char}
    (h : cs.getLast? = some c) (hc : p c = false)
    : (cs.dropWhile p).getLast? = some c := by
  rcases List.getLast?_eq_some_iff.mp h with ⟨xs, rfl⟩
  rw [List.dropWhile_append]
  split
  . simp [hc]
  . simp

theorem trimEnd_eq_self {cs : List Char} {c : Char} (h : cs.getLast? = some c)
    (hc : isBlank c = false)
    : trimEnd cs = cs := by
  rcases List.getLast?_eq_some_iff.mp h with ⟨xs, rfl⟩
  simp [trimEnd, hc]

theorem isBlank_of_getLast?_trim {cs : List Char} {c : Char} (h : (trim cs).getLast? = some c)
    : isBlank c = false := by
  rw [trim, trimEnd, List.getLast?_reverse] at h
  have hhead := List.head?_dropWhile_not isBlank (cs.dropWhile isBlank).reverse
  rw [h] at hhead
  exact hhead

end LazyProxy.Text
