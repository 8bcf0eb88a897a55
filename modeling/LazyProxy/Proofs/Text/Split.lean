import LazyProxy.Text.Split

/-!
This module contains what cutting a text at separators keeps and what it takes away.
-/

namespace LazyProxy.Text

theorem flatten_splitOnP {α : Type} (p : α → Bool) (xs : List α)
    : (xs.splitOnP p).flatten = xs.filter (!p ·) := by
  induction xs with
  | nil => rfl
  | cons x xs ih =>
    rw [List.splitOnP_cons_eq_if_modifyHead]
    split
    . next hx => simp [hx, ih]
    . next hx =>
      rcases List.exists_cons_of_ne_nil (List.splitOnP_ne_nil p xs) with ⟨w, ws, hw⟩
      rw [hw] at ih
      simp_all

theorem mem_of_mem_splitOnP {α : Type} {p : α → Bool} {xs piece : List α} {x : α}
    (hpiece : piece ∈ xs.splitOnP p) (hx : x ∈ piece)
    : x ∈ xs ∧ p x = false := by
  have : x ∈ (xs.splitOnP p).flatten := List.mem_flatten.mpr ⟨piece, hpiece, hx⟩
  rw [flatten_splitOnP] at this
  simpa using this

theorem splitWhen_eq_splitOnP (p : Char → Bool) (cs : List Char)
    : splitWhen p cs = cs.splitOnP p := by
  induction cs with
  | nil => rfl
  | cons c cs ih =>
    rw [List.splitOnP_cons_eq_if_modifyHead, splitWhen, ih]
    split
    . rfl
    . cases hw : cs.splitOnP p with
      | nil => exact absurd hw (List.splitOnP_ne_nil p cs)
      | cons w ws => rfl

theorem flatten_splitWhen (p : Char → Bool) (cs : List Char)
    : (splitWhen p cs).flatten = cs.filter (!p ·) := by
  rw [splitWhen_eq_splitOnP, flatten_splitOnP]

theorem mem_of_mem_splitWhen {p : Char → Bool} {cs piece : List Char} {c : Char}
    (hpiece : piece ∈ splitWhen p cs) (hc : c ∈ piece)
    : c ∈ cs ∧ p c = false := by
  rw [splitWhen_eq_splitOnP] at hpiece
  exact mem_of_mem_splitOnP hpiece hc

theorem splitWhen_ne_nil (p : Char → Bool) (cs : List Char) : splitWhen p cs ≠ [] := by
  rw [splitWhen_eq_splitOnP]
  exact List.splitOnP_ne_nil p cs

theorem splitColons_ne_nil (cs : List Char) : splitColons cs ≠ [] := by
  unfold splitColons
  split
  . simp
  . simp
  . split
    . simp
    . split
      . simp
      . simp

theorem splitWhen_append_cons {p : Char → Bool} {c : Char} (hc : p c) (xs ys : List Char)
    : splitWhen p (xs ++ c :: ys) = splitWhen p xs ++ splitWhen p ys := by
  simp only [splitWhen_eq_splitOnP]
  exact List.splitOnP_append_cons xs ys hc

theorem splitWhen_eq_singleton {p : Char → Bool} {cs : List Char} (h : ∀ c ∈ cs, p c = false)
    : splitWhen p cs = [cs] := by
  rw [splitWhen_eq_splitOnP]
  exact List.splitOnP_eq_singleton h

theorem splitWhen_of_not_mem {separator : Char} {cs : List Char} (h : separator ∉ cs)
    : splitWhen (· == separator) cs = [cs] := by
  apply splitWhen_eq_singleton
  intro c hc
  rw [beq_eq_false_iff_ne]
  rintro rfl
  exact h hc

/-- A line is a piece between line feeds, or such a piece without a carriage return at its end. -/
theorem exists_prefix_of_mem_lines {cs line : List Char} (h : line ∈ lines cs)
    : ∃ piece ∈ splitWhen (· == '\n') cs, line <+: piece := by
  have hreturn : ∀ piece : List Char, dropReturn piece <+: piece := by
    intro piece
    unfold dropReturn
    split
    . exact List.dropLast_prefix piece
    . exact List.prefix_refl piece
  unfold lines at h
  split at h
  . contradiction
  . next hpieces =>
    rw [List.mem_reverse, List.mem_map] at h
    rcases h with ⟨piece, hended, rfl⟩
    refine ⟨piece, ?_, hreturn piece⟩
    rw [← List.mem_reverse, hpieces]
    exact List.mem_cons_of_mem _ hended
  . next last ended _ hpieces =>
    rw [List.mem_reverse, List.mem_cons, List.mem_map] at h
    rcases h with rfl | ⟨piece, hended, rfl⟩
    . refine ⟨line, ?_, List.prefix_refl line⟩
      rw [← List.mem_reverse, hpieces]
      exact List.mem_cons_self
    . refine ⟨piece, ?_, hreturn piece⟩
      rw [← List.mem_reverse, hpieces]
      exact List.mem_cons_of_mem _ hended

theorem newline_not_mem_of_mem_lines {cs line : List Char} (h : line ∈ lines cs) : '\n' ∉ line := by
  rcases exists_prefix_of_mem_lines h with ⟨piece, hpiece, hstart⟩
  intro hmem
  have hne := (mem_of_mem_splitWhen hpiece (hstart.subset hmem)).right
  contradiction

theorem filter_intercalate (separator : Char) (words : List (List Char))
    : (List.intercalate [separator] words).filter (· != separator)
        =
      words.flatten.filter (· != separator) := by
  induction words with
  | nil => rfl
  | cons w ws ih =>
    cases ws with
    | nil => simp
    | cons v vs =>
      rw [List.intercalate_cons_cons]
      simp only [List.filter_append, ih]
      simp

end LazyProxy.Text
