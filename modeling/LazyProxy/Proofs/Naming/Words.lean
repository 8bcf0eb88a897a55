import LazyProxy.Proofs.Naming.SnakeCase

/-!
This module contains which accessors have a verb and one more word in snake case: those of properties
whose name is that word with a capital, or in capitals throughout.
-/

namespace LazyProxy

open Text

theorem not_isLower_toUpper (c : Char) : ¬c.toUpper.isLower := by
  intro h
  by_cases hc : c.isLower
  . have hupper := toNat_toUpper_of_isLower hc
    rw [isLower_iff_toNat] at h hc
    omega
  . rw [toUpper_of_not_isLower hc] at h
    exact hc h

theorem not_isUpper_of_isLower {c : Char} (h : c.isLower) : ¬c.isUpper := by
  rw [isLower_iff_toNat] at h
  rw [isUpper_iff_toNat]
  omega

theorem isLower_toLower_of_isUpper {c : Char} (h : c.isUpper) : c.toLower.isLower := by
  have hlower := toNat_toLower_of_isUpper h
  rw [isUpper_iff_toNat] at h
  rw [isLower_iff_toNat]
  omega

theorem toUpper_toLower_of_isUpper {c : Char} (h : c.isUpper) : c.toLower.toUpper = c := by
  have hlower := toNat_toLower_of_isUpper h
  have hupper := toNat_toUpper_of_isLower (isLower_toLower_of_isUpper h)
  rw [← Char.toNat_inj]
  omega

/-- Letters are what has a small letter as its lower case. -/
theorem isUpper_or_isLower_of_isLower_toLower {c : Char} (h : c.toLower.isLower)
    : c.isUpper ∨ c.isLower := by
  by_cases hc : c.isUpper
  . exact Or.inl hc
  . rw [toLower_of_not_isUpper hc] at h
    exact Or.inr h

theorem map_toLower_eq_self {cs : List Char} (h : ∀ c ∈ cs, c.isLower)
    : cs.map Char.toLower = cs :=
  List.map_congr_left (fun c hc => toLower_of_not_isUpper (not_isUpper_of_isLower (h c hc)))
    |>.trans (List.map_id cs)

theorem upper_singleton {c : Char} (h : c.toNat < 128) : upper [c] = [c.toUpper] := by
  rw [upper, List.flatMap_singleton, upperChar, if_pos h]

theorem lower_singleton {c : Char} (h : c.toNat < 128) : lower [c] = [c.toLower] :=
  lower_eq_map ((isAscii_cons c []).mpr ⟨h, by simp [IsAscii]⟩)

namespace SnakeCase

theorem isSeparator_singleton_of_isAlphanum {c : Char} (h : c.isAlphanum)
    : isSeparator [c] = false := by
  rw [isSeparator_eq (by simp [isIdentifierPart, h]), beq_eq_false_iff_ne]
  rintro rfl
  exact absurd h (by decide)

section Letters

variable {c : Char} (h : c.toNat < 128)

include h

theorem isUpper_singleton : isUpper [c] = c.isUpper := by
  rw [isUpper, upper_singleton h, lower_singleton h, Bool.eq_iff_iff]
  simp only [Bool.and_eq_true, bne_iff_ne, beq_iff_eq, List.cons.injEq, and_true, Ne]
  constructor
  . rintro ⟨hne, hupper⟩
    by_contra hc
    rw [hupper, toLower_of_not_isUpper hc] at hne
    contradiction
  . intro hc
    have hupper : c.toUpper = c := toUpper_of_not_isLower fun hlower =>
      not_isUpper_of_isLower hlower hc
    refine ⟨?_, hupper⟩
    rw [hupper]
    intro heq
    exact not_isUpper_of_isLower (isLower_toLower_of_isUpper hc) (heq ▸ hc)

theorem isLower_singleton : isLower [c] = c.isLower := by
  rw [isLower, upper_singleton h, lower_singleton h, Bool.eq_iff_iff]
  simp only [Bool.and_eq_true, bne_iff_ne, beq_iff_eq, List.cons.injEq, and_true, Ne]
  constructor
  . rintro ⟨hne, hlower⟩
    by_contra hc
    rw [hlower, toUpper_of_not_isLower hc] at hne
    contradiction
  . intro hc
    have hlower : c.toLower = c := toLower_of_not_isUpper (not_isUpper_of_isLower hc)
    refine ⟨?_, hlower⟩
    rw [hlower]
    intro heq
    rw [← heq] at hc
    exact not_isLower_toUpper c hc

end Letters

/-- What follows the first word is cut as it would be by itself. -/
theorem words_of_words_append {w ks : List Cluster} {ws : List (List Cluster)}
    (hks : ∀ k ∈ ks, isSeparator k = false) (hws : ws ≠ []) (h : words (w ++ ks) = w :: ws)
    : words ks = ws := by
  induction w with
  | nil =>
    cases ks with
    | nil =>
      rw [List.nil_append, words, List.cons.injEq] at h
      exact absurd h.right.symm hws
    | cons a rest =>
      rcases exists_words_cons rest (hks a List.mem_cons_self) with ⟨v, vs, hv⟩
      rw [List.nil_append, hv] at h
      simp at h
  | cons a w ih =>
    rw [List.cons_append, words] at h
    split at h
    . simp at h
    . split at h
      . rw [List.cons.injEq, List.cons.injEq] at h
        rw [← h.left.right, List.nil_append] at h
        exact h.right
      . split at h
        . next v vs hv =>
          simp only [List.cons.injEq, true_and] at h
          rw [h.left, h.right] at hv
          exact ih hv
        . next hv => exact absurd hv (words_ne_nil _)

/-- A single word has no end before its last letter. -/
theorem endsWord_eq_false_of_words {a : Cluster} {rest : List Cluster}
    (h : words (a :: rest) = [a :: rest])
    : endsWord a rest = false ∧ (rest = [] ∨ words rest = [rest]) := by
  rw [words] at h
  split at h
  . simp at h
  . split at h
    . rw [List.cons.injEq] at h
      exact absurd h.right (words_ne_nil rest)
    . next hends =>
      refine ⟨eq_false_of_ne_true hends, ?_⟩
      split at h
      . next v vs hv =>
        simp only [List.cons.injEq, true_and] at h
        rw [h.left, h.right] at hv
        exact Or.inr hv
      . next hv => exact absurd hv (words_ne_nil rest)

/-- A word that goes on in small letters has no others. -/
theorem forall_isLower_of_words {c : Char} {cs : List Char} (hc : c.isLower)
    (hcs : ∀ d ∈ cs, d.isUpper ∨ d.isLower)
    (h : words ((c :: cs).map ([·])) = [(c :: cs).map ([·])])
    : ∀ d ∈ cs, d.isLower := by
  induction cs generalizing c with
  | nil => simp
  | cons d ds ih =>
    rw [List.forall_mem_cons] at hcs
    rcases endsWord_eq_false_of_words h with ⟨hends, hwords⟩
    have hd : d.isLower := by
      refine hcs.left.resolve_left fun hd => ?_
      have hascii := toNat_lt_of_isAlphanum (isAlphanum_of_isUpper hd)
      have hc' := toNat_lt_of_isAlphanum (isAlphanum_of_isLower hc)
      simp [endsWord, isLower_singleton hc', isUpper_singleton hascii, hc, hd] at hends
    exact List.forall_mem_cons.mpr ⟨hd, ih hd hcs.right (hwords.resolve_left (by simp))⟩

/-- A word that starts with two capitals has no small letters. -/
theorem forall_isUpper_of_words {c d : Char} {cs : List Char} (hc : c.isUpper) (hd : d.isUpper)
    (hcs : ∀ e ∈ cs, e.isUpper ∨ e.isLower)
    (h : words ((c :: d :: cs).map ([·])) = [(c :: d :: cs).map ([·])])
    : ∀ e ∈ cs, e.isUpper := by
  induction cs generalizing c d with
  | nil => simp
  | cons e es ih =>
    rw [List.forall_mem_cons] at hcs
    rcases endsWord_eq_false_of_words h with ⟨hends, hwords⟩
    have he : e.isUpper := by
      refine hcs.left.resolve_right fun he => ?_
      have hc' := toNat_lt_of_isAlphanum (isAlphanum_of_isUpper hc)
      have hd' := toNat_lt_of_isAlphanum (isAlphanum_of_isUpper hd)
      have he' := toNat_lt_of_isAlphanum (isAlphanum_of_isLower he)
      simp [endsWord, isUpper_singleton hc', isUpper_singleton hd', isLower_singleton he', hc, hd,
        he] at hends
    exact List.forall_mem_cons.mpr ⟨he, ih hd he hcs.right (hwords.resolve_left (by simp))⟩

/-- A word that does not start with a small letter is written with a capital or in capitals. -/
theorem eq_capitalize_or_eq_map_toUpper {cs v : List Char} (hcs : ∀ c ∈ cs, c.isUpper ∨ c.isLower)
    (hhead : ∀ c, cs.head? = some c → ¬c.isLower) (hlower : cs.map Char.toLower = v)
    (h : words (cs.map ([·])) = [cs.map ([·])])
    : cs = capitalize v ∨ cs = v.map Char.toUpper := by
  subst hlower
  cases cs with
  | nil => exact Or.inl rfl
  | cons c cs =>
    rw [List.forall_mem_cons] at hcs
    have hc : c.isUpper := hcs.left.resolve_right (hhead c rfl)
    have hcupper := toUpper_toLower_of_isUpper hc
    cases cs with
    | nil => exact Or.inl (by rw [List.map_cons, capitalize, hcupper]; rfl)
    | cons d ds =>
      have hds := (List.forall_mem_cons.mp hcs.right).right
      have hrest := (endsWord_eq_false_of_words h).right.resolve_left (by simp)
      cases (List.forall_mem_cons.mp hcs.right).left with
      | inl hd =>
        have hupper := forall_isUpper_of_words hc hd hds h
        refine Or.inr ?_
        rw [List.map_map]
        refine (List.map_id _).symm.trans (List.map_congr_left fun e he => ?_)
        have he : e.isUpper := by
          rcases List.mem_cons.mp he with rfl | he
          . exact hc
          . rcases List.mem_cons.mp he with rfl | he
            . exact hd
            . exact hupper e he
        exact (toUpper_toLower_of_isUpper he).symm
      | inr hd =>
        have hsmall : ∀ e ∈ d :: ds, e.isLower :=
          List.forall_mem_cons.mpr ⟨hd, forall_isLower_of_words hd hds hrest⟩
        refine Or.inl ?_
        rw [List.map_cons, capitalize, hcupper, map_toLower_eq_self hsmall]

theorem flatten_map_singleton (cs : List Char) : (cs.map ([·])).flatten = cs := by
  rw [← List.flatMap_def, List.flatMap_singleton']

/-- A name of two words in snake case is cut where the underscore stands. -/
theorem exists_words_of_chars {cs u v : List Char} (hcs : ∀ c ∈ cs, c.isAlphanum) (hu : '_' ∉ u)
    (hv : '_' ∉ v) (h : chars cs = u ++ '_' :: v)
    : ∃ w z, cs = w ++ z ∧ words (cs.map ([·])) = [w.map ([·]), z.map ([·])]
        ∧
      w.map Char.toLower = u ∧ z.map Char.toLower = v := by
  have hascii : IsAscii cs := fun c hc => toNat_lt_of_isAlphanum (hcs c hc)
  have hflatten : (words (cs.map ([·]))).flatten = cs.map ([·]) := by
    rw [flatten_words, List.filter_eq_self, List.forall_mem_map]
    intro c hc
    rw [isSeparator_singleton_of_isAlphanum (hcs c hc)]
    rfl
  have hmem : ∀ w ∈ words (cs.map ([·])), ∀ c ∈ w.flatten, c ∈ cs := by
    intro w hw c hc
    rcases List.mem_flatten.mp hc with ⟨k, hk, hck⟩
    have hk : k ∈ (words (cs.map ([·]))).flatten := List.mem_flatten.mpr ⟨w, hw, hk⟩
    rw [hflatten, List.mem_map] at hk
    rcases hk with ⟨d, hd, rfl⟩
    rwa [List.mem_singleton.mp hck]
  have hlower : ∀ w ∈ words (cs.map ([·])), lower w.flatten = w.flatten.map Char.toLower :=
    fun w hw => lower_eq_map fun c hc => hascii c (hmem w hw c hc)
  have hunderscore : ∀ p ∈ (words (cs.map ([·]))).map fun w => lower w.flatten, '_' ∉ p := by
    rw [List.forall_mem_map]
    intro w hw hp
    rw [hlower w hw, List.mem_map] at hp
    rcases hp with ⟨c, hc, heq⟩
    rw [toLower_eq_underscore_iff] at heq
    rw [heq] at hc
    exact absurd (hcs _ (hmem w hw _ hc)) (by decide)
  have hsplit := congrArg (splitWhen (· == '_')) h
  rw [chars, clusters_eq_map hascii, splitWhen_intercalate hunderscore
    (by simpa using words_ne_nil _), splitWhen_append_cons rfl, splitWhen_of_not_mem hu,
    splitWhen_of_not_mem hv] at hsplit
  rcases hws : words (cs.map ([·])) with _ | ⟨w, _ | ⟨z, _ | ⟨_, _⟩⟩⟩
  . simp [hws] at hsplit
  . simp [hws] at hsplit
  . rw [hws, List.forall_mem_cons, List.forall_mem_singleton] at hlower
    rw [hws] at hflatten hsplit
    simp only [List.map_cons, List.map_nil, hlower, List.singleton_append, List.cons.injEq,
      and_true] at hsplit
    rw [List.flatten_cons, List.flatten_singleton, eq_comm, List.map_eq_append_iff] at hflatten
    rcases hflatten with ⟨w, z, hcs, rfl, rfl⟩
    rw [flatten_map_singleton, flatten_map_singleton] at hsplit
    exact ⟨w, z, hcs, rfl, hsplit.left, hsplit.right⟩
  . simp [hws] at hsplit

end SnakeCase

/-- No name of an accessor goes on with a small letter behind its verb. -/
theorem not_isLower_of_head?_classify {property : String} {c : Char}
    (h : (classify property).toList.head? = some c)
    : ¬c.isLower := by
  rw [toList_classify] at h
  generalize splitWhen isWordSeparator property.toList = ws at h
  induction ws with
  | nil => contradiction
  | cons w ws ih =>
    cases w with
    | nil => exact ih h
    | cons d ds =>
      rw [List.flatMap_cons, capitalize, List.cons_append, List.head?_cons, Option.some.injEq] at h
      rw [← h]
      exact not_isLower_toUpper d

/-- An accessor that is its verb and one word in snake case is named after that word, with a capital
or in capitals. -/
theorem AccessorKind.classify_eq_of_snakeCase (k : AccessorKind) {property : String} {v : List Char}
    (hproperty : isIdentifier property) (hv : ∀ c ∈ v, c.isLower)
    (h : (snakeCase (k.nameFor property)).toList = k.verb.toList ++ '_' :: v)
    : (classify property).toList = capitalize v
        ∨
      (classify property).toList = v.map Char.toUpper := by
  have hname : (k.nameFor property).toList = k.verb.toList ++ (classify property).toList := by
    rw [nameFor_eq, String.toList_append]
  have halphanum := k.isAlphanum_of_mem_nameFor hproperty
  have hverb : '_' ∉ k.verb.toList := by
    cases k with
    | getter => decide
    | setter => decide
  have hunderscore : '_' ∉ v := fun hmem => absurd (hv _ hmem) (by decide)
  rw [snakeCase, String.toList_ofList] at h
  rcases SnakeCase.exists_words_of_chars halphanum hverb hunderscore h with
    ⟨w, z, hcut, hwords, hw, hz⟩
  have hlength : w.length = k.verb.toList.length := by rw [← hw, List.length_map]
  rcases List.append_inj (hcut.symm.trans hname) hlength with ⟨-, rfl⟩
  have hseparator : ∀ c ∈ (classify property).toList.map ([·]), SnakeCase.isSeparator c = false :=
    List.forall_mem_map.mpr fun c hc =>
      SnakeCase.isSeparator_singleton_of_isAlphanum (isAlphanum_of_mem_classify hproperty c hc)
  rw [hcut, List.map_append] at hwords
  apply SnakeCase.eq_capitalize_or_eq_map_toUpper
  . intro c hc
    apply isUpper_or_isLower_of_isLower_toLower
    exact hv _ (hz ▸ List.mem_map_of_mem hc)
  . exact fun c => not_isLower_of_head?_classify
  . exact hz
  . exact SnakeCase.words_of_words_append hseparator (by simp) hwords

end LazyProxy
