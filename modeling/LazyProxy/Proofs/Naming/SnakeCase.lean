import LazyProxy.Naming.SnakeCase
import LazyProxy.Proofs.Naming.Accessor
import LazyProxy.Proofs.Text.Join

/-!
This module contains what snake case keeps of a name: its letters and digits, up to case.
-/

namespace LazyProxy

open Text

namespace SnakeCase

theorem flatten_words (ks : List Cluster) : (words ks).flatten = ks.filter (!isSeparator ·) := by
  induction ks with
  | nil => rfl
  | cons a rest ih =>
    unfold words
    split
    . next ha => simp [ha, ih]
    . next ha =>
      split
      . simp [ha, ih]
      . split
        . next hw =>
          rw [hw] at ih
          simp_all
        . next hw =>
          rw [hw] at ih
          simp_all

theorem flatten_map_lower {ws : List (List Cluster)} (h : IsAscii ws.flatten.flatten)
    : (ws.map fun w => lower w.flatten).flatten = ws.flatten.flatten.map Char.toLower := by
  induction ws with
  | nil => rfl
  | cons w ws ih =>
    simp only [List.flatten_cons, List.flatten_append] at h
    have hw : IsAscii w.flatten := fun c hc => h c (List.mem_append_left _ hc)
    have hws : IsAscii ws.flatten.flatten := fun c hc => h c (List.mem_append_right _ hc)
    simp only [List.map_cons, List.flatten_cons, List.flatten_append, List.map_append]
    rw [ih hws, lower_eq_map hw]

theorem flatten_words_clusters {cs : List Char} (h : IsAscii cs)
    : (words (clusters cs)).flatten.flatten = cs.filter (!isSeparator [·]) := by
  rw [flatten_words, clusters_eq_map h]
  induction cs with
  | nil => rfl
  | cons c cs ih =>
    rw [isAscii_cons] at h
    have := ih h.right
    by_cases hc : isSeparator [c]
    . simp_all
    . simp_all

theorem filter_chars {cs : List Char} (h : IsAscii cs)
    : (chars cs).filter (· != '_') = (cs.filter (!isSeparator [·])).map Char.toLower := by
  have hwords : IsAscii (words (clusters cs)).flatten.flatten := by
    rw [flatten_words_clusters h]
    intro c hc
    exact h c (List.mem_filter.mp hc).left
  unfold chars
  rw [filter_intercalate, flatten_map_lower hwords, flatten_words_clusters h]
  apply List.filter_eq_self.mpr
  intro c hc
  rw [List.mem_map] at hc
  rcases hc with ⟨d, hd, rfl⟩
  have hseparator := (List.mem_filter.mp hd).right
  rw [bne_iff_ne, Ne, toLower_eq_underscore_iff]
  rintro rfl
  contradiction

theorem isSeparator_eq {c : Char} (h : isIdentifierPart c) : isSeparator [c] = (c == '_') := by
  have hhyphen : c ≠ '-' := by
    rintro rfl
    contradiction
  have hspace : c ≠ ' ' := by
    rintro rfl
    contradiction
  rw [← beq_eq_false_iff_ne] at hhyphen hspace
  simp only [isSeparator, hhyphen, hspace, Bool.or_false]

theorem words_ne_nil (ks : List Cluster) : words ks ≠ [] := by
  cases ks with
  | nil => simp [words]
  | cons a rest =>
    unfold words
    split
    . simp
    . split
      . simp
      . split
        . simp
        . simp

theorem exists_words_cons {a : Cluster} (rest : List Cluster) (ha : isSeparator a = false)
    : ∃ w ws, words (a :: rest) = (a :: w) :: ws := by
  unfold words
  rw [if_neg (by simp [ha])]
  split
  . exact ⟨[], _, rfl⟩
  . split
    . next w ws _ => exact ⟨w, ws, rfl⟩
    . exact ⟨[], [], rfl⟩

theorem head?_lower {c : Char} (cs : List Char) (h : c.toNat < 128)
    : (lower (c :: cs)).head? = some c.toLower := by
  have hsigma : c ≠ 'Σ' := by
    rintro rfl
    exact absurd h (by decide)
  simp only [lower, lowerAfter, if_neg hsigma, lowerChar_eq h]
  rfl

/-- The snake case of a name starts as the name does. A separator becomes an underscore. -/
theorem head?_chars {c : Char} {cs : List Char} (h : IsAscii (c :: cs))
    : (chars (c :: cs)).head? = some (if isSeparator [c] then '_' else c.toLower) := by
  have hc := ((isAscii_cons c cs).mp h).left
  rw [chars, clusters_eq_map h, List.map_cons]
  split
  . next hseparator =>
    -- The first word is empty, and another one follows.
    rw [words, if_pos hseparator]
    cases hw : words (cs.map ([·])) with
    | nil => exact absurd hw (words_ne_nil _)
    | cons w ws => rfl
  . next hseparator =>
    rcases exists_words_cons (cs.map ([·])) (eq_false_of_ne_true hseparator) with ⟨w, ws, hw⟩
    have hhead := head?_lower w.flatten hc
    rw [hw, List.map_cons, List.flatten_cons, List.singleton_append]
    cases hlower : lower (c :: w.flatten) with
    | nil => simp [hlower] at hhead
    | cons d ds =>
      rw [intercalate_cons_left]
      simpa [hlower] using hhead

end SnakeCase

theorem isIdentifierPart_of_mem_snakeCase {name : String}
    (h : ∀ c ∈ name.toList, isIdentifierPart c)
    : ∀ c ∈ (snakeCase name).toList, isIdentifierPart c := by
  intro c hc
  have hascii := isAscii_of_isIdentifierPart h
  by_cases hunderscore : c = '_'
  . subst hunderscore
    decide
  . rw [snakeCase, String.toList_ofList] at hc
    -- All that snake case adds is underscores.
    have hfilter : c ∈ (SnakeCase.chars name.toList).filter (· != '_') := by
      simp [hc, hunderscore]
    rw [SnakeCase.filter_chars hascii, List.mem_map] at hfilter
    rcases hfilter with ⟨d, hd, rfl⟩
    exact isIdentifierPart_toLower (h d (List.mem_filter.mp hd).left)

theorem isIdentifier_snakeCase {name : String} (h : isIdentifier name)
    : isIdentifier (snakeCase name) := by
  have hascii := isAscii_of_isIdentifier h
  rcases isIdentifier_iff.mp h with ⟨⟨c, hhead, hc⟩, hparts⟩
  refine isIdentifier_iff.mpr ⟨?_, isIdentifierPart_of_mem_snakeCase hparts⟩
  rw [snakeCase, String.toList_ofList]
  cases hname : name.toList with
  | nil => simp [hname] at hhead
  | cons d ds =>
    rw [hname, List.head?_cons, Option.some.injEq] at hhead
    subst hhead
    rw [hname] at hascii
    refine ⟨_, SnakeCase.head?_chars hascii, ?_⟩
    split
    . rfl
    . exact isIdentifierStart_toLower hc

/-- A name without its underscores. -/
def withoutUnderscores (name : String) : String :=
  String.ofList (name.toList.filter (· != '_'))

theorem withoutUnderscores_eq_self {name : String} (h : ∀ c ∈ name.toList, c.isAlphanum)
    : withoutUnderscores name = name := by
  have hfilter : name.toList.filter (· != '_') = name.toList := by
    apply List.filter_eq_self.mpr
    intro c hc
    rw [bne_iff_ne]
    rintro rfl
    exact absurd (h _ hc) (by decide)
  rw [withoutUnderscores, hfilter, String.ofList_toList]

theorem withoutUnderscores_snakeCase {name : String} (h : ∀ c ∈ name.toList, isIdentifierPart c)
    : withoutUnderscores (snakeCase name) = foldCase (withoutUnderscores name) := by
  have hascii := isAscii_of_isIdentifierPart h
  have hfilter : name.toList.filter (!SnakeCase.isSeparator [·]) = name.toList.filter (· != '_') := by
    apply List.filter_congr
    intro c hc
    rw [SnakeCase.isSeparator_eq (h c hc)]
    rfl
  unfold withoutUnderscores snakeCase foldCase
  rw [String.toList_ofList, String.toList_ofList]
  rw [SnakeCase.filter_chars hascii, hfilter]

theorem AccessorKind.withoutUnderscores_snakeCase_nameFor (k : AccessorKind) {property : String}
    (h : isIdentifier property)
    : withoutUnderscores (snakeCase (k.nameFor property)) = foldCase (k.nameFor property) := by
  have halphanum := k.isAlphanum_of_mem_nameFor h
  rw [withoutUnderscores_snakeCase, withoutUnderscores_eq_self halphanum]
  intro c hc
  simp [isIdentifierPart, halphanum c hc]

end LazyProxy
