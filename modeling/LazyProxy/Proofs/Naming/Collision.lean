import LazyProxy.Proofs.Naming.Fusion

/-!
This module contains when two properties have accessors of one name: if they differ in nothing but
the separators of their words and the case of their letters.
-/

namespace LazyProxy

open Text

theorem isWordSeparator_toUpper {c : Char} (h : isWordSeparator c = false)
    : isWordSeparator c.toUpper = false := by
  by_cases hc : c.isLower
  . apply isWordSeparator_eq_false_of_isAlphanum
    exact isAlphanum_toUpper (isAlphanum_of_isLower hc)
  . rwa [toUpper_of_not_isLower hc]

theorem toLower_toUpper (c : Char) : c.toUpper.toLower = c.toLower := by
  by_cases hc : c.isLower
  . rw [toLower_toUpper_of_isLower hc, toLower_of_not_isUpper (not_isUpper_of_isLower hc)]
  . rw [toUpper_of_not_isLower hc]

theorem map_toLower_capitalize (word : List Char)
    : (capitalize word).map Char.toLower = word.map Char.toLower := by
  cases word with
  | nil => rfl
  | cons c cs =>
    rw [capitalize, List.map_cons, List.map_cons, toLower_toUpper]

/-- The first word that is not empty gives the capital that all words together start with. -/
theorem capitalize_flatMap_capitalize (words : List (List Char))
    : capitalize (words.flatMap capitalize) = words.flatMap capitalize := by
  induction words with
  | nil => rfl
  | cons word words ih =>
    cases word with
    | nil => exact ih
    | cons c cs =>
      rw [List.flatMap_cons, capitalize, List.cons_append, capitalize,
        toUpper_of_not_isLower (not_isLower_toUpper c)]

theorem classify_append_separator {c : Char} (hc : isWordSeparator c) (a b : String)
    : classify (a ++ String.singleton c ++ b) = classify a ++ classify b := by
  apply String.toList_injective
  have happend : (a ++ String.singleton c ++ b).toList = a.toList ++ c :: b.toList := by simp
  rw [String.toList_append, toList_classify, toList_classify, toList_classify, happend,
    splitWhen_append_cons hc, List.flatMap_append]

theorem isWordSeparator_eq_false_of_mem_classify {property : String}
    : ∀ c ∈ (classify property).toList, isWordSeparator c = false := by
  intro c hc
  rcases exists_of_mem_classify hc with ⟨d, -, hd, rfl | rfl⟩
  . exact hd
  . exact isWordSeparator_toUpper hd

theorem classify_classify (property : String)
    : classify (classify property) = classify property := by
  apply String.toList_injective
  rw [toList_classify (classify property),
    splitWhen_eq_singleton isWordSeparator_eq_false_of_mem_classify, List.flatMap_singleton,
    toList_classify, capitalize_flatMap_capitalize]

/-- A property's name without the separators of its words. -/
def withoutSeparators (property : String) : String :=
  String.ofList (property.toList.filter (!isWordSeparator ·))

/-- Up to case, the words of a name are what is left without separators. -/
theorem foldCase_classify (property : String)
    : foldCase (classify property) = foldCase (withoutSeparators property) := by
  apply String.toList_injective
  rw [toList_foldCase, toList_foldCase, toList_classify, withoutSeparators, String.toList_ofList,
    ← flatten_splitWhen, List.map_flatMap, List.map_flatten, List.flatMap_def]
  simp only [map_toLower_capitalize]

/-- Accessors have one name, up to case, if they are of one kind and their properties differ in
nothing but separators and case. -/
theorem AccessorKind.foldCase_nameFor_eq_iff_withoutSeparators (k l : AccessorKind) (p q : String)
    : foldCase (k.nameFor p) = foldCase (l.nameFor q)
        ↔
      k = l ∧ foldCase (withoutSeparators p) = foldCase (withoutSeparators q) := by
  rw [← foldCase_classify, ← foldCase_classify]
  constructor
  . intro h
    have hkind := eq_of_foldCase_nameFor_eq h
    subst hkind
    exact ⟨rfl, k.foldCase_nameFor_eq_iff.mp h⟩
  . rintro ⟨rfl, h⟩
    exact k.foldCase_nameFor_eq_iff.mpr h

/-- Words are capitalized one by one, whatever separates them, and a name without separators that
starts with a capital stays as it is. So two properties have getters of one name up to case, or setters
of one name, if and only if they have the same characters up to case without their separators. No
getter has the name of a setter. -/
theorem classify_forgets_separators
    : (∀ (a b : String) (c : Char), isWordSeparator c →
        classify (a ++ String.singleton c ++ b) = classify a ++ classify b)
        ∧
      (∀ p, classify (classify p) = classify p)
        ∧
      (∀ p, ∀ c ∈ (classify p).toList, isWordSeparator c = false)
        ∧
      (∀ p q, foldCase (getterName p) = foldCase (getterName q)
        ↔ foldCase (withoutSeparators p) = foldCase (withoutSeparators q))
        ∧
      (∀ p q, foldCase (setterName p) = foldCase (setterName q)
        ↔ foldCase (withoutSeparators p) = foldCase (withoutSeparators q))
        ∧
      (∀ p q, foldCase (getterName p) ≠ foldCase (setterName q)) := by
  have hnames := AccessorKind.foldCase_nameFor_eq_iff_withoutSeparators
  refine ⟨fun a b c hc => classify_append_separator hc a b, classify_classify,
    fun p => isWordSeparator_eq_false_of_mem_classify, ?_, ?_, ?_⟩
  . intro p q
    exact (hnames .getter .getter p q).trans (and_iff_right rfl)
  . intro p q
    exact (hnames .setter .setter p q).trans (and_iff_right rfl)
  . intro p q h
    exact absurd ((hnames .getter .setter p q).mp h).left (by decide)

/-- Blanks outside ASCII separate words, and letters outside ASCII stay as they are. -/
theorem classify_forgets_separators_spaced
    : isWordSeparator '\u2003'
        ∧
      classify ("_due" ++ String.singleton '\u2003' ++ "été") = "Due" ++ "été"
        ∧
      foldCase (getterName "due-on") = foldCase (getterName "_dueOn") := by
  have hblank : isWordSeparator '\u2003' := by decide
  have hwords : classify "_due" = "Due" ∧ classify "été" = "été" := by decide
  have hhyphen : foldCase (withoutSeparators "due-on") = "dueon" := by decide
  have hunderscore : foldCase (withoutSeparators "_dueOn") = "dueon" := by decide
  rcases classify_forgets_separators with ⟨happend, -, -, hgetters, -, -⟩
  refine ⟨hblank, ?_, (hgetters "due-on" "_dueOn").mpr (hhyphen.trans hunderscore.symm)⟩
  rw [happend "_due" "été" _ hblank, hwords.left, hwords.right]

end LazyProxy
