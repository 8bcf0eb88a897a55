import LazyProxy.Naming.Identifier
import LazyProxy.Proofs.Text.Ascii
import LazyProxy.Text.Blank

/-!
This module contains which characters identifiers are made of.
-/

namespace LazyProxy

open Text

theorem toNat_lt_of_isAlphanum {c : Char} (h : c.isAlphanum) : c.toNat < 128 := by
  unfold Char.isAlphanum Char.isAlpha at h
  simp only [Bool.or_eq_true] at h
  rcases h with (h | h) | h
  . rw [isUpper_iff_toNat] at h
    omega
  . rw [isLower_iff_toNat] at h
    omega
  . rw [Char.isDigit_iff_toNat] at h
    have : '9'.toNat = 57 := rfl
    omega

theorem toNat_lt_of_isIdentifierPart {c : Char} (h : isIdentifierPart c) : c.toNat < 128 := by
  simp only [isIdentifierPart, Bool.or_eq_true, beq_iff_eq] at h
  cases h with
  | inl h => exact toNat_lt_of_isAlphanum h
  | inr h =>
    subst h
    decide

/-- Identifiers are made of no blanks. -/
theorem isBlank_eq_false_of_isIdentifierPart {c : Char} (h : isIdentifierPart c)
    : isBlank c = false := by
  have hunderscore : c = '_' → c.toNat = 95 := by
    rintro rfl
    rfl
  have hzero : '0'.toNat = 48 := rfl
  have hnine : '9'.toNat = 57 := rfl
  unfold isIdentifierPart Char.isAlphanum Char.isAlpha at h
  simp only [Bool.or_eq_true, beq_iff_eq, isUpper_iff_toNat, isLower_iff_toNat,
    Char.isDigit_iff_toNat] at h
  have h := h.imp_right hunderscore
  simp only [isBlank, Bool.or_eq_false_iff, Bool.and_eq_false_imp, beq_eq_false_iff_ne,
    decide_eq_true_eq, decide_eq_false_iff_not]
  omega

theorem isIdentifierPart_toLower {c : Char} (h : isIdentifierPart c)
    : isIdentifierPart c.toLower := by
  simp only [isIdentifierPart, Bool.or_eq_true, beq_iff_eq] at *
  cases h with
  | inl h => exact Or.inl (isAlphanum_toLower h)
  | inr h => exact Or.inr ((toLower_eq_underscore_iff c).mpr h)

theorem isIdentifierPart_of_isIdentifierStart {c : Char} (h : isIdentifierStart c)
    : isIdentifierPart c := by
  simp only [isIdentifierStart, isIdentifierPart, Char.isAlphanum, Bool.or_eq_true] at *
  cases h with
  | inl h => exact Or.inl (Or.inl h)
  | inr h => exact Or.inr h

theorem isIdentifierStart_toLower {c : Char} (h : isIdentifierStart c)
    : isIdentifierStart c.toLower := by
  simp only [isIdentifierStart, Bool.or_eq_true, beq_iff_eq] at *
  cases h with
  | inl h => exact Or.inl (isAlpha_toLower h)
  | inr h => exact Or.inr ((toLower_eq_underscore_iff c).mpr h)

theorem isIdentifierPart_of_mem {name : String} (h : isIdentifier name)
    : ∀ c ∈ name.toList, isIdentifierPart c := by
  unfold isIdentifier at h
  split at h
  . contradiction
  . next hname =>
    rw [hname]
    simp only [Bool.and_eq_true, List.all_eq_true] at h
    intro c hc
    cases List.mem_cons.mp hc with
    | inl hc =>
      subst hc
      exact isIdentifierPart_of_isIdentifierStart h.left
    | inr hc => exact h.right c hc

theorem not_mem_of_isIdentifier {name : String} {a : Char} (h : isIdentifier name)
    (ha : isIdentifierPart a = false)
    : a ∉ name.toList := by
  intro hmem
  rw [isIdentifierPart_of_mem h a hmem] at ha
  contradiction

theorem isIdentifier_iff {name : String}
    : isIdentifier name
        ↔
      (∃ c, name.toList.head? = some c ∧ isIdentifierStart c)
        ∧
      ∀ c ∈ name.toList, isIdentifierPart c := by
  constructor
  . intro h
    refine ⟨?_, isIdentifierPart_of_mem h⟩
    unfold isIdentifier at h
    split at h
    . contradiction
    . next hname =>
      rw [Bool.and_eq_true] at h
      exact ⟨_, by rw [hname]; rfl, h.left⟩
  . rintro ⟨⟨c, hhead, hc⟩, hparts⟩
    unfold isIdentifier
    split
    . next hname => simp [hname] at hhead
    . next hname =>
      rw [hname, List.head?_cons, Option.some.injEq] at hhead
      subst hhead
      simp_all

theorem ne_empty_of_isIdentifier {name : String} (h : isIdentifier name) : name ≠ "" := by
  rintro rfl
  contradiction

theorem isAscii_of_isIdentifierPart {cs : List Char} (h : ∀ c ∈ cs, isIdentifierPart c)
    : IsAscii cs := by
  intro c hc
  apply toNat_lt_of_isIdentifierPart
  exact h c hc

theorem isAscii_of_isIdentifier {name : String} (h : isIdentifier name) : IsAscii name.toList := by
  apply isAscii_of_isIdentifierPart
  exact isIdentifierPart_of_mem h

end LazyProxy
