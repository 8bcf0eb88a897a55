import LazyProxy.Text.Casing
import LazyProxy.Text.Cluster

/-!
This module contains the facts about ASCII texts that names rely on: each character is a cluster of
its own, and the case of each letter changes by itself.
-/

namespace LazyProxy.Text

def IsAscii (cs : List Char) : Prop :=
  ∀ c ∈ cs, c.toNat < 128

theorem isAscii_cons (c : Char) (cs : List Char)
    : IsAscii (c :: cs) ↔ c.toNat < 128 ∧ IsAscii cs := by
  simp [IsAscii]

theorem attaches_eq_false {c d : Char} (hc : c.toNat < 128) (hd : d.toNat < 128)
    : attaches c d = false := by
  simp [attaches, isMark, isPrepended, hc, hd]

theorem clusters_eq_map {cs : List Char} (h : IsAscii cs) : clusters cs = cs.map ([·]) := by
  induction cs with
  | nil => rfl
  | cons c cs ih =>
    rw [isAscii_cons] at h
    specialize ih h.right
    cases cs with
    | nil => rfl
    | cons d ds =>
      have hd : d.toNat < 128 := h.right d (by simp)
      unfold clusters
      rw [ih]
      simp [attaches_eq_false h.left hd]

theorem lowerChar_eq {c : Char} (h : c.toNat < 128) : lowerChar c = [c.toLower] := by
  simp [lowerChar, h]

theorem lowerAfter_eq_map (before : List Char) {cs : List Char} (h : IsAscii cs)
    : lowerAfter before cs = cs.map Char.toLower := by
  induction cs generalizing before with
  | nil => rfl
  | cons c cs ih =>
    rw [isAscii_cons] at h
    have hsigma : c ≠ 'Σ' := by
      rintro rfl
      exact absurd h.left (by decide)
    simp only [lowerAfter, if_neg hsigma, lowerChar_eq h.left]
    rw [ih _ h.right]
    rfl

theorem lower_eq_map {cs : List Char} (h : IsAscii cs) : lower cs = cs.map Char.toLower := by
  unfold lower
  apply lowerAfter_eq_map
  exact h

theorem isUpper_iff_toNat (c : Char) : c.isUpper ↔ 65 ≤ c.toNat ∧ c.toNat ≤ 90 := by
  unfold Char.isUpper
  simp [UInt32.le_iff_toNat_le]

theorem isLower_iff_toNat (c : Char) : c.isLower ↔ 97 ≤ c.toNat ∧ c.toNat ≤ 122 := by
  unfold Char.isLower
  simp [UInt32.le_iff_toNat_le]

theorem toNat_toLower_of_isUpper {c : Char} (h : c.isUpper) : c.toLower.toNat = c.toNat + 32 := by
  have hc := (isUpper_iff_toNat c).mp h
  unfold Char.isUpper at h
  rw [decide_eq_true_iff] at h
  unfold Char.toLower
  rw [dif_pos h, Char.toNat_mk, UInt32.toNat_add]
  simp
  omega

theorem toLower_of_not_isUpper {c : Char} (h : ¬c.isUpper) : c.toLower = c := by
  unfold Char.isUpper at h
  rw [decide_eq_true_iff] at h
  unfold Char.toLower
  rw [dif_neg h]

theorem toLower_toLower (c : Char) : c.toLower.toLower = c.toLower := by
  by_cases hc : c.isUpper
  . have hlower := toNat_toLower_of_isUpper hc
    rw [isUpper_iff_toNat] at hc
    apply toLower_of_not_isUpper
    rw [isUpper_iff_toNat]
    omega
  . rw [toLower_of_not_isUpper hc, toLower_of_not_isUpper hc]

theorem toNat_toUpper_of_isLower {c : Char} (h : c.isLower) : c.toUpper.toNat = c.toNat - 32 := by
  have hc := (isLower_iff_toNat c).mp h
  unfold Char.isLower at h
  rw [Bool.and_eq_true, decide_eq_true_iff, decide_eq_true_iff] at h
  unfold Char.toUpper
  rw [dif_pos h, Char.toNat_mk, UInt32.toNat_add]
  simp
  omega

theorem toUpper_of_not_isLower {c : Char} (h : ¬c.isLower) : c.toUpper = c := by
  unfold Char.isLower at h
  rw [Bool.and_eq_true, decide_eq_true_iff, decide_eq_true_iff] at h
  unfold Char.toUpper
  rw [dif_neg h]

theorem isAlpha_of_isUpper {c : Char} (h : c.isUpper) : c.isAlpha := by
  unfold Char.isAlpha
  rw [h, Bool.true_or]

theorem isAlpha_of_isLower {c : Char} (h : c.isLower) : c.isAlpha := by
  unfold Char.isAlpha
  rw [h, Bool.or_true]

theorem isAlphanum_of_isUpper {c : Char} (h : c.isUpper) : c.isAlphanum := by
  unfold Char.isAlphanum Char.isAlpha
  rw [h, Bool.true_or, Bool.true_or]

theorem isAlphanum_of_isLower {c : Char} (h : c.isLower) : c.isAlphanum := by
  unfold Char.isAlphanum Char.isAlpha
  rw [h, Bool.or_true, Bool.true_or]

theorem isAlphanum_toUpper {c : Char} (h : c.isAlphanum) : c.toUpper.isAlphanum := by
  by_cases hc : c.isLower
  . have hupper := toNat_toUpper_of_isLower hc
    rw [isLower_iff_toNat] at hc
    apply isAlphanum_of_isUpper
    rw [isUpper_iff_toNat]
    omega
  . rwa [toUpper_of_not_isLower hc]

theorem isAlphanum_toLower {c : Char} (h : c.isAlphanum) : c.toLower.isAlphanum := by
  by_cases hc : c.isUpper
  . have hlower := toNat_toLower_of_isUpper hc
    rw [isUpper_iff_toNat] at hc
    apply isAlphanum_of_isLower
    rw [isLower_iff_toNat]
    omega
  . rwa [toLower_of_not_isUpper hc]

theorem isAlpha_toLower {c : Char} (h : c.isAlpha) : c.toLower.isAlpha := by
  by_cases hc : c.isUpper
  . have hlower := toNat_toLower_of_isUpper hc
    rw [isUpper_iff_toNat] at hc
    unfold Char.isAlpha
    rw [Bool.or_eq_true, isLower_iff_toNat c.toLower]
    omega
  . rwa [toLower_of_not_isUpper hc]

theorem toLower_eq_underscore_iff (c : Char) : c.toLower = '_' ↔ c = '_' := by
  constructor
  . intro h
    by_cases hc : c.isUpper
    . have hlower := toNat_toLower_of_isUpper hc
      have hunderscore : '_'.toNat = 95 := rfl
      rw [isUpper_iff_toNat] at hc
      rw [h] at hlower
      omega
    . rwa [toLower_of_not_isUpper hc] at h
  . rintro rfl
    rfl

end LazyProxy.Text
