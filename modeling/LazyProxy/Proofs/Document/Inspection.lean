import LazyProxy.Document.Inspection
import LazyProxy.Proofs.Outcome

/-!
This module contains what a successful inspection promises of names.
-/

namespace LazyProxy

/-- The names of a class level that inspection accepts. -/
structure ClassLevel.WellNamed (c : ClassLevel) : Prop where
  shortName : isIdentifier c.name.shortName
  enclosing : ∀ s ∈ c.name.enclosing, isIdentifier s
  properties : ∀ p ∈ c.properties, isIdentifier p.name

theorem ClassLevel.wellNamed_of_validate {c : ClassLevel} (h : c.validate = .ok ())
    : c.WellNamed := by
  unfold validate at h
  dsimp only at h
  split at h
  . contradiction
  . split at h
    . contradiction
    . next hshort =>
      split at h
      . contradiction
      . next henclosing =>
        split at h
        . contradiction
        . next hproperties =>
          constructor
          . simpa using hshort
          . simpa using henclosing
          . simpa using hproperties

theorem PropertySet.mem_insert {s : PropertySet} {p q : Property}
    (h : q ∈ (s.insert p).properties)
    : q ∈ s.properties ∨ q = p := by
  unfold insert at h
  split at h
  . exact Or.inl h
  . simpa using h

theorem PropertySet.mem_foldl_insert {s : PropertySet} {ps : List Property} {q : Property}
    (h : q ∈ (ps.foldl insert s).properties)
    : q ∈ s.properties ∨ q ∈ ps := by
  induction ps generalizing s with
  | nil => exact Or.inl h
  | cons p ps ih =>
    cases ih h with
    | inl h =>
      cases mem_insert h with
      | inl h => exact Or.inl h
      | inr h => simp [h]
    | inr h => simp [h]

namespace Descriptor

theorem collectFrom_wellNamed {d : Descriptor} {found s : PropertySet} {room : Nat}
    {levels : List ClassLevel} (h : d.collectFrom found room levels = .ok s)
    : (∀ c ∈ levels, c.WellNamed)
        ∧
      ∀ p ∈ s.properties, p ∈ found.properties ∨ isIdentifier p.name := by
  induction levels generalizing found room with
  | nil =>
    simp only [collectFrom, Except.ok.injEq] at h
    subst h
    exact ⟨by simp, fun p hp => Or.inl hp⟩
  | cons c cs ih =>
    cases room with
    | zero => contradiction
    | succ room =>
      unfold collectFrom at h
      rw [bind_eq_ok_iff] at h
      rcases h with ⟨⟨⟩, hvalidate, hrest⟩
      have hc := ClassLevel.wellNamed_of_validate hvalidate
      rcases ih hrest with ⟨hlevels, hproperties⟩
      refine ⟨by simpa [hc] using hlevels, ?_⟩
      intro p hp
      cases hproperties p hp with
      | inl h =>
        cases PropertySet.mem_foldl_insert h with
        | inl h => exact Or.inl h
        | inr h => exact Or.inr (hc.properties p h)
      | inr h => exact Or.inr h

variable {d : Descriptor} {s : PropertySet}

theorem wellNamed_of_collectProperties (h : d.collectProperties = .ok s)
    : ∀ c ∈ d.levels, c.WellNamed := by
  exact (collectFrom_wellNamed h).left

theorem isIdentifier_of_collectProperties (h : d.collectProperties = .ok s)
    : ∀ p ∈ s.properties, isIdentifier p.name := by
  intro p hp
  cases (collectFrom_wellNamed h).right p hp with
  | inl h => contradiction
  | inr h => exact h

end Descriptor

end LazyProxy
