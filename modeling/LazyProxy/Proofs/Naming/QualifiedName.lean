import LazyProxy.Naming.Identifier
import LazyProxy.Naming.QualifiedName
import LazyProxy.Proofs.Text.Split

/-!
This module contains the segments that a name has: at least one, and the short name is the last one.
-/

namespace LazyProxy.QualifiedName

open Text

theorem segments_eq {n : QualifiedName} (h : isIdentifier n.shortName)
    : n.segments = n.enclosing ++ [n.shortName] := by
  have hne : n.segments ≠ [] := by
    intro hnil
    simp only [shortName, hnil] at h
    contradiction
  rw [enclosing, shortName, List.getLast?_eq_some_getLast hne, Option.getD_some]
  exact (List.dropLast_concat_getLast hne).symm

theorem segments_ne_nil_of_parse? {written : String} {n : QualifiedName} (h : parse? written = some n)
    : n.segments ≠ [] := by
  unfold parse? at h
  dsimp only at h
  split at h
  . cases h
  . rw [Option.some.injEq] at h
    subst h
    simp only [ne_eq, List.map_eq_nil_iff]
    unfold pieces
    split
    . exact splitColons_ne_nil _
    . exact splitWhen_ne_nil _ _

theorem isIdentifier_shortName {written : String} {n : QualifiedName} (h : parse? written = some n)
    (hsegments : ∀ s ∈ n.segments, isIdentifier s)
    : isIdentifier n.shortName := by
  have hne := segments_ne_nil_of_parse? h
  rw [shortName, List.getLast?_eq_some_getLast hne, Option.getD_some]
  exact hsegments _ (List.getLast_mem hne)

end LazyProxy.QualifiedName
