import LazyProxy.Proofs.Naming.Fusion
import LazyProxy.Proofs.Proxy.GeneratedSet

/-!
This module contains which accessors written by hand in snake case a plan recognizes as those of their
properties: the ones whose words come out again when the name of the accessor is cut into words.
-/

namespace LazyProxy

open Text

theorem foldCase_eq_self {name : String} (h : ∀ c ∈ name.toList, ¬c.isUpper) : foldCase name = name := by
  apply String.toList_injective
  rw [toList_foldCase]
  exact (List.map_congr_left fun c hc => toLower_of_not_isUpper (h c hc)).trans (List.map_id _)

theorem not_isUpper_of_mem_handWritten {k : AccessorKind} {ws : List String}
    (h : ∀ w ∈ ws, IsSmallWord w)
    : ∀ c ∈ (k.handWritten (join "_" ws)).toList, ¬c.isUpper := by
  intro c hc
  rw [AccessorKind.handWritten, String.toList_append, List.mem_append] at hc
  rcases hc with hc | hc
  . have hverb : (k.verb ++ "_").toList.all (!·.isUpper) := by
      cases k with
      | getter => decide
      | setter => decide
    simpa using List.all_eq_true.mp hverb c hc
  . rcases mem_of_mem_join hc with hc | ⟨w, hw, hc⟩
    . have hc : c = '_' := by simpa using hc
      rw [hc]
      decide
    . exact not_isUpper_of_isLower ((h w hw).right c hc)

namespace Descriptor

/-- The name of an accessor has no underscores, so what is written with them can only be its snake case.
-/
theorem provides_withMethods_handWritten_iff {d : Descriptor} (k : AccessorKind) {ws : List String}
    (hne : ws ≠ []) (h : ∀ w ∈ ws, IsSmallWord w)
    : (d.withMethods [k.handWritten (join "_" ws)]).Provides (k.nameFor (join "_" ws))
        ↔
      d.Provides (k.nameFor (join "_" ws))
        ∨
      k.handWritten (join "_" ws) = snakeCase (k.nameFor (join "_" ws)) := by
  have hsnake := snakeCase_nameFor_join k hne h
  have hfused : foldCase (k.handWritten (join "_" (fuseLetters ws)))
      = k.handWritten (join "_" (fuseLetters ws)) :=
    foldCase_eq_self (not_isUpper_of_mem_handWritten (isSmallWord_of_mem_fuseLetters h))
  have hname : k.handWritten (join "_" ws) ≠ foldCase (k.nameFor (join "_" ws)) := by
    intro heq
    have hmem : '_' ∈ (k.handWritten (join "_" ws)).toList := by simp [AccessorKind.handWritten]
    rw [heq, toList_foldCase, List.mem_map] at hmem
    rcases hmem with ⟨c, hc, hlower⟩
    rw [toLower_eq_underscore_iff] at hlower
    have halphanum := k.isAlphanum_of_mem_nameFor (isIdentifier_join hne h) c hc
    rw [hlower] at halphanum
    contradiction
  rw [provides_withMethods_iff, List.exists_mem_cons_iff]
  rw [foldCase_eq_self (not_isUpper_of_mem_handWritten h), hsnake, hfused]
  simp [hname]

/-- In snake case an accessor has the words of its property, and single letters that follow each other
become one word. So an accessor that is written by hand with the words of its property is recognized
unless there are such letters. -/
theorem recognizes_handWritten (ws : List String) (hne : ws ≠ []) (h : ∀ w ∈ ws, IsSmallWord w)
    (k : AccessorKind)
    : (snakeCase (k.nameFor (join "_" ws)) = k.handWritten (join "_" ws) ↔ LettersApart ws)
        ∧
      snakeCase (k.nameFor (join "_" ws)) = k.handWritten (join "_" (fuseLetters ws))
        ∧
      ∀ d : Descriptor,
        (d.withMethods [k.handWritten (join "_" ws)]).hasAccessor (k.nameFor (join "_" ws))
          ↔
        d.hasAccessor (k.nameFor (join "_" ws)) ∨ LettersApart ws := by
  have hiff := snakeCase_nameFor_join_eq_iff k hne h
  refine ⟨hiff, snakeCase_nameFor_join k hne h, fun d => ?_⟩
  rw [hasAccessor_iff, hasAccessor_iff, provides_withMethods_handWritten_iff k hne h, eq_comm, hiff]

/-- Two letters in front of a word become one. -/
theorem recognizes_handWritten_letters
    : let ws := ["a", "b", "cc"]
      let d : Descriptor := ⟨{ name := ⟨["Article"]⟩ }, []⟩
      ws ≠ [] ∧ (∀ w ∈ ws, IsSmallWord w)
        ∧
      snakeCase (getterName "a_b_cc") = "get_ab_cc" ∧ ¬LettersApart ws
        ∧
      ¬(d.withMethods ["get_a_b_cc"]).hasAccessor (getterName "a_b_cc") := by
  intro ws d
  have hne : ws ≠ [] := by decide
  have h : ∀ w ∈ ws, IsSmallWord w := by decide
  rcases recognizes_handWritten ws hne h .getter with ⟨-, hsnake, hrecognizes⟩
  have hapart : ¬LettersApart ws := by decide
  refine ⟨hne, h, hsnake, hapart, fun hmethod => ?_⟩
  cases (hrecognizes d).mp hmethod with
  | inl hown => contradiction
  | inr hws => exact hapart hws

end Descriptor

end LazyProxy
