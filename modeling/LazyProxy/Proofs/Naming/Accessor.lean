import LazyProxy.Naming.Accessor
import LazyProxy.Proofs.Naming.Identifier
import LazyProxy.Proofs.Text.Split

/-!
This module contains how the names of accessors compare: getters never meet setters, and the name of
an accessor of an identifier is letters and digits alone.
-/

namespace LazyProxy

open Text

inductive AccessorKind where
  | getter
  | setter
deriving DecidableEq

namespace AccessorKind

def verb : AccessorKind → String
  | getter => "get"
  | setter => "set"

/-- The name of the accessor of a kind for a property's name. -/
def nameFor : AccessorKind → String → String
  | getter => getterName
  | setter => setterName

theorem nameFor_eq (k : AccessorKind) (property : String)
    : k.nameFor property = k.verb ++ classify property := by
  cases k with
  | getter => rfl
  | setter => rfl

end AccessorKind

theorem toList_foldCase (name : String)
    : (foldCase name).toList = name.toList.map Char.toLower := by
  simp [foldCase]

theorem foldCase_append (a b : String) : foldCase (a ++ b) = foldCase a ++ foldCase b := by
  simp [foldCase]

theorem isIdentifier_foldCase {name : String} (h : isIdentifier name)
    : isIdentifier (foldCase name) := by
  unfold isIdentifier at *
  rw [toList_foldCase]
  cases hname : name.toList with
  | nil => simp [hname] at h
  | cons c cs =>
    simp only [hname, Bool.and_eq_true, List.all_eq_true] at h
    simp only [List.map_cons, Bool.and_eq_true, List.all_eq_true, List.mem_map]
    refine ⟨isIdentifierStart_toLower h.left, ?_⟩
    rintro _ ⟨d, hd, rfl⟩
    exact isIdentifierPart_toLower (h.right d hd)

theorem AccessorKind.eq_of_foldCase_nameFor_eq {k l : AccessorKind} {p q : String}
    (h : foldCase (k.nameFor p) = foldCase (l.nameFor q))
    : k = l := by
  rw [nameFor_eq, nameFor_eq, foldCase_append, foldCase_append] at h
  have hlist := congrArg String.toList h
  rw [String.toList_append, String.toList_append] at hlist
  have hget : (foldCase "get").toList = ['g', 'e', 't'] := rfl
  have hset : (foldCase "set").toList = ['s', 'e', 't'] := rfl
  -- The two verbs differ in their first letter.
  cases k with
  | getter =>
    cases l with
    | getter => rfl
    | setter => simp [verb, hget, hset] at hlist
  | setter =>
    cases l with
    | getter => simp [verb, hget, hset] at hlist
    | setter => rfl

theorem AccessorKind.foldCase_nameFor_eq_iff (k : AccessorKind) {p q : String}
    : foldCase (k.nameFor p) = foldCase (k.nameFor q)
        ↔
      foldCase (classify p) = foldCase (classify q) := by
  rw [nameFor_eq, nameFor_eq, foldCase_append, foldCase_append, String.append_right_inj]

theorem toList_classify (property : String)
    : (classify property).toList
        =
      (splitWhen isWordSeparator property.toList).flatMap capitalize := by
  rw [classify, String.toList_ofList]

theorem mem_capitalize {word : List Char} {c : Char} (h : c ∈ capitalize word)
    : ∃ d ∈ word, c = d ∨ c = d.toUpper := by
  cases word with
  | nil => contradiction
  | cons d ds =>
    cases List.mem_cons.mp h with
    | inl h => exact ⟨d, by simp, Or.inr h⟩
    | inr h => exact ⟨c, by simp [h], Or.inl rfl⟩

/-- What follows the verb in the name of an accessor comes from the words of its property's name. -/
theorem exists_of_mem_classify {property : String} {c : Char} (h : c ∈ (classify property).toList)
    : ∃ d ∈ property.toList, isWordSeparator d = false ∧ (c = d ∨ c = d.toUpper) := by
  rw [toList_classify, List.mem_flatMap] at h
  rcases h with ⟨word, hword, hc⟩
  rcases mem_capitalize hc with ⟨d, hd, hcd⟩
  rcases mem_of_mem_splitWhen hword hd with ⟨hmem, hseparator⟩
  exact ⟨d, hmem, hseparator, hcd⟩

theorem isAlphanum_of_mem_classify {property : String} (h : isIdentifier property)
    : ∀ c ∈ (classify property).toList, c.isAlphanum := by
  intro c hc
  rcases exists_of_mem_classify hc with ⟨d, hd, hseparator, hcd⟩
  have hpart := isIdentifierPart_of_mem h d hd
  have halphanum : d.isAlphanum := by
    simp only [isIdentifierPart, isWordSeparator, Bool.or_eq_true, Bool.or_eq_false_iff] at *
    simp_all
  cases hcd with
  | inl hcd => rwa [hcd]
  | inr hcd =>
    rw [hcd]
    exact isAlphanum_toUpper halphanum

theorem AccessorKind.isAlphanum_of_mem_nameFor (k : AccessorKind) {property : String}
    (h : isIdentifier property)
    : ∀ c ∈ (k.nameFor property).toList, c.isAlphanum := by
  intro c hc
  rw [nameFor_eq, String.toList_append, List.mem_append] at hc
  cases hc with
  | inl hc =>
    have hverb : k.verb.toList.all Char.isAlphanum := by
      cases k with
      | getter => rfl
      | setter => rfl
    exact List.all_eq_true.mp hverb c hc
  | inr hc => exact isAlphanum_of_mem_classify h c hc

theorem AccessorKind.isIdentifier_nameFor (k : AccessorKind) {property : String}
    (h : isIdentifier property)
    : isIdentifier (k.nameFor property) := by
  rw [isIdentifier_iff]
  constructor
  . rw [nameFor_eq, String.toList_append]
    cases k with
    | getter => exact ⟨'g', rfl, rfl⟩
    | setter => exact ⟨'s', rfl, rfl⟩
  . intro c hc
    simp [isIdentifierPart, k.isAlphanum_of_mem_nameFor h c hc]

end LazyProxy
