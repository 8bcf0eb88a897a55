import Mathlib.Data.Set.Basic
import LazyProxy.Proofs.Proxy.Plan

/-!
This module contains the set of names that a plan generates, up to case. The order of the properties
has no part in it, further methods only take from it, and a type that has them all needs no more.
-/

namespace LazyProxy.Descriptor

/-- The names that the plan for properties generates, in lower case. -/
def generatedSet (d : Descriptor) (s : PropertySet) : Set String :=
  { f | ∃ n ∈ generatedNames (d.plan s), foldCase n = f }

/-- The type with further methods of its own. -/
def withMethods (d : Descriptor) (methods : List String) : Descriptor :=
  { d with own := { d.own with methods := d.own.methods ++ methods } }

variable {d : Descriptor} {s : PropertySet}

theorem provides_withMethods_iff (methods : List String) (name : String)
    : (d.withMethods methods).Provides name
        ↔
      d.Provides name
        ∨
      ∃ m ∈ methods, foldCase m = foldCase name ∨ foldCase m = foldCase (snakeCase name) := by
  simp only [Provides, levels, withMethods, List.exists_mem_cons_iff, List.mem_append]
  constructor
  . rintro (⟨m, hm | hm, h⟩ | h)
    . exact Or.inl (Or.inl ⟨m, hm, h⟩)
    . exact Or.inr ⟨m, hm, h⟩
    . exact Or.inl (Or.inr h)
  . rintro ((⟨m, hm, h⟩ | h) | ⟨m, hm, h⟩)
    . exact Or.inl ⟨m, Or.inl hm, h⟩
    . exact Or.inr h
    . exact Or.inl ⟨m, Or.inr hm, h⟩

theorem mem_generatedSet_iff {f : String}
    : f ∈ d.generatedSet s
        ↔
      ∃ p ∈ s.properties, ∃ k : AccessorKind,
        ¬d.Provides (k.nameFor p.name) ∧ foldCase (k.nameFor p.name) = f := by
  constructor
  . rintro ⟨n, hn, hfold⟩
    rcases exists_nameFor_of_mem_generatedNames hn with ⟨p, hp, k, rfl, hprovides⟩
    exact ⟨p, hp, k, hprovides, hfold⟩
  . rintro ⟨p, hp, k, hprovides, hfold⟩
    rcases List.mem_iff_getElem?.mp hp with ⟨i, hi⟩
    rcases exists_getElem?_plan d hi with ⟨a, ha, rfl⟩
    rw [← accessor_plan_name ha] at hprovides hfold
    rcases exists_generate_of_not_provides k ha hprovides with ⟨j, b, -, hb, hgenerate, hfb⟩
    refine ⟨(b.accessor k).name, ?_, by rw [hfb, hfold]⟩
    exact mem_generatedNames.mpr ⟨b, List.mem_of_getElem? hb, k, hgenerate, rfl⟩

theorem generatedSet_perm {t : PropertySet} (h : t.properties.Perm s.properties)
    : d.generatedSet t = d.generatedSet s := by
  ext f
  rw [mem_generatedSet_iff, mem_generatedSet_iff]
  simp only [h.mem_iff]

theorem generatedSet_withMethods_subset (methods : List String)
    : (d.withMethods methods).generatedSet s ⊆ d.generatedSet s := by
  intro f hf
  rw [mem_generatedSet_iff] at *
  rcases hf with ⟨p, hp, k, hprovides, hfold⟩
  rw [provides_withMethods_iff, not_or] at hprovides
  exact ⟨p, hp, k, hprovides.left, hfold⟩

theorem generatedSet_withMethods_generatedNames
    : (d.withMethods (generatedNames (d.plan s))).generatedSet s = ∅ := by
  ext f
  rw [mem_generatedSet_iff]
  simp only [Set.mem_empty_iff_false, iff_false]
  rintro ⟨p, hp, k, hprovides, -⟩
  rw [provides_withMethods_iff, not_or] at hprovides
  -- The plan generates the name in some spelling, and that spelling is a method by now.
  have hmem : foldCase (k.nameFor p.name) ∈ d.generatedSet s :=
    mem_generatedSet_iff.mpr ⟨p, hp, k, hprovides.left, rfl⟩
  rcases hmem with ⟨n, hn, hfold⟩
  exact hprovides.right ⟨n, hn, Or.inl hfold⟩

theorem generatedNames_eq_nil_iff : generatedNames (d.plan s) = [] ↔ d.generatedSet s = ∅ := by
  rw [List.eq_nil_iff_forall_not_mem, Set.eq_empty_iff_forall_notMem]
  constructor
  . rintro h f ⟨n, hn, -⟩
    exact h n hn
  . intro h n hn
    exact h (foldCase n) ⟨n, hn, rfl⟩

/-- The generated names, up to case, are those of the accessors that the chain does not provide.
Hence they stay the same in any order of the properties, become no more by further methods, and are
none once they are methods themselves. -/
theorem generatedSet_determined (d : Descriptor) (s : PropertySet)
    : d.generatedSet s
        =
      { f | ∃ p ∈ s.properties, ∃ k : AccessorKind,
        ¬d.Provides (k.nameFor p.name) ∧ foldCase (k.nameFor p.name) = f }
        ∧
      (∀ t : PropertySet, t.properties.Perm s.properties → d.generatedSet t = d.generatedSet s)
        ∧
      (∀ methods : List String, (d.withMethods methods).generatedSet s ⊆ d.generatedSet s)
        ∧
      generatedNames ((d.withMethods (generatedNames (d.plan s))).plan s) = [] := by
  refine ⟨?_, fun t h => generatedSet_perm h, generatedSet_withMethods_subset, ?_⟩
  . ext f
    exact mem_generatedSet_iff
  . rw [generatedNames_eq_nil_iff]
    exact generatedSet_withMethods_generatedNames

/-- The order of two properties decides on the spelling, which is no part of the set. -/
theorem generatedSet_determined_swap
    : let d : Descriptor := ⟨{ name := ⟨["Article"]⟩ }, []⟩
      let s := PropertySet.ofList [⟨"a_b", none⟩, ⟨"ab", none⟩]
      let t := PropertySet.ofList [⟨"ab", none⟩, ⟨"a_b", none⟩]
      generatedNames (d.plan s) = ["getAB", "setAB"]
        ∧
      generatedNames (d.plan t) = ["getAb", "setAb"]
        ∧
      d.generatedSet t = d.generatedSet s := by
  intro d s t
  refine ⟨by decide, by decide, ?_⟩
  exact (generatedSet_determined d s).right.left t (by decide)

end LazyProxy.Descriptor
