import LazyProxy.Manifest.Basic
import LazyProxy.Proofs.Document.Registry
import LazyProxy.Proofs.Generator
import Mathlib.Data.Set.List

/-!
This module contains when the declarations of a manifest make up a registry: no two of them may share a
key, and the registry has them all in order. Each type then has one source, at its own place.
-/

namespace LazyProxy.Manifest

theorem addTo_eq_ok_iff {es : List TypeEntry} {r r' : Registry}
    : addTo r es = .ok r' ↔ r'.declarations = r.declarations ++ es.map TypeEntry.declaration := by
  induction es generalizing r with
  | nil =>
    simp only [addTo, Except.ok.injEq, List.map_nil, List.append_nil]
    exact ⟨fun h => by rw [h], fun h => Registry.eq_of_declarations_eq h.symm⟩
  | cons e es ih =>
    unfold addTo
    split
    . next hfind =>
      -- The registry cannot have another declaration of a key that it has already.
      refine ⟨fun h => by contradiction, fun h => ?_⟩
      rcases Option.isSome_iff_exists.mp hfind with ⟨d, hd⟩
      rcases Registry.mem_of_find? hd with ⟨hmem, hkey⟩
      have hdistinct := r'.distinct
      rw [h, List.map_append, List.nodup_append] at hdistinct
      refine absurd hkey (hdistinct.right.right _ (List.mem_map_of_mem hmem) _ ?_)
      simp
    . next hfind =>
      rw [Option.not_isSome_iff_eq_none] at hfind
      rw [ih, Registry.declarations_insert_of_find?_eq_none hfind, List.append_assoc]
      rfl

/-- What stops the declaration is the first entry whose key is there already. -/
theorem addTo_eq_error_iff {es : List TypeEntry} {r : Registry} {name : String}
    : addTo r es = .error name
        ↔
      ∃ before e after, es = before ++ e :: after ∧ e.name = name
        ∧
      (r.declarations ++ before.map TypeEntry.declaration |>.map Declaration.key).Nodup
        ∧
      e.declaration.key ∈ (r.declarations ++ before.map TypeEntry.declaration).map Declaration.key := by
  induction es generalizing r with
  | nil => simp [addTo]
  | cons e es ih =>
    unfold addTo
    split
    . next hfind =>
      have hmem : e.declaration.key ∈ r.declarations.map Declaration.key := by
        by_contra hnot
        rw [← Registry.find?_eq_none_iff] at hnot
        simp [hnot] at hfind
      rw [Except.error.injEq]
      constructor
      . rintro rfl
        exact ⟨[], e, es, rfl, rfl, by simpa using r.distinct, by simpa using hmem⟩
      . rintro ⟨before, e', after, hes, rfl, hnodup, -⟩
        cases before with
        | nil =>
          rw [List.nil_append, List.cons.injEq] at hes
          rw [hes.left]
        | cons b before =>
          -- An earlier entry would share the key as well.
          rw [List.cons_append, List.cons.injEq] at hes
          rw [List.map_append, List.nodup_append, ← hes.left] at hnodup
          exact absurd rfl (hnodup.right.right _ hmem _ (by simp))
    . next hfind =>
      rw [Option.not_isSome_iff_eq_none] at hfind
      simp only [ih, Registry.declarations_insert_of_find?_eq_none hfind, List.append_assoc,
        List.singleton_append]
      constructor
      . rintro ⟨before, e', after, rfl, hname, hnodup, hmem⟩
        exact ⟨e :: before, e', after, rfl, hname, hnodup, hmem⟩
      . rintro ⟨before, e', after, hes, hname, hnodup, hmem⟩
        cases before with
        | nil =>
          rw [List.nil_append, List.cons.injEq] at hes
          rw [List.map_nil, List.append_nil, ← hes.left] at hmem
          exact absurd hmem (Registry.find?_eq_none_iff.mp hfind)
        | cons b before =>
          rw [List.cons_append, List.cons.injEq] at hes
          rcases hes with ⟨rfl, rfl⟩
          exact ⟨before, e', after, rfl, hname, hnodup, hmem⟩

variable {m : Manifest}

theorem registry_eq_ok_iff {r : Registry}
    : m.registry = .ok r ↔ r.declarations = m.types.map TypeEntry.declaration := by
  unfold registry
  rw [addTo_eq_ok_iff]
  rfl

/-- A manifest whose entries share a key fails with the first one that has the key of an earlier
one. -/
theorem registry_eq_error_iff {name : String}
    : m.registry = .error name
        ↔
      ∃ before e after, m.types = before ++ e :: after ∧ e.name = name
        ∧
      ((before.map TypeEntry.declaration).map Declaration.key).Nodup
        ∧
      ∃ d ∈ before, d.declaration.key = e.declaration.key := by
  have hempty : (∅ : Registry).declarations = [] := rfl
  unfold registry
  simp only [addTo_eq_error_iff, hempty, List.nil_append, List.map_map, List.mem_map,
    Function.comp_apply]

theorem exists_registry_iff
    : (∃ r, m.registry = .ok r)
        ↔
      ((m.types.map TypeEntry.declaration).map Declaration.key).Nodup := by
  constructor
  . rintro ⟨r, hr⟩
    rw [← registry_eq_ok_iff.mp hr]
    exact r.distinct
  . intro h
    exact ⟨⟨_, h⟩, registry_eq_ok_iff.mpr rfl⟩

theorem names_of_registry {r : Registry} (h : m.registry = .ok r)
    : r.names = m.types.map TypeEntry.name := by
  rw [Registry.names, registry_eq_ok_iff.mp h, List.map_map]
  rfl

variable {c : Config} {r : Registry}

theorem generateAll_eq_ok_iff {sources : List Source} (h : m.registry = .ok r)
    : c.generateAll r = .ok sources
        ↔
      (m.types.map fun e => c.generateNamed r e.name) = sources.map .ok := by
  rw [Config.generateAll, Config.generateEach_eq_ok_iff, names_of_registry h, List.map_map]
  rfl

theorem exists_generateAll_iff (h : m.registry = .ok r)
    : (∃ sources, c.generateAll r = .ok sources)
        ↔
      ∀ e ∈ m.types, ∃ s, c.generateNamed r e.name = .ok s := by
  simp only [generateAll_eq_ok_iff h]
  constructor
  . rintro ⟨sources, hsources⟩ e he
    have hmem : c.generateNamed r e.name ∈ sources.map .ok := by
      rw [← hsources]
      exact List.mem_map_of_mem he
    rcases List.mem_map.mp hmem with ⟨s, -, hs⟩
    exact ⟨s, hs.symm⟩
  . intro hall
    have hrange : (m.types.map fun e => c.generateNamed r e.name)
        ∈ Set.range (List.map (Except.ok (ε := GenerationError))) := by
      rw [Set.range_list_map, Set.mem_ofPred_eq, List.forall_mem_map]
      exact fun e he => (hall e he).imp fun s => Eq.symm
    rcases hrange with ⟨sources, hsources⟩
    exact ⟨sources, hsources.symm⟩

theorem getElem?_generateAll {sources : List Source} (h : m.registry = .ok r)
    (hsources : c.generateAll r = .ok sources) {i : Nat} {e : TypeEntry} (he : m.types[i]? = some e)
    : ∃ s, sources[i]? = some s ∧ c.generateNamed r e.name = .ok s := by
  apply Config.getElem?_generateEach hsources
  rw [names_of_registry h, List.getElem?_map, he]
  rfl

theorem length_generateAll {sources : List Source} (h : m.registry = .ok r)
    (hsources : c.generateAll r = .ok sources)
    : sources.length = m.types.length := by
  have hlength := congrArg List.length ((generateAll_eq_ok_iff h).mp hsources)
  simpa using hlength.symm

end LazyProxy.Manifest
