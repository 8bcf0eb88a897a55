import LazyProxy.Document.Registry
import LazyProxy.Proofs.Outcome
import Mathlib.Data.List.Nodup

/-!
This module contains that a registry finds what it declares. No two declarations share a key, so the
one that is found under the key of a declared name is its own.
-/

namespace LazyProxy.Registry

variable {r : Registry}

theorem find?_key_of_mem {d : Declaration} (h : d ∈ r.declarations) : r.find? d.key = some d := by
  cases hfind : r.find? d.key with
  | none =>
    have := List.find?_eq_none.mp hfind d h
    simp at this
  | some e =>
    rcases mem_of_find? hfind with ⟨he, hkey⟩
    rw [List.inj_on_of_nodup_map r.distinct he h hkey]

theorem find?_eq_some_iff {key : String} {d : Declaration}
    : r.find? key = some d ↔ d ∈ r.declarations ∧ d.key = key := by
  constructor
  . exact mem_of_find?
  . rintro ⟨h, rfl⟩
    exact find?_key_of_mem h

theorem mem_insert {d e : Declaration}
    : e ∈ (r.insert d).declarations ↔ e = d ∨ e ∈ r.declarations ∧ e.key ≠ d.key := by
  unfold insert
  split
  . next hkey =>
    rcases List.mem_map.mp hkey with ⟨old, hold, holdkey⟩
    simp only [replaced, List.mem_map]
    constructor
    . rintro ⟨f, hf, rfl⟩
      split
      . exact Or.inl rfl
      . next hne => exact Or.inr ⟨hf, hne⟩
    . rintro (rfl | ⟨he, hne⟩)
      . exact ⟨old, hold, if_pos holdkey⟩
      . exact ⟨e, he, if_neg hne⟩
  . next hkey =>
    rw [List.mem_append, List.mem_singleton, or_comm]
    refine or_congr_right (iff_self_and.mpr fun he hekey => hkey ?_)
    exact List.mem_map.mpr ⟨e, he, hekey⟩

theorem find?_eq_none_iff {key : String}
    : r.find? key = none ↔ key ∉ r.declarations.map Declaration.key := by
  simp [find?, List.find?_eq_none]

theorem declarations_insert_of_find?_eq_none {d : Declaration} (h : r.find? d.key = none)
    : (r.insert d).declarations = r.declarations ++ [d] := by
  rw [insert, dif_neg (find?_eq_none_iff.mp h)]

theorem eq_of_declarations_eq {r' : Registry} (h : r.declarations = r'.declarations) : r = r' := by
  cases r
  cases r'
  rw [Registry.mk.injEq]
  exact h

theorem find?_insert (r : Registry) (d : Declaration) (key : String)
    : (r.insert d).find? key = if d.key = key then some d else r.find? key := by
  split
  . next hkey => exact find?_eq_some_iff.mpr ⟨mem_insert.mpr (Or.inl rfl), hkey⟩
  . next hkey =>
    ext e
    rw [find?_eq_some_iff, find?_eq_some_iff, mem_insert]
    constructor
    . rintro ⟨rfl | ⟨he, -⟩, hekey⟩
      . exact absurd hekey hkey
      . exact ⟨he, hekey⟩
    . rintro ⟨he, rfl⟩
      exact ⟨Or.inr ⟨he, Ne.symm hkey⟩, rfl⟩

theorem ofList_append_singleton (ds : List Declaration) (d : Declaration)
    : ofList (ds ++ [d]) = (ofList ds).insert d := by
  rw [ofList, List.foldl_append]
  rfl

theorem resolve_eq_ok {name : String} {d : Descriptor} (h : r.resolve name = .ok d)
    : ∃ key e as, lookupKey? name = some key
        ∧
      r.find? key = some e
        ∧
      r.ancestors [key] e = .ok as
        ∧
      d = ⟨e.level, as.map Declaration.level⟩ := by
  unfold resolve at h
  split at h
  . cases h
  . next key hkey =>
    split at h
    . cases h
    . next e he =>
      rw [map_eq_ok_iff] at h
      rcases h with ⟨as, has, rfl⟩
      exact ⟨key, e, as, hkey, he, has, rfl⟩

theorem name_of_resolve {name : String} {d : Descriptor} (hname : name ∈ r.names)
    (h : r.resolve name = .ok d)
    : QualifiedName.parse? name = some d.name := by
  rcases resolve_eq_ok h with ⟨key, e, as, hkey, he, -, rfl⟩
  rcases List.mem_map.mp hname with ⟨f, hf, rfl⟩
  have hfkey : f.key = key := by
    simp [Declaration.key, hkey]
  -- No other declaration has the key, so the one that was found is the one of the name.
  have hfind := find?_key_of_mem hf
  rw [hfkey, he, Option.some.injEq] at hfind
  subst hfind
  cases hparse : QualifiedName.parse? e.name with
  | none => simp [lookupKey?, hparse] at hkey
  | some n => simp [Descriptor.name, Declaration.level, ClassLevel.ofName, hparse]

/-- The name of a type leads back to its declaration. -/
theorem lookupKey?_of_resolve {name : String} {d : Descriptor} (h : r.resolve name = .ok d)
    (hname : d.name.segments ≠ [])
    : lookupKey? name = some d.name.display := by
  rcases resolve_eq_ok h with ⟨key, e, as, hkey, he, -, rfl⟩
  have hekey := (mem_of_find? he).right
  cases hparse : QualifiedName.parse? e.name with
  | none => simp [Descriptor.name, Declaration.level, ClassLevel.ofName, hparse] at hname
  | some n =>
    have hn : (⟨e.level, as.map Declaration.level⟩ : Descriptor).name = n := by
      simp [Descriptor.name, Declaration.level, ClassLevel.ofName, hparse]
    rw [hn, hkey, ← hekey, Declaration.key, lookupKey?, hparse]
    rfl

theorem eq_of_name_eq {m n : String} {d e : Descriptor} (hd : r.resolve m = .ok d)
    (he : r.resolve n = .ok e) (hname : d.name = e.name) (hsegments : d.name.segments ≠ [])
    : d = e := by
  have hm := lookupKey?_of_resolve hd hsegments
  have hn := lookupKey?_of_resolve he (hname ▸ hsegments)
  rcases resolve_eq_ok hd with ⟨key, f, as, hkey, hf, has, rfl⟩
  rcases resolve_eq_ok he with ⟨key', g, bs, hkey', hg, hbs, rfl⟩
  rw [hm, Option.some.injEq] at hkey
  rw [hn, Option.some.injEq, ← hname] at hkey'
  subst hkey hkey'
  rw [hf, Option.some.injEq] at hg
  subst hg
  rw [has, Except.ok.injEq] at hbs
  rw [hbs]

theorem get?_eq_of_name_eq {m n : String} {d e : Descriptor} (hd : r.resolve m = .ok d)
    (he : r.resolve n = .ok e) (hname : d.name = e.name) (hsegments : d.name.segments ≠ [])
    : r.get? m = r.get? n := by
  rw [get?, get?, lookupKey?_of_resolve hd hsegments,
    lookupKey?_of_resolve he (hname ▸ hsegments), hname]

end LazyProxy.Registry
