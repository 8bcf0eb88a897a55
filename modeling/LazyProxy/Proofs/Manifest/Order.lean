import LazyProxy.Proofs.Document.Resolution
import LazyProxy.Proofs.Manifest.Loading

/-!
This module contains that the order in which a manifest declares its types decides on nothing but the
order of the sources.
-/

namespace LazyProxy

theorem Registry.find?_congr_of_perm {r r' : Registry} (h : r.declarations.Perm r'.declarations)
    (key : String)
    : r.find? key = r'.find? key := by
  ext d
  rw [find?_eq_some_iff, find?_eq_some_iff, h.mem_iff]

namespace Manifest

variable {m m' : Manifest} {r r' : Registry}

theorem exists_registry_of_perm (h : m.types.Perm m'.types)
    : (∃ r, m.registry = .ok r) ↔ ∃ r, m'.registry = .ok r := by
  rw [exists_registry_iff, exists_registry_iff]
  exact ((h.map _).map _).nodup_iff

theorem resolve_of_perm (h : m.types.Perm m'.types) (hr : m.registry = .ok r)
    (hr' : m'.registry = .ok r') (name : String)
    : r.resolve name = r'.resolve name := by
  apply Registry.resolve_congr
  apply Registry.find?_congr_of_perm
  rw [registry_eq_ok_iff.mp hr, registry_eq_ok_iff.mp hr']
  exact h.map _

/-- Two manifests with the same types in different orders declare them both or neither. Each name is
resolved in the same way, and each type has the same source, at the place where the type is
declared. -/
theorem order_irrelevant (c : Config) (m m' : Manifest) (h : m.types.Perm m'.types)
    : ((∃ r, m.registry = .ok r) ↔ ∃ r, m'.registry = .ok r)
        ∧
      ∀ r r', m.registry = .ok r → m'.registry = .ok r' →
        (∀ name, r.resolve name = r'.resolve name)
          ∧
        ((∃ sources, c.generateAll r = .ok sources) ↔ ∃ sources, c.generateAll r' = .ok sources)
          ∧
        ∀ sources sources', c.generateAll r = .ok sources → c.generateAll r' = .ok sources' →
          sources.length = m.types.length ∧ sources'.length = m'.types.length
            ∧
          ∀ (i j : Nat) (e : TypeEntry), m.types[i]? = some e → m'.types[j]? = some e →
            ∃ s, sources[i]? = some s ∧ sources'[j]? = some s := by
  refine ⟨exists_registry_of_perm h, fun r r' hr hr' => ?_⟩
  have hresolve := resolve_of_perm h hr hr'
  have hnamed : ∀ name, c.generateNamed r name = c.generateNamed r' name := by
    intro name
    rw [Config.generateNamed, Config.generateNamed, hresolve]
  refine ⟨hresolve, ?_, ?_⟩
  . rw [exists_generateAll_iff hr, exists_generateAll_iff hr']
    simp only [hnamed, h.mem_iff]
  . intro sources sources' hsources hsources'
    refine ⟨length_generateAll hr hsources, length_generateAll hr' hsources', ?_⟩
    intro i j e hi hj
    rcases getElem?_generateAll hr hsources hi with ⟨s, hs, hes⟩
    rcases getElem?_generateAll hr' hsources' hj with ⟨s', hs', hes'⟩
    rw [hnamed, hes', Except.ok.injEq] at hes
    subst hes
    exact ⟨s', hs, hs'⟩

/-- A type that is declared before its parent. -/
def replies : List TypeEntry :=
  [{ name := "App\\Reply", parent := some "App::Comment", properties := [.name "author"] },
    { name := "App\\Comment", properties := [.name "body"] }]

theorem order_irrelevant_replies
    : replies.Perm replies.reverse
        ∧
      ∃ r r' sources sources' s,
        (⟨replies⟩ : Manifest).registry = .ok r ∧ (⟨replies.reverse⟩ : Manifest).registry = .ok r'
          ∧
        ({} : Config).generateAll r = .ok sources ∧ ({} : Config).generateAll r' = .ok sources'
          ∧
        sources[0]? = some s ∧ sources'[1]? = some s ∧ s.className = "App\\_Proxy\\Reply" := by
  have hperm : replies.Perm replies.reverse := (List.reverse_perm replies).symm
  rcases order_irrelevant {} ⟨replies⟩ ⟨replies.reverse⟩ hperm with ⟨hregistry, hsame⟩
  let r : Registry := ⟨replies.map TypeEntry.declaration, by decide⟩
  have hr : (⟨replies⟩ : Manifest).registry = .ok r := registry_eq_ok_iff.mpr rfl
  have hclasses : (({} : Config).generateAll r).map (·.map Source.className)
      = .ok ["App\\_Proxy\\Reply", "App\\_Proxy\\Comment"] := by
    decide +kernel
  rcases map_eq_ok_iff.mp hclasses with ⟨sources, hsources, hnames⟩
  rcases hregistry.mp ⟨r, hr⟩ with ⟨r', hr'⟩
  rcases hsame r r' hr hr' with ⟨-, hexists, hplaces⟩
  rcases hexists.mp ⟨sources, hsources⟩ with ⟨sources', hsources'⟩
  rcases hplaces sources sources' hsources hsources' with ⟨-, -, hplace⟩
  rcases hplace 0 1 _ rfl rfl with ⟨s, hs, hs'⟩
  refine ⟨hperm, r, r', sources, sources', s, hr, hr', hsources, hsources', hs, hs', ?_⟩
  have hname := congrArg (·[0]?) hnames
  simpa [hs] using hname

end Manifest

end LazyProxy
