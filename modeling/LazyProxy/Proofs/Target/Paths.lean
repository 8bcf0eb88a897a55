import LazyProxy.Proofs.Document.Registry
import LazyProxy.Proofs.Generator
import LazyProxy.Proofs.Naming.QualifiedName
import LazyProxy.Proofs.Target.Location

/-!
This module contains when the files of two declared types are the same file. In PHP they never are.
In Rust they are if the modules differ in nothing but case and the types have one snake case.
-/

namespace LazyProxy

namespace Config

/-- The names that lead to the proxy of a type. -/
def proxySegments (c : Config) (n : QualifiedName) : List String :=
  n.enclosing ++ [c.effectiveSegment] ++ if c.withName then [n.shortName] else []

/-- The modules that lead from the crate to the proxy of a type. -/
def modules (c : Config) (n : QualifiedName) : List String :=
  (c.proxySegments n).dropWhile (· == "crate")

variable {c : Config} {a b : QualifiedName}

theorem proxySegments_inj (ha : isIdentifier a.shortName) (hb : isIdentifier b.shortName)
    : c.proxySegments a = c.proxySegments b ∧ a.shortName = b.shortName ↔ a = b := by
  constructor
  . rintro ⟨hsegments, hshort⟩
    -- What follows the namespace depends on the short name alone.
    simp only [proxySegments, hshort, List.append_left_inj] at hsegments
    have : a.segments = b.segments := by
      rw [QualifiedName.segments_eq ha, QualifiedName.segments_eq hb, hsegments, hshort]
    cases a with
    | mk as =>
      cases b with
      | mk bs => rw [QualifiedName.mk.injEq]; exact this
  . rintro rfl
    exact ⟨rfl, rfl⟩

theorem wellNamed_of_model {d : Descriptor} {proxy : ProxyClass} (h : c.model d = .ok proxy)
    : proxy.WellNamed
        ∧
      proxy.namespaceSegments = c.proxySegments d.name
        ∧
      proxy.name = d.name.shortName := by
  rcases model_eq_ok h with ⟨s, marker, hcollect, hnames, rfl⟩
  have hown := Descriptor.wellNamed_of_collectProperties hcollect d.own (by simp [Descriptor.levels])
  have hsegment := (names_eq_ok hnames).right.left
  refine ⟨⟨?_, hown.shortName⟩, rfl, rfl⟩
  intro s hs
  simp only [ProxyClass.build, Descriptor.proxyNamespace, List.mem_append, List.mem_singleton] at hs
  rcases hs with (hs | hs) | hs
  . exact hown.enclosing s hs
  . rwa [hs]
  . split at hs
    . rw [List.mem_singleton] at hs
      rw [hs]
      exact hown.shortName
    . contradiction

theorem exists_proxy_of_generateNamed {r : Registry} {name : String} {source : Source}
    (h : c.generateNamed r name = .ok source)
    : ∃ (d : Descriptor) (proxy : ProxyClass), r.resolve name = .ok d
        ∧
      c.generate d = .ok source
        ∧
      proxy.WellNamed
        ∧
      proxy.namespaceSegments = c.proxySegments d.name
        ∧
      proxy.name = d.name.shortName
        ∧
      source.path = proxy.relativePath c.target := by
  rcases generateNamed_eq_ok h with ⟨d, hresolve, hgenerate⟩
  rcases generate_eq_ok hgenerate with ⟨proxy, hmodel, -, -, -, hpath⟩
  rcases wellNamed_of_model hmodel with ⟨hwell, hsegments, hshort⟩
  exact ⟨d, proxy, hresolve, hgenerate, hwell, hsegments, hshort, hpath⟩

theorem path_of_generateNamed {r : Registry} {name : String} {source : Source}
    (hname : name ∈ r.names) (h : c.generateNamed r name = .ok source)
    : ∃ (n : QualifiedName) (proxy : ProxyClass), QualifiedName.parse? name = some n
        ∧
      proxy.WellNamed
        ∧
      proxy.namespaceSegments = c.proxySegments n
        ∧
      proxy.name = n.shortName
        ∧
      source.path = proxy.relativePath c.target := by
  rcases exists_proxy_of_generateNamed h with ⟨d, proxy, hresolve, -, hproxy⟩
  exact ⟨d.name, proxy, Registry.name_of_resolve hname hresolve, hproxy⟩

/-- In PHP no two sources of one registry have the same place. -/
theorem eq_of_pathNames_eq {r : Registry} {m n : String} {a b : Source} (hphp : c.target = .php)
    (ha : c.generateNamed r m = .ok a) (hb : c.generateNamed r n = .ok b)
    (hpath : pathNames a.path = pathNames b.path)
    : a = b := by
  rcases exists_proxy_of_generateNamed ha with
    ⟨d, proxy, hd, hda, hwell, hsegments, hshort, hapath⟩
  rcases exists_proxy_of_generateNamed hb with
    ⟨e, proxy', he, heb, hwell', hsegments', hshort', hbpath⟩
  rw [hapath, hbpath, ProxyClass.pathNames_relativePath hwell,
    ProxyClass.pathNames_relativePath hwell', List.append_singleton_inj, hphp,
    Target.fileName_php_eq_iff, Target.directories_php, Target.directories_php, hsegments,
    hsegments', hshort, hshort'] at hpath
  have hname := hshort ▸ hwell.name
  rw [proxySegments_inj hname (hshort' ▸ hwell'.name)] at hpath
  have hne : d.name.segments ≠ [] := by
    rw [QualifiedName.segments_eq hname]
    simp
  rw [Registry.eq_of_name_eq hd he hpath hne, heb, Except.ok.injEq] at hda
  exact hda.symm

/-- Each declared type has a source. In PHP two of them have one path for one name only, in Rust if
the modules are the same up to case and the types are the same in snake case. -/
theorem path_eq_path_iff (c : Config) (r : Registry) (sources : List Source)
    (h : c.generateAll r = .ok sources) (i j : Nat) (m n : String) (hm : r.names[i]? = some m)
    (hn : r.names[j]? = some n)
    : ∃ (a b : QualifiedName) (s t : Source),
      QualifiedName.parse? m = some a ∧ QualifiedName.parse? n = some b
        ∧
      sources[i]? = some s ∧ sources[j]? = some t
        ∧
      (c.target = .php → (s.path = t.path ↔ a = b))
        ∧
      (c.target = .rust → (s.path = t.path ↔
        (c.modules a).map foldCase = (c.modules b).map foldCase
          ∧ snakeCase a.shortName = snakeCase b.shortName)) := by
  rcases getElem?_generateEach h hm with ⟨s, hs, hsource⟩
  rcases getElem?_generateEach h hn with ⟨t, ht, htarget⟩
  rcases path_of_generateNamed (List.mem_of_getElem? hm) hsource with
    ⟨a, proxy, ha, hproxy, hsegments, hshort, hpath⟩
  rcases path_of_generateNamed (List.mem_of_getElem? hn) htarget with
    ⟨b, proxy', hb, hproxy', hsegments', hshort', hpath'⟩
  refine ⟨a, b, s, t, ha, hb, hs, ht, ?_, ?_⟩
  . intro hphp
    have haname := hshort ▸ hproxy.name
    have hbname := hshort' ▸ hproxy'.name
    rw [hpath, hpath', hphp, ProxyClass.relativePath_php_eq_iff hproxy hproxy']
    rw [← proxySegments_inj haname hbname, ← hsegments, ← hsegments', ← hshort, ← hshort']
    simp only [ProxyClass.qualifiedName, QualifiedName.mk.injEq, List.append_singleton_inj]
  . intro hrust
    rw [hpath, hpath', hrust, ProxyClass.relativePath_rust_eq_iff hproxy hproxy']
    rw [hsegments, hsegments', hshort, hshort']
    rfl

/-- Two types whose names are the same in snake case. -/
def fooBars : Registry :=
  .ofList [{ name := "crate::FooBar" }, { name := "crate::foo_bar" }]

theorem paths_fooBars
    : (({ target := .php } : Config).generateAll fooBars).map (·.map Source.path)
        = .ok ["crate/_Proxy/FooBar.php", "crate/_Proxy/foo_bar.php"]
        ∧
      (({ target := .rust } : Config).generateAll fooBars).map (·.map Source.path)
        = .ok ["_proxy/foo_bar.rs", "_proxy/foo_bar.rs"] := by
  constructor
  . decide +kernel
  . decide +kernel

theorem path_eq_path_iff_fooBars
    : (∃ sources s t, ({ target := .php } : Config).generateAll fooBars = .ok sources
        ∧ sources[0]? = some s ∧ sources[1]? = some t ∧ s.path ≠ t.path)
        ∧
      (∃ sources s t, ({ target := .rust } : Config).generateAll fooBars = .ok sources
        ∧ sources[0]? = some s ∧ sources[1]? = some t ∧ s.path = t.path) := by
  have hfst : fooBars.names[0]? = some "crate::FooBar" := by decide
  have hsnd : fooBars.names[1]? = some "crate::foo_bar" := by decide
  have hFooBar : QualifiedName.parse? "crate::FooBar" = some ⟨["crate", "FooBar"]⟩ := by decide
  have hfoo_bar : QualifiedName.parse? "crate::foo_bar" = some ⟨["crate", "foo_bar"]⟩ := by decide
  constructor
  . rcases map_eq_ok_iff.mp paths_fooBars.left with ⟨sources, h, -⟩
    rcases path_eq_path_iff _ _ sources h 0 1 _ _ hfst hsnd with
      ⟨a, b, s, t, ha, hb, hs, ht, hphp, -⟩
    rw [hFooBar, Option.some.injEq] at ha
    rw [hfoo_bar, Option.some.injEq] at hb
    subst ha hb
    refine ⟨sources, s, t, h, hs, ht, ?_⟩
    rw [Ne, hphp rfl]
    decide
  . rcases map_eq_ok_iff.mp paths_fooBars.right with ⟨sources, h, -⟩
    rcases path_eq_path_iff _ _ sources h 0 1 _ _ hfst hsnd with
      ⟨a, b, s, t, ha, hb, hs, ht, -, hrust⟩
    rw [hFooBar, Option.some.injEq] at ha
    rw [hfoo_bar, Option.some.injEq] at hb
    subst ha hb
    refine ⟨sources, s, t, h, hs, ht, ?_⟩
    rw [hrust rfl]
    decide

/-- In Rust the files of two types may be the same. -/
theorem paths_not_distinct
    : ¬∀ (c : Config) (r : Registry) (sources : List Source), c.generateAll r = .ok sources →
        ∀ (i j : Nat) (m n : String) (s t : Source), r.names[i]? = some m → r.names[j]? = some n →
          sources[i]? = some s → sources[j]? = some t →
          QualifiedName.parse? m ≠ QualifiedName.parse? n → s.path ≠ t.path := by
  intro hdistinct
  rcases map_eq_ok_iff.mp paths_fooBars.right with ⟨sources, h, hpaths⟩
  have hfst : (sources.map Source.path)[0]? = some "_proxy/foo_bar.rs" := by
    rw [hpaths]
    rfl
  have hsnd : (sources.map Source.path)[1]? = some "_proxy/foo_bar.rs" := by
    rw [hpaths]
    rfl
  rw [List.getElem?_map, Option.map_eq_some_iff] at hfst hsnd
  rcases hfst with ⟨s, hs, hspath⟩
  rcases hsnd with ⟨t, ht, htpath⟩
  apply hdistinct _ _ sources h 0 1 "crate::FooBar" "crate::foo_bar" s t
  . decide
  . decide
  . exact hs
  . exact ht
  . decide
  . rw [hspath, htpath]

end Config

end LazyProxy
