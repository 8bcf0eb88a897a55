import LazyProxy.Proofs.Naming.Display
import LazyProxy.Proofs.Target.Paths

/-!
This module contains that a proxy takes the place of no type and of no other proxy: its name is that
of one type's proxy only, and its namespace lies below the one of the type.
-/

namespace LazyProxy

namespace Target

theorem exists_separator_eq_cons (t : Target)
    : ∃ x xs, t.separator.toList = x :: xs ∧ isIdentifierPart x = false := by
  cases t with
  | php => exact ⟨'\\', [], rfl, rfl⟩
  | rust => exact ⟨':', [':'], rfl, rfl⟩

theorem join_inj (t : Target) {as bs : List String} (has : ∀ s ∈ as, isIdentifier s)
    (hbs : ∀ s ∈ bs, isIdentifier s)
    : Text.join t.separator as = Text.join t.separator bs ↔ as = bs := by
  rcases t.exists_separator_eq_cons with ⟨x, xs, hseparator, hx⟩
  have hpieces : ∀ names : List String, (∀ s ∈ names, isIdentifier s) →
      ∀ p ∈ names.map String.toList, p ≠ [] ∧ x ∉ p := by
    intro names hnames
    rw [List.forall_mem_map]
    intro s hs
    refine ⟨by simpa using ne_empty_of_isIdentifier (hnames s hs), ?_⟩
    exact not_mem_of_isIdentifier (hnames s hs) hx
  rw [← String.toList_inj, Text.join, Text.join, String.toList_intercalate,
    String.toList_intercalate, hseparator, Text.intercalate_inj (hpieces as has) (hpieces bs hbs)]
  exact QualifiedName.map_toList_inj

theorem join_ne_empty (t : Target) {names : List String} (h : ∀ s ∈ names, isIdentifier s)
    (hne : names ≠ [])
    : Text.join t.separator names ≠ "" := by
  intro hempty
  have hnil : ∀ s ∈ ([] : List String), isIdentifier s := by simp
  exact hne ((t.join_inj h hnil).mp hempty)

end Target

theorem ProxyClass.WellNamed.isIdentifier_of_mem_segments {proxy : ProxyClass} (h : proxy.WellNamed)
    : ∀ s ∈ proxy.qualifiedName.segments, isIdentifier s := by
  intro s hs
  rw [qualifiedName, List.mem_append, List.mem_singleton] at hs
  rcases hs with hs | rfl
  . exact h.namespaceSegments s hs
  . exact h.name

theorem ClassLevel.WellNamed.isIdentifier_of_mem_segments {level : ClassLevel} (h : level.WellNamed)
    : ∀ s ∈ level.name.segments, isIdentifier s := by
  intro s hs
  rw [QualifiedName.segments_eq h.shortName, List.mem_append, List.mem_singleton] at hs
  rcases hs with hs | rfl
  . exact h.enclosing s hs
  . exact h.shortName

namespace Config

variable {c : Config} {d e : Descriptor} {proxy proxy' : ProxyClass} {source other : Source}

theorem wellNamed_own_of_model (h : c.model d = .ok proxy) : d.own.WellNamed := by
  rcases model_eq_ok h with ⟨s, marker, hcollect, -, -⟩
  exact Descriptor.wellNamed_of_collectProperties hcollect d.own (by simp [Descriptor.levels])

/-- The names that lead to the namespace of a type's proxy go on behind those of the type. -/
theorem exists_proxySegments_eq (c : Config) (n : QualifiedName)
    : ∃ rest, rest ≠ [] ∧ c.proxySegments n = n.enclosing ++ rest := by
  refine ⟨[c.effectiveSegment] ++ if c.withName then [n.shortName] else [], by simp, ?_⟩
  rw [proxySegments, List.append_assoc]

theorem name_eq_of_qualifiedName_eq (h : c.model d = .ok proxy) (h' : c.model e = .ok proxy')
    (hname : proxy.qualifiedName = proxy'.qualifiedName)
    : d.name = e.name := by
  rcases wellNamed_of_model h with ⟨-, hsegments, hshort⟩
  rcases wellNamed_of_model h' with ⟨-, hsegments', hshort'⟩
  rw [ProxyClass.qualifiedName, ProxyClass.qualifiedName, QualifiedName.mk.injEq,
    List.append_singleton_inj, hsegments, hsegments', hshort, hshort'] at hname
  have hd := (wellNamed_own_of_model h).shortName
  have he := (wellNamed_own_of_model h').shortName
  exact (proxySegments_inj hd he).mp hname

theorem name_eq_of_className_eq (h : c.generate d = .ok source) (h' : c.generate e = .ok other)
    (hclass : source.className = other.className)
    : d.name = e.name := by
  rcases generate_eq_ok h with ⟨proxy, hmodel, -, -, hclassName, -⟩
  rcases generate_eq_ok h' with ⟨proxy', hmodel', -, -, hclassName', -⟩
  have hwell := (wellNamed_of_model hmodel).left
  have hwell' := (wellNamed_of_model hmodel').left
  apply name_eq_of_qualifiedName_eq hmodel hmodel'
  rw [hclassName, hclassName', QualifiedName.join, QualifiedName.join,
    c.target.join_inj hwell.isIdentifier_of_mem_segments hwell'.isIdentifier_of_mem_segments]
    at hclass
  rw [ProxyClass.qualifiedName, ProxyClass.qualifiedName, QualifiedName.mk.injEq]
  exact hclass

theorem proxySegments_ne_enclosing (c : Config) (n : QualifiedName)
    : c.proxySegments n ≠ n.enclosing := by
  rcases c.exists_proxySegments_eq n with ⟨rest, hrest, hproxy⟩
  rw [hproxy]
  simpa using hrest

theorem namespaceName_ne (h : c.generate d = .ok source)
    : source.namespaceName ≠ Text.join c.target.separator d.name.enclosing := by
  rcases generate_eq_ok h with ⟨proxy, hmodel, -, hnamespaceName, -, -⟩
  rcases wellNamed_of_model hmodel with ⟨hwell, hsegments, -⟩
  have henclosing : ∀ s ∈ d.name.enclosing, isIdentifier s :=
    (wellNamed_own_of_model hmodel).enclosing
  rw [hnamespaceName, Ne, c.target.join_inj hwell.namespaceSegments henclosing, hsegments]
  exact c.proxySegments_ne_enclosing d.name

theorem className_ne (h : c.generate d = .ok source)
    : source.className ≠ d.name.join c.target.separator := by
  rcases generate_eq_ok h with ⟨proxy, hmodel, -, -, hclassName, -⟩
  rcases wellNamed_of_model hmodel with ⟨hwell, hsegments, -⟩
  have hown : d.own.WellNamed := wellNamed_own_of_model hmodel
  have hname : d.name.segments = d.name.enclosing ++ [d.name.shortName] :=
    QualifiedName.segments_eq hown.shortName
  have hidentifiers : ∀ s ∈ d.name.segments, isIdentifier s := hown.isIdentifier_of_mem_segments
  rw [hclassName, QualifiedName.join, QualifiedName.join, Ne,
    c.target.join_inj hwell.isIdentifier_of_mem_segments hidentifiers]
  -- Without the short names, the namespaces would be the same.
  rw [hname, ProxyClass.qualifiedName, List.append_singleton_inj, hsegments]
  exact fun hsame => c.proxySegments_ne_enclosing d.name hsame.left

theorem segments_ne_nil_of_generate (h : c.generate d = .ok source) : d.name.segments ≠ [] := by
  rcases generate_eq_ok h with ⟨proxy, hmodel, -⟩
  rw [Descriptor.name, QualifiedName.segments_eq (wellNamed_own_of_model hmodel).shortName]
  simp

/-- The name of a proxy tells the type, and in a registry the declaration. The proxy's namespace goes
on behind that of the type, so neither its text nor that of the proxy's name is one of the type's. -/
theorem className_isolates (c : Config) (d : Descriptor) (source : Source)
    (h : c.generate d = .ok source)
    : (∀ (e : Descriptor) (other : Source), c.generate e = .ok other →
          other.className = source.className →
        e.name = d.name
          ∧
        ∀ (r : Registry) (m n : String), r.resolve m = .ok d → r.resolve n = .ok e →
          r.get? m = r.get? n ∧ d = e)
        ∧
      (∃ (proxy : ProxyClass) (rest : List String), c.model d = .ok proxy
          ∧
        source.namespaceName = Text.join c.target.separator proxy.namespaceSegments
          ∧
        proxy.namespaceSegments = d.name.enclosing ++ rest ∧ rest ≠ [])
        ∧
      source.namespaceName ≠ Text.join c.target.separator d.name.enclosing
        ∧
      source.className ≠ d.name.join c.target.separator := by
  rcases generate_eq_ok h with ⟨proxy, hmodel, -, hnamespaceName, -, -⟩
  have hsegments := (wellNamed_of_model hmodel).right.left
  rcases c.exists_proxySegments_eq d.name with ⟨rest, hrest, hproxy⟩
  refine ⟨?_, ⟨proxy, rest, hmodel, hnamespaceName, hsegments.trans hproxy, hrest⟩,
    namespaceName_ne h, className_ne h⟩
  intro e other hother hclass
  have hsame := name_eq_of_className_eq hother h hclass
  have hne := segments_ne_nil_of_generate h
  refine ⟨hsame, ?_⟩
  intro r m n hm hn
  exact ⟨Registry.get?_eq_of_name_eq hm hn hsame.symm hne,
    Registry.eq_of_name_eq hm hn hsame.symm hne⟩

/-- A type whose namespace and short name are those of proxies. -/
def proxyLike : Descriptor :=
  ⟨{ name := ⟨["App", "_Proxy", "_Proxy"]⟩ }, []⟩

theorem className_isolates_proxyLike
    : ∃ source, ({ withName := true } : Config).generate proxyLike = .ok source
        ∧
      source.className = "App\\_Proxy\\_Proxy\\_Proxy\\_Proxy"
        ∧
      source.className ≠ proxyLike.name.join "\\"
        ∧
      ∀ other, ({ withName := true } : Config).generate ⟨{ name := ⟨["App", "_Proxy"]⟩ }, []⟩
          = .ok other →
        other.className ≠ source.className := by
  have hclass : (({ withName := true } : Config).generate proxyLike).map Source.className
      = .ok "App\\_Proxy\\_Proxy\\_Proxy\\_Proxy" := by decide
  rcases map_eq_ok_iff.mp hclass with ⟨source, hsource, hname⟩
  rcases className_isolates _ proxyLike source hsource with ⟨hinj, -, -, hne⟩
  refine ⟨source, hsource, hname, hne, ?_⟩
  intro other hother hsame
  exact absurd (hinj _ other hother hsame).left (by decide)

end Config

end LazyProxy
