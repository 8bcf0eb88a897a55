import LazyProxy.Generator
import LazyProxy.Proofs.Document.Inspection

/-!
This module contains what the steps of generation are when they succeed.
-/

namespace LazyProxy.Config

theorem names_eq_ok {c : Config} {segment : String} {marker : QualifiedName}
    (h : c.names = .ok (segment, marker))
    : segment = c.effectiveSegment
        ∧
      isIdentifier segment
        ∧
      QualifiedName.parse? c.effectiveMarker = some marker
        ∧
      ∀ s ∈ marker.segments, isIdentifier s := by
  unfold names at h
  split at h
  . simp at h
  . next hsegment =>
    split at h
    . simp at h
    . next hmarker =>
      split at h
      . next hall =>
        simp only [Except.ok.injEq, Prod.mk.injEq] at h
        rcases h with ⟨rfl, rfl⟩
        refine ⟨rfl, by simpa using hsegment, hmarker, ?_⟩
        simpa using hall
      . simp at h

theorem model_eq_ok {c : Config} {d : Descriptor} {proxy : ProxyClass} (h : c.model d = .ok proxy)
    : ∃ s marker, d.collectProperties = .ok s
        ∧
      c.names = .ok (c.effectiveSegment, marker)
        ∧
      proxy = .build d (d.plan s) c.effectiveSegment c.withName marker := by
  unfold model at h
  rw [bind_eq_ok_iff] at h
  rcases h with ⟨⟨segment, marker⟩, hnames, h⟩
  rw [mapError_eq_ok_iff] at hnames
  rw [bind_eq_ok_iff] at h
  rcases h with ⟨s, hcollect, h⟩
  rw [mapError_eq_ok_iff] at hcollect
  have hsegment := (names_eq_ok hnames).left
  subst hsegment
  simp only [Except.ok.injEq] at h
  exact ⟨s, marker, hcollect, hnames, h.symm⟩

theorem generate_eq_ok {c : Config} {d : Descriptor} {source : Source}
    (h : c.generate d = .ok source)
    : ∃ proxy, c.model d = .ok proxy
        ∧
      c.target.render proxy c = .ok source.code
        ∧
      source.namespaceName = Text.join c.target.separator proxy.namespaceSegments
        ∧
      source.className = proxy.qualifiedName.join c.target.separator
        ∧
      source.path = proxy.relativePath c.target := by
  unfold generate at h
  rw [bind_eq_ok_iff] at h
  rcases h with ⟨proxy, hmodel, h⟩
  rw [bind_eq_ok_iff] at h
  rcases h with ⟨code, hcode, h⟩
  rw [mapError_eq_ok_iff] at hcode
  simp only [Except.ok.injEq] at h
  subst h
  exact ⟨proxy, hmodel, hcode, rfl, rfl, rfl⟩

theorem generate_of_render {c : Config} {d : Descriptor} {proxy : ProxyClass} {code : String}
    (hmodel : c.model d = .ok proxy) (hcode : c.target.render proxy c = .ok code)
    : c.generate d
        =
      .ok
        { namespaceName := Text.join c.target.separator proxy.namespaceSegments
          className := proxy.qualifiedName.join c.target.separator
          path := proxy.relativePath c.target
          code } := by
  rw [generate, bind_eq_ok_iff]
  exact ⟨proxy, hmodel, bind_eq_ok_iff.mpr ⟨code, mapError_eq_ok_iff.mpr hcode, rfl⟩⟩

theorem generateNamed_eq_ok_iff {c : Config} {r : Registry} {name : String} {source : Source}
    : c.generateNamed r name = .ok source
        ↔
      ∃ d, r.resolve name = .ok d ∧ c.generate d = .ok source := by
  simp only [generateNamed, bind_eq_ok_iff, mapError_eq_ok_iff]

theorem generateNamed_eq_ok {c : Config} {r : Registry} {name : String} {source : Source}
    (h : c.generateNamed r name = .ok source)
    : ∃ d, r.resolve name = .ok d ∧ c.generate d = .ok source :=
  generateNamed_eq_ok_iff.mp h

theorem getElem?_generateEach {c : Config} {r : Registry} {names : List String}
    {sources : List Source} (h : c.generateEach r names = .ok sources) {i : Nat} {name : String}
    (hname : names[i]? = some name)
    : ∃ source, sources[i]? = some source ∧ c.generateNamed r name = .ok source := by
  induction names generalizing sources i with
  | nil => simp at hname
  | cons n ns ih =>
    unfold generateEach at h
    rw [bind_eq_ok_iff] at h
    rcases h with ⟨source, hsource, h⟩
    rw [bind_eq_ok_iff] at h
    rcases h with ⟨rest, hrest, h⟩
    simp only [Except.ok.injEq] at h
    subst h
    cases i with
    | zero =>
      simp only [List.getElem?_cons_zero, Option.some.injEq] at hname
      subst hname
      exact ⟨source, rfl, hsource⟩
    | succ i => exact ih hrest hname

theorem generateEach_eq_ok_iff {c : Config} {r : Registry} {names : List String}
    {sources : List Source}
    : c.generateEach r names = .ok sources
        ↔
      names.map (c.generateNamed r) = sources.map .ok := by
  induction names generalizing sources with
  | nil => cases sources <;> simp [generateEach]
  | cons n ns ih =>
    unfold generateEach
    simp only [bind_eq_ok_iff, Except.ok.injEq, ih]
    constructor
    . rintro ⟨source, hsource, rest, hrest, rfl⟩
      rw [List.map_cons, List.map_cons, hsource, hrest]
    . intro h
      cases sources with
      | nil => contradiction
      | cons source rest =>
        rw [List.map_cons, List.map_cons, List.cons.injEq] at h
        exact ⟨source, h.left, rest, h.right, rfl⟩

/-- The first name that fails gives the error, whatever comes after it. -/
theorem generateEach_eq_error_iff {c : Config} {r : Registry} {names : List String}
    {e : GenerationError}
    : c.generateEach r names = .error e
        ↔
      ∃ before name after, names = before ++ name :: after
        ∧
      (∀ n ∈ before, ∃ source, c.generateNamed r n = .ok source) ∧ c.generateNamed r name = .error e := by
  induction names with
  | nil => simp [generateEach]
  | cons n ns ih =>
    unfold generateEach
    rw [bind_eq_error_iff]
    constructor
    . rintro (he | ⟨source, hsource, h⟩)
      . exact ⟨[], n, ns, rfl, List.forall_mem_nil _, he⟩
      . have hrest : c.generateEach r ns = .error e := by
          rw [bind_eq_error_iff] at h
          exact h.resolve_right (by simp)
        rcases ih.mp hrest with ⟨before, name, after, rfl, hbefore, he⟩
        exact ⟨n :: before, name, after, rfl, List.forall_mem_cons.mpr ⟨⟨source, hsource⟩, hbefore⟩, he⟩
    . rintro ⟨before, name, after, hnames, hbefore, he⟩
      cases before with
      | nil =>
        rw [List.nil_append, List.cons.injEq] at hnames
        exact Or.inl (hnames.left ▸ he)
      | cons b before =>
        rw [List.cons_append, List.cons.injEq] at hnames
        rw [List.forall_mem_cons, ← hnames.left] at hbefore
        rcases hbefore.left with ⟨source, hsource⟩
        have hrest := ih.mpr ⟨before, name, after, hnames.right, hbefore.right, he⟩
        exact Or.inr ⟨source, hsource, bind_eq_error_iff.mpr (Or.inl hrest)⟩

theorem exists_generateNamed_of_mem {c : Config} {r : Registry} {names : List String}
    {sources : List Source} (h : c.generateEach r names = .ok sources) {source : Source}
    (hsource : source ∈ sources)
    : ∃ name, c.generateNamed r name = .ok source := by
  induction names generalizing sources with
  | nil =>
    simp only [generateEach, Except.ok.injEq] at h
    subst h
    contradiction
  | cons n ns ih =>
    unfold generateEach at h
    rw [bind_eq_ok_iff] at h
    rcases h with ⟨first, hfirst, h⟩
    rw [bind_eq_ok_iff] at h
    rcases h with ⟨rest, hrest, h⟩
    simp only [Except.ok.injEq] at h
    subst h
    cases List.mem_cons.mp hsource with
    | inl h => exact ⟨n, by rw [h, hfirst]⟩
    | inr h => exact ih hrest h

end LazyProxy.Config
