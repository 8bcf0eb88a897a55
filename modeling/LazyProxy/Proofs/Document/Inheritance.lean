import LazyProxy.Proofs.Document.Resolution

/-!
This module contains how the chain of a type follows from that of its parent: it is the parent's chain
behind one more level, and there is the one if there is the other. A type that extends a parent makes no
circle that the parent does not have by itself.
-/

namespace LazyProxy.Registry

variable {r : Registry} {name parent : String} {before : List Declaration} {d e : Declaration}

theorem exists_key_of_get? (h : r.get? name = some d)
    : ∃ key, lookupKey? name = some key ∧ r.find? key = some d := by
  rw [get?, Option.bind_eq_some_iff] at h
  exact h

theorem LeadsTo.head?_eq (h : r.LeadsTo name before e) (hget : r.get? name = some d)
    : (before ++ [e]).head? = some d := by
  rcases exists_key_of_get? hget with ⟨key, hkey, hfind⟩
  induction h with
  | start hkey' hfind' =>
    rw [hkey, Option.some.injEq] at hkey'
    subst hkey'
    rw [← hfind, hfind']
    rfl
  | step _ _ _ _ _ ih =>
    rw [List.head?_append, ih]
    rfl

theorem LeadsTo.key_mem {key : String} (h : r.LeadsTo name before e)
    (hkey : lookupKey? name = some key)
    : key ∈ (before ++ [e]).map Declaration.key := by
  induction h with
  | start hkey' hfind =>
    rw [hkey, Option.some.injEq] at hkey'
    subst hkey'
    simp [(mem_of_find? hfind).right]
  | step _ _ _ _ _ ih =>
    rw [List.map_append]
    apply List.mem_append_left
    exact ih

/-- The way from a parent does not go through a type that extends it: it would be back at its start. -/
theorem LeadsTo.not_mem_of_parent (h : r.LeadsTo parent before e) (hparent : d.parent = some parent)
    : d ∉ before := by
  induction h with
  | start => simp
  | step h hnext hkey hnew _ ih =>
    rw [List.mem_append, List.mem_singleton, not_or]
    refine ⟨ih, ?_⟩
    intro hd
    subst hd
    -- The next key on the way would be the one that it started with.
    rw [hparent, Option.some.injEq] at hnext
    subst hnext
    exact hnew (h.key_mem hkey)

theorem LeadsTo.key_not_mem_of_parent (h : r.LeadsTo parent before e) (hend : e.parent = none)
    (hd : d ∈ r.declarations) (hparent : d.parent = some parent)
    : d.key ∉ (before ++ [e]).map Declaration.key := by
  intro hmet
  rcases List.mem_map.mp hmet with ⟨f, hf, hkey⟩
  have hfd := List.inj_on_of_nodup_map r.distinct (h.subset_declarations hf) hd hkey
  subst hfd
  rw [List.mem_append, List.mem_singleton] at hf
  cases hf with
  | inl hf => exact h.not_mem_of_parent hparent hf
  | inr hf =>
    subst hf
    rw [hparent] at hend
    cases hend

theorem LeadsTo.cons (h : r.LeadsTo parent before e) (hget : r.get? name = some d)
    (hparent : d.parent = some parent) (hnew : d.key ∉ (before ++ [e]).map Declaration.key)
    : r.LeadsTo name (d :: before) e := by
  rcases exists_key_of_get? hget with ⟨start, hstart, hd⟩
  induction h with
  | @start key e hkey hfind =>
    have hmet : key ∉ ([] ++ [d]).map Declaration.key := by
      rw [← (mem_of_find? hfind).right]
      simpa [eq_comm] using hnew
    exact (LeadsTo.start hstart hd).step hparent hkey hmet hfind
  | @step before f e next key h hnext hkey hmet hfind ih =>
    rw [List.map_append, List.mem_append, not_or] at hnew
    apply (ih hnew.left).step hnext hkey _ hfind
    rw [List.cons_append, List.map_cons, List.mem_cons, not_or]
    refine ⟨?_, hmet⟩
    rw [← (mem_of_find? hfind).right]
    simpa [eq_comm] using hnew.right

theorem LeadsTo.tail (h : r.LeadsTo name (d :: before) e) (hparent : d.parent = some parent)
    : r.LeadsTo parent before e := by
  generalize hway : d :: before = way at h
  induction h generalizing before with
  | start => cases hway
  | @step way f e next key h hnext hkey hnew hfind ih =>
    cases way with
    | nil =>
      rw [List.nil_append, List.cons.injEq] at hway
      rcases hway with ⟨hdf, hbefore⟩
      subst hdf hbefore
      rw [hparent, Option.some.injEq] at hnext
      subst hnext
      exact .start hkey hfind
    | cons g way =>
      rw [List.cons_append, List.cons.injEq] at hway
      rcases hway with ⟨hdg, hbefore⟩
      subst hdg hbefore
      rw [List.cons_append, List.map_cons, List.mem_cons, not_or] at hnew
      exact (ih rfl).step hnext hkey hnew.right hfind

/-- Resolving a type that extends a parent is resolving the parent, with the type's own level in
front. -/
theorem resolve_eq_ok_iff_of_parent (hget : r.get? name = some d) (hparent : d.parent = some parent)
    {x : Descriptor}
    : r.resolve name = .ok x ↔ ∃ y, r.resolve parent = .ok y ∧ x = ⟨d.level, y.levels⟩ := by
  rw [resolve_eq_ok_iff]
  constructor
  . intro h
    rcases h with ⟨way, e, hleads, hend, hlevels⟩
    have hhead := hleads.head?_eq hget
    cases way with
    | nil =>
      rw [List.nil_append, List.head?_cons, Option.some.injEq] at hhead
      subst hhead
      rw [hparent] at hend
      cases hend
    | cons f before =>
      rw [List.cons_append, List.head?_cons, Option.some.injEq] at hhead
      subst hhead
      have hrest := (hleads.tail hparent).map_levels_resolve_of_parent_eq_none hend
      rcases map_eq_ok_iff.mp hrest with ⟨y, hy, hylevels⟩
      refine ⟨y, hy, ?_⟩
      rw [← Descriptor.levels_inj, hlevels, hylevels]
      rfl
  . intro h
    rcases h with ⟨y, hy, hx⟩
    rcases resolve_eq_ok_iff.mp hy with ⟨before, e, hleads, hend, hlevels⟩
    rcases exists_key_of_get? hget with ⟨_, _, hd⟩
    -- Only a way that ends at a root is known not to meet the type again.
    have hnew := hleads.key_not_mem_of_parent hend (mem_of_find? hd).left hparent
    refine ⟨d :: before, e, hleads.cons hget hparent hnew, hend, ?_⟩
    rw [hx, Descriptor.levels, hlevels]
    rfl

theorem hasMethod_cons (d : Declaration) (y : Descriptor) (method : String)
    : (⟨d.level, y.levels⟩ : Descriptor).hasMethod method
        ↔
      (∃ m ∈ d.methods, foldCase m = foldCase method) ∨ y.hasMethod method := by
  simp [Descriptor.hasMethod, Descriptor.levels, ClassLevel.declares, Declaration.level,
    ClassLevel.ofName]

/-- A type can be resolved if its parent can. Its parent is then what the parent's name resolves to,
and its methods are its own and those of the parent. -/
theorem resolve_of_parent (r : Registry) (name parent : String) (d : Declaration)
    (hget : r.get? name = some d) (hparent : d.parent = some parent)
    : ((∃ x, r.resolve name = .ok x) ↔ ∃ y, r.resolve parent = .ok y)
        ∧
      ∀ x, r.resolve name = .ok x →
        ∃ y, r.resolve parent = .ok y ∧ x.parent? = some y
          ∧
        ∀ method, x.hasMethod method
          ↔
        (∃ m ∈ d.methods, foldCase m = foldCase method) ∨ y.hasMethod method := by
  constructor
  . simp only [resolve_eq_ok_iff_of_parent hget hparent]
    constructor
    . intro h
      rcases h with ⟨_, y, hy, _⟩
      exact ⟨y, hy⟩
    . intro h
      rcases h with ⟨y, hy⟩
      exact ⟨_, y, hy, rfl⟩
  . intro x hx
    rcases (resolve_eq_ok_iff_of_parent hget hparent).mp hx with ⟨y, hy, hlevels⟩
    subst hlevels
    exact ⟨y, hy, rfl, hasMethod_cons d y⟩

/-- A reply to a comment. The parent is written in another spelling than it is declared in. -/
def thread : Registry :=
  ofList [{ name := "App\\Reply", parent := some "::App::Comment", methods := ["get_author"] },
    { name := "App\\Comment", methods := ["getBody"] }]

theorem resolve_of_parent_thread
    : thread.get? "App::Reply"
          = some { name := "App\\Reply", parent := some "::App::Comment", methods := ["get_author"] }
        ∧
      ∃ x y, thread.resolve "App::Reply" = .ok x ∧ thread.resolve "::App::Comment" = .ok y
        ∧ x.parent? = some y ∧ x.hasMethod "GETBODY" := by
  have hget : thread.get? "App::Reply"
      = some { name := "App\\Reply", parent := some "::App::Comment", methods := ["get_author"] } :=
    by decide
  rcases resolve_of_parent thread _ _ _ hget rfl with ⟨hiff, hresolved⟩
  have hcomment : thread.resolve "::App::Comment"
      = .ok ⟨⟨⟨["App", "Comment"]⟩, [], ["getBody"]⟩, []⟩ := by
    decide +kernel
  rcases hiff.mpr ⟨_, hcomment⟩ with ⟨x, hx⟩
  rcases hresolved x hx with ⟨y, hy, hparent, hmethods⟩
  refine ⟨hget, x, y, hx, hy, hparent, (hmethods _).mpr (Or.inr ?_)⟩
  rw [hcomment, Except.ok.injEq] at hy
  subst hy
  decide

end LazyProxy.Registry
