import LazyProxy.Proofs.Document.Insertion
import LazyProxy.Proofs.Document.Resolution
import LazyProxy.Proofs.Manifest.Loading
import Mathlib.Data.List.Forall2

/-!
This module contains that names count for their segments only. However the names of types and parents
are written, the same ways lead through the registry, and the sources are the same.
-/

namespace LazyProxy

/-- Two texts for one name: they have the same segments. A text that cannot be read is a name only for
itself. -/
def SameName (a b : String) : Prop :=
  a = b ∨ ∃ n, QualifiedName.parse? a = some n ∧ QualifiedName.parse? b = some n

namespace SameName

variable {a b : String}

theorem symm (h : SameName a b) : SameName b a := by
  rcases h with h | ⟨n, ha, hb⟩
  . exact Or.inl h.symm
  . exact Or.inr ⟨n, hb, ha⟩

theorem parse?_eq (h : SameName a b) : QualifiedName.parse? a = QualifiedName.parse? b := by
  rcases h with rfl | ⟨n, ha, hb⟩
  . rfl
  . rw [ha, hb]

theorem lookupKey?_eq (h : SameName a b) : lookupKey? a = lookupKey? b := by
  rw [lookupKey?, lookupKey?, h.parse?_eq]

end SameName

namespace Declaration

/-- Declarations of one type that differ in nothing but how its name and that of its parent are
written. -/
structure Respells (d e : Declaration) : Prop where
  name : SameName d.name e.name
  parent : Option.Rel SameName d.parent e.parent
  properties : d.properties = e.properties
  methods : d.methods = e.methods

namespace Respells

variable {d e : Declaration}

theorem exists_parent (h : d.Respells e) {parent : String} (hparent : d.parent = some parent)
    : ∃ parent', e.parent = some parent' ∧ SameName parent parent' := by
  have hrel := h.parent
  rw [hparent] at hrel
  generalize e.parent = parent' at hrel
  cases hrel with
  | some hsame => exact ⟨_, rfl, hsame⟩

theorem parent_eq_none (h : d.Respells e) (hparent : d.parent = none) : e.parent = none := by
  have hrel := h.parent
  rw [hparent] at hrel
  generalize e.parent = parent' at hrel
  cases hrel with
  | none => rfl

theorem symm (h : d.Respells e) : e.Respells d where
  name := h.name.symm
  parent := by
    cases hparent : d.parent with
    | none =>
      rw [h.parent_eq_none hparent]
      exact .none
    | some parent =>
      rcases h.exists_parent hparent with ⟨parent', hparent', hsame⟩
      rw [hparent']
      exact .some hsame.symm
  properties := h.properties.symm
  methods := h.methods.symm

theorem key_eq (h : d.Respells e) : d.key = e.key := by
  rcases h.name with hname | ⟨n, hd, he⟩
  . rw [key, key, hname]
  . rw [key_of_parse? hd, key_of_parse? he]

theorem level_eq (h : d.Respells e) : d.level = e.level := by
  rw [level, level, ClassLevel.ofName, ClassLevel.ofName, h.name.parse?_eq, h.properties, h.methods]

end Respells

end Declaration

open List (Forall₂)

/-- Registries with the same declarations in the same order, up to spelling. -/
def Registry.Respells (r r' : Registry) : Prop :=
  Forall₂ Declaration.Respells r.declarations r'.declarations

theorem map_eq_map_of_respells {α : Type} {f : Declaration → α} {ds es : List Declaration}
    (hf : ∀ d e, Declaration.Respells d e → f d = f e) (h : Forall₂ Declaration.Respells ds es)
    : ds.map f = es.map f := by
  induction h with
  | nil => rfl
  | cons hd _ ih => rw [List.map_cons, List.map_cons, hf _ _ hd, ih]

theorem exists_respelling {d : Declaration} {ds es : List Declaration}
    (h : Forall₂ Declaration.Respells ds es) (hd : d ∈ ds)
    : ∃ e ∈ es, d.Respells e := by
  induction h with
  | nil => cases hd
  | cons hrespells _ ih =>
    rcases List.mem_cons.mp hd with rfl | hd
    . exact ⟨_, List.mem_cons_self, hrespells⟩
    . rcases ih hd with ⟨e, he, hrespells⟩
      exact ⟨e, List.mem_cons_of_mem _ he, hrespells⟩

namespace Registry

variable {r r' : Registry}

theorem Respells.symm (h : r.Respells r') : r'.Respells r :=
  (Forall₂.flip h).imp fun _ _ => Declaration.Respells.symm

theorem Respells.exists_find? (h : r.Respells r') {key : String} {d : Declaration}
    (hfind : r.find? key = some d)
    : ∃ e, r'.find? key = some e ∧ d.Respells e := by
  rcases mem_of_find? hfind with ⟨hd, hkey⟩
  rcases exists_respelling h hd with ⟨e, he, hrespells⟩
  refine ⟨e, ?_, hrespells⟩
  rw [find?_eq_some_iff, ← hrespells.key_eq]
  exact ⟨he, hkey⟩

/-- A way through the registry leads past the same declarations in any spelling. -/
theorem LeadsTo.respell {name name' : String} {before : List Declaration} {d : Declaration}
    (hr : r.Respells r') (hname : SameName name name') (h : r.LeadsTo name before d)
    : ∃ before' d', r'.LeadsTo name' before' d' ∧ Forall₂ Declaration.Respells before before'
        ∧ d.Respells d' := by
  induction h with
  | start hkey hfind =>
    rcases hr.exists_find? hfind with ⟨d', hfind', hd⟩
    exact ⟨[], d', .start (hname.lookupKey?_eq ▸ hkey) hfind', .nil, hd⟩
  | @step before d e parent key _ hparent hkey hnew hfind ih =>
    rcases ih with ⟨before', d', h', hbefore, hd⟩
    rcases hd.exists_parent hparent with ⟨parent', hparent', hsame⟩
    rcases hr.exists_find? hfind with ⟨e', hfind', he⟩
    have hway := List.rel_append hbefore (.cons hd .nil)
    have hkeys := map_eq_map_of_respells (fun _ _ => Declaration.Respells.key_eq) hway
    rw [hkeys] at hnew
    rw [hsame.lookupKey?_eq] at hkey
    exact ⟨before' ++ [d'], e', h'.step hparent' hkey hnew hfind', hway, he⟩

theorem Respells.resolve_eq_ok (hr : r.Respells r') {name name' : String}
    (hname : SameName name name') {x : Descriptor} (h : r.resolve name = .ok x)
    : r'.resolve name' = .ok x := by
  rcases resolve_eq_ok_iff.mp h with ⟨before, d, hleads, hparent, hlevels⟩
  rcases hleads.respell hr hname with ⟨before', d', hleads', hbefore, hd⟩
  refine resolve_eq_ok_iff.mpr ⟨before', d', hleads', hd.parent_eq_none hparent, ?_⟩
  rw [hlevels]
  have hway := List.rel_append hbefore (.cons hd .nil)
  exact map_eq_map_of_respells (fun _ _ => Declaration.Respells.level_eq) hway

theorem Respells.resolve_eq_ok_iff (hr : r.Respells r') {name name' : String}
    (hname : SameName name name') {x : Descriptor}
    : r.resolve name = .ok x ↔ r'.resolve name' = .ok x :=
  ⟨hr.resolve_eq_ok hname, hr.symm.resolve_eq_ok hname.symm⟩

end Registry

namespace Config

variable {c : Config} {r r' : Registry}

theorem generateNamed_eq_ok_iff_of_respells (hr : r.Respells r') {name name' : String}
    (hname : SameName name name') {source : Source}
    : c.generateNamed r name = .ok source ↔ c.generateNamed r' name' = .ok source := by
  simp only [generateNamed_eq_ok_iff, hr.resolve_eq_ok_iff hname]

theorem generateEach_eq_ok_iff_of_respells (hr : r.Respells r') {names names' : List String}
    (hnames : Forall₂ SameName names names') {sources : List Source}
    : c.generateEach r names = .ok sources ↔ c.generateEach r' names' = .ok sources := by
  induction hnames generalizing sources with
  | nil => rfl
  | cons hname _ ih =>
    unfold generateEach
    simp only [bind_eq_ok_iff, generateNamed_eq_ok_iff_of_respells hr hname, ih]

end Config

namespace Manifest

/-- Manifests with the same types in the same order, up to spelling. -/
def Respells (m m' : Manifest) : Prop :=
  Forall₂ (fun e e' => e.declaration.Respells e'.declaration) m.types m'.types

variable {m m' : Manifest}

theorem Respells.map_declaration (h : m.Respells m')
    : Forall₂ Declaration.Respells (m.types.map TypeEntry.declaration)
        (m'.types.map TypeEntry.declaration) := by
  rw [List.forall₂_map_left_iff, List.forall₂_map_right_iff]
  exact h

theorem Respells.exists_registry_iff (h : m.Respells m')
    : (∃ r, m.registry = .ok r) ↔ ∃ r, m'.registry = .ok r := by
  rw [Manifest.exists_registry_iff, Manifest.exists_registry_iff]
  rw [map_eq_map_of_respells (fun _ _ => Declaration.Respells.key_eq) h.map_declaration]

theorem Respells.registry (h : m.Respells m') {r r' : Registry} (hr : m.registry = .ok r)
    (hr' : m'.registry = .ok r')
    : r.Respells r' := by
  rw [Registry.Respells, registry_eq_ok_iff.mp hr, registry_eq_ok_iff.mp hr']
  exact h.map_declaration

/-- Two manifests that differ in the spelling of names declare their types both or neither, and
whatever sources the one gives, the other gives too. -/
theorem spelling_irrelevant (c : Config) (m m' : Manifest) (h : m.Respells m')
    : ((∃ r, m.registry = .ok r) ↔ ∃ r, m'.registry = .ok r)
        ∧
      ∀ r r', m.registry = .ok r → m'.registry = .ok r' →
        ((∃ sources, c.generateAll r = .ok sources) ↔ ∃ sources, c.generateAll r' = .ok sources)
          ∧
        ∀ sources sources', c.generateAll r = .ok sources → c.generateAll r' = .ok sources' →
          sources = sources' := by
  refine ⟨h.exists_registry_iff, fun r r' hr hr' => ?_⟩
  have hrespells := h.registry hr hr'
  have hnames : Forall₂ SameName r.names r'.names := by
    rw [Registry.names, Registry.names, List.forall₂_map_left_iff, List.forall₂_map_right_iff]
    exact hrespells.imp fun _ _ => Declaration.Respells.name
  have hsame : ∀ sources, c.generateAll r = .ok sources ↔ c.generateAll r' = .ok sources :=
    fun _ => Config.generateEach_eq_ok_iff_of_respells hrespells hnames
  refine ⟨exists_congr hsame, fun sources sources' hsources hsources' => ?_⟩
  rw [hsame, hsources', Except.ok.injEq] at hsources
  exact hsources.symm

/-- A chain of types, with backslashes throughout. -/
def drafts : List TypeEntry :=
  [{ name := "App\\Document", properties := [.name "title"] },
    { name := "App\\Draft", parent := some "App\\Document", properties := [.name "author"] }]

/-- The same chain, written with colons, leading separators and blanks. -/
def respelledDrafts : List TypeEntry :=
  [{ name := " ::App::Document", properties := [.name "title"] },
    { name := "\\App::Draft", parent := some "\\\\App\\Document\n",
      properties := [.name "author"] }]

theorem drafts_respells : (⟨drafts⟩ : Manifest).Respells ⟨respelledDrafts⟩ := by
  have hdocument : SameName "App\\Document" " ::App::Document" :=
    .inr ⟨⟨["App", "Document"]⟩, by decide, by decide⟩
  have hdraft : SameName "App\\Draft" "\\App::Draft" :=
    .inr ⟨⟨["App", "Draft"]⟩, by decide, by decide⟩
  have hparent : SameName "App\\Document" "\\\\App\\Document\n" :=
    .inr ⟨⟨["App", "Document"]⟩, by decide, by decide⟩
  exact .cons ⟨hdocument, .none, rfl, rfl⟩ (.cons ⟨hdraft, .some hparent, rfl, rfl⟩ .nil)

theorem spelling_irrelevant_drafts
    : (⟨drafts⟩ : Manifest).Respells ⟨respelledDrafts⟩ ∧ drafts ≠ respelledDrafts
        ∧
      ∃ r r' sources,
        (⟨drafts⟩ : Manifest).registry = .ok r ∧ (⟨respelledDrafts⟩ : Manifest).registry = .ok r'
          ∧
        ({} : Config).generateAll r = .ok sources ∧ ({} : Config).generateAll r' = .ok sources
          ∧
        sources.map Source.className = ["App\\_Proxy\\Document", "App\\_Proxy\\Draft"] := by
  rcases spelling_irrelevant {} ⟨drafts⟩ ⟨respelledDrafts⟩ drafts_respells with ⟨hregistry, hsame⟩
  let r : Registry := ⟨drafts.map TypeEntry.declaration, by decide⟩
  have hr : (⟨drafts⟩ : Manifest).registry = .ok r := registry_eq_ok_iff.mpr rfl
  have hclasses : (({} : Config).generateAll r).map (·.map Source.className)
      = .ok ["App\\_Proxy\\Document", "App\\_Proxy\\Draft"] := by
    decide +kernel
  rcases map_eq_ok_iff.mp hclasses with ⟨sources, hsources, hnames⟩
  rcases hregistry.mp ⟨r, hr⟩ with ⟨r', hr'⟩
  rcases hsame r r' hr hr' with ⟨hexists, hequal⟩
  rcases hexists.mp ⟨sources, hsources⟩ with ⟨sources', hsources'⟩
  have hsources'' := hequal sources sources' hsources hsources'
  subst hsources''
  exact ⟨drafts_respells, by decide, r, r', sources, hr, hr', hsources, hsources', hnames⟩

end Manifest

end LazyProxy
