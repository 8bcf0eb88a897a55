import LazyProxy.Proofs.Document.Registry
import Mathlib.Data.List.Perm.Subperm

/-!
This module contains what resolution answers for each registry and each name. It follows the parents
from the declaration of the name and never goes to one that it has met, so the way ends after at most
all declarations. The answer depends on how it ends.
-/

namespace LazyProxy

theorem Descriptor.levels_inj {d e : Descriptor} : d.levels = e.levels ↔ d = e := by
  cases d
  cases e
  simp [levels]

namespace Registry

/-- The way from a name along parents leads to `d`, through the declarations `before`. No key is met
twice. -/
inductive LeadsTo (r : Registry) (name : String) : (before : List Declaration) → Declaration → Prop
  where
  | start {key : String} {d : Declaration} (hkey : lookupKey? name = some key)
    (hfind : r.find? key = some d) : LeadsTo r name [] d
  | step {before : List Declaration} {d e : Declaration} {parent key : String}
    (h : LeadsTo r name before d) (hparent : d.parent = some parent)
    (hkey : lookupKey? parent = some key) (hnew : key ∉ (before ++ [d]).map Declaration.key)
    (hfind : r.find? key = some e) : LeadsTo r name (before ++ [d]) e

/-- What is wrong with the parent of `d` once `keys` have been met. -/
inductive Problem (r : Registry) (keys : List String) (d : Declaration) : ResolutionError → Prop
  where
  | malformed {parent : String} (hparent : d.parent = some parent)
    (hkey : lookupKey? parent = none) : Problem r keys d (.unknownParent d.name parent)
  | circle {parent key : String} (hparent : d.parent = some parent)
    (hkey : lookupKey? parent = some key) (hmet : key ∈ keys) :
    Problem r keys d (.cycle parent)
  | undeclared {parent key : String} (hparent : d.parent = some parent)
    (hkey : lookupKey? parent = some key) (hnew : key ∉ keys) (hfind : r.find? key = none) :
    Problem r keys d (.unknownParent d.name parent)

variable {r : Registry} {name : String} {before : List Declaration} {d : Declaration}

theorem LeadsTo.subset_declarations (h : r.LeadsTo name before d)
    : before ++ [d] ⊆ r.declarations := by
  induction h with
  | start hkey hfind => simpa using (mem_of_find? hfind).left
  | step _ _ _ _ hfind ih =>
    rw [List.append_subset]
    exact ⟨ih, by simpa using (mem_of_find? hfind).left⟩

theorem LeadsTo.nodup_keys (h : r.LeadsTo name before d)
    : ((before ++ [d]).map Declaration.key).Nodup := by
  induction h with
  | start => simp
  | step _ _ _ hnew hfind ih =>
    rw [List.map_append, List.nodup_append]
    refine ⟨ih, by simp, ?_⟩
    intro a ha b hb
    rw [List.map_singleton, List.mem_singleton, (mem_of_find? hfind).right] at hb
    rintro rfl
    exact hnew (hb ▸ ha)

/-- Different keys belong to different declarations, and a registry has only so many. -/
theorem LeadsTo.length_le_size (h : r.LeadsTo name before d) : (before ++ [d]).length ≤ r.size := by
  have hnodup : (before ++ [d]).Nodup := List.Nodup.of_map Declaration.key h.nodup_keys
  exact (List.subperm_of_subset hnodup h.subset_declarations).length_le

theorem LeadsTo.exists_end {before : List Declaration} {d : Declaration}
    (h : r.LeadsTo name before d)
    : ∃ before d, r.LeadsTo name before d
        ∧
      (d.parent = none ∨ ∃ e, r.Problem ((before ++ [d]).map Declaration.key) d e) := by
  cases hparent : d.parent with
  | none => exact ⟨before, d, h, Or.inl hparent⟩
  | some parent =>
    cases hkey : lookupKey? parent with
    | none => exact ⟨before, d, h, Or.inr ⟨_, .malformed hparent hkey⟩⟩
    | some key =>
      by_cases hmet : key ∈ (before ++ [d]).map Declaration.key
      . exact ⟨before, d, h, Or.inr ⟨_, .circle hparent hkey hmet⟩⟩
      . cases hfind : r.find? key with
        | none => exact ⟨before, d, h, Or.inr ⟨_, .undeclared hparent hkey hmet hfind⟩⟩
        | some e =>
          have hnext := h.step hparent hkey hmet hfind
          exact hnext.exists_end
termination_by r.size - before.length
decreasing_by
  -- The way has not met all declarations yet, as there is one more.
  have := hnext.length_le_size
  simp only [List.length_append, List.length_singleton] at *
  omega

theorem ancestors_of_find? {keys : List String} {e : Declaration} {parent key : String}
    (hparent : d.parent = some parent) (hkey : lookupKey? parent = some key) (hnew : key ∉ keys)
    (hfind : r.find? key = some e)
    : r.ancestors keys d = (r.ancestors (key :: keys) e).map (e :: ·) := by
  rw [ancestors]
  simp only [hparent, hkey, hnew, ↓reduceDIte]
  split
  . next h => simp [hfind] at h
  . next h =>
    rw [hfind, Option.some.injEq] at h
    rw [h]

theorem ancestors_of_parent_eq_none {keys : List String} (h : d.parent = none)
    : r.ancestors keys d = .ok [] := by
  simp [ancestors, h]

theorem ancestors_of_problem {keys : List String} {e : ResolutionError} (h : r.Problem keys d e)
    : r.ancestors keys d = .error e := by
  rw [ancestors]
  cases h with
  | malformed hparent hkey => simp [hparent, hkey]
  | circle hparent hkey hmet => simp [hparent, hkey, hmet]
  | undeclared hparent hkey hnew hfind =>
    simp only [hparent, hkey, hnew, ↓reduceDIte]
    split
    . rfl
    . next h => simp [hfind] at h

/-- Resolution asks nothing of a registry but which declaration a key has. -/
theorem ancestors_congr {r' : Registry} (h : ∀ key, r.find? key = r'.find? key) (keys : List String)
    (d : Declaration)
    : r.ancestors keys d = r'.ancestors keys d := by
  cases hparent : d.parent with
  | none => rw [ancestors_of_parent_eq_none hparent, ancestors_of_parent_eq_none hparent]
  | some parent =>
    cases hkey : lookupKey? parent with
    | none =>
      rw [ancestors_of_problem (.malformed hparent hkey)]
      rw [ancestors_of_problem (.malformed hparent hkey)]
    | some key =>
      by_cases hmet : key ∈ keys
      . rw [ancestors_of_problem (.circle hparent hkey hmet)]
        rw [ancestors_of_problem (.circle hparent hkey hmet)]
      . cases hfind : r.find? key with
        | none =>
          have hfind' := (h key).symm.trans hfind
          rw [ancestors_of_problem (.undeclared hparent hkey hmet hfind)]
          rw [ancestors_of_problem (.undeclared hparent hkey hmet hfind')]
        | some e =>
          have hfind' := (h key).symm.trans hfind
          rw [ancestors_of_find? hparent hkey hmet hfind]
          rw [ancestors_of_find? hparent hkey hmet hfind', ancestors_congr h]
termination_by (r.unvisited keys).length
decreasing_by exact length_unvisited_lt hfind hmet

theorem resolve_congr {r' : Registry} (h : ∀ key, r.find? key = r'.find? key) (name : String)
    : r.resolve name = r'.resolve name := by
  unfold resolve
  simp only [h, ancestors_congr h]

/-- The keys of declarations in the order in which resolution keeps them: the last one first. -/
def visited (ds : List Declaration) : List String :=
  (ds.map Declaration.key).reverse

theorem mem_visited {ds : List Declaration} {key : String}
    : key ∈ visited ds ↔ key ∈ ds.map Declaration.key := by
  rw [visited, List.mem_reverse]

theorem visited_append_singleton (ds : List Declaration) {e : Declaration} {key : String}
    (h : e.key = key)
    : visited (ds ++ [e]) = key :: visited ds := by
  simp [visited, h]

/-- At each declaration on the way, all that resolution has done is to collect those before. -/
theorem LeadsTo.map_levels_resolve (h : r.LeadsTo name before d)
    : (r.resolve name).map Descriptor.levels
        =
      (r.ancestors (visited (before ++ [d])) d).map fun ds =>
        (before ++ [d] ++ ds).map Declaration.level := by
  induction h with
  | @start key d hkey hfind =>
    have hvisited : visited [d] = [key] := by
      simp [visited, (mem_of_find? hfind).right]
    simp only [resolve, hkey, hfind, List.nil_append, hvisited]
    cases r.ancestors [key] d with
    | error e => rfl
    | ok ds => rfl
  | @step before d e parent key _ hparent hkey hnew hfind ih =>
    rw [← mem_visited] at hnew
    rw [ih, ancestors_of_find? hparent hkey hnew hfind]
    rw [visited_append_singleton _ (mem_of_find? hfind).right]
    cases r.ancestors (key :: visited (before ++ [d])) e with
    | error e => rfl
    | ok ds => simp [Except.map]

theorem LeadsTo.map_levels_resolve_of_parent_eq_none (h : r.LeadsTo name before d)
    (hparent : d.parent = none)
    : (r.resolve name).map Descriptor.levels = .ok ((before ++ [d]).map Declaration.level) := by
  rw [h.map_levels_resolve, ancestors_of_parent_eq_none hparent]
  simp [Except.map]

theorem Problem.visited {ds : List Declaration} {e : ResolutionError}
    (h : r.Problem (ds.map Declaration.key) d e)
    : r.Problem (visited ds) d e := by
  cases h with
  | malformed hparent hkey => exact .malformed hparent hkey
  | circle hparent hkey hmet => exact .circle hparent hkey (mem_visited.mpr hmet)
  | undeclared hparent hkey hnew hfind =>
    exact .undeclared hparent hkey (mt mem_visited.mp hnew) hfind

theorem LeadsTo.resolve_of_problem {e : ResolutionError} (h : r.LeadsTo name before d)
    (hproblem : r.Problem ((before ++ [d]).map Declaration.key) d e)
    : r.resolve name = .error e := by
  apply map_eq_error_iff.mp
  rw [h.map_levels_resolve, ancestors_of_problem hproblem.visited]
  rfl

/-- Resolution starts in vain, or it goes all the way to a root or to a problem. -/
theorem resolve_cases (r : Registry) (name : String)
    : (lookupKey? name = none ∧ r.resolve name = .error .emptyName)
        ∨
      (∃ key, lookupKey? name = some key ∧ r.find? key = none
        ∧ r.resolve name = .error (.unknownType name))
        ∨
      ∃ before d, r.LeadsTo name before d
        ∧
      ((d.parent = none
          ∧ (r.resolve name).map Descriptor.levels = .ok ((before ++ [d]).map Declaration.level))
        ∨
      ∃ e, r.Problem ((before ++ [d]).map Declaration.key) d e ∧ r.resolve name = .error e) := by
  cases hkey : lookupKey? name with
  | none =>
    refine Or.inl ⟨rfl, ?_⟩
    simp [resolve, hkey]
  | some key =>
    cases hfind : r.find? key with
    | none =>
      refine Or.inr (Or.inl ⟨key, rfl, hfind, ?_⟩)
      simp [resolve, hkey, hfind]
    | some first =>
      have hstart := LeadsTo.start hkey hfind
      rcases hstart.exists_end with ⟨before, d, h, hparent | ⟨e, hproblem⟩⟩
      . have hok := h.map_levels_resolve_of_parent_eq_none hparent
        exact Or.inr (Or.inr ⟨before, d, h, Or.inl ⟨hparent, hok⟩⟩)
      . have herror := h.resolve_of_problem hproblem
        exact Or.inr (Or.inr ⟨before, d, h, Or.inr ⟨e, hproblem, herror⟩⟩)

theorem exists_problem_of_resolve_eq_error {e : ResolutionError} (h : r.resolve name = .error e)
    : (e = .emptyName ∧ lookupKey? name = none)
        ∨
      (e = .unknownType name ∧ ∃ key, lookupKey? name = some key ∧ r.find? key = none)
        ∨
      ∃ before d, r.LeadsTo name before d
        ∧ r.Problem ((before ++ [d]).map Declaration.key) d e := by
  rcases resolve_cases r name with ⟨hkey, hresolve⟩ | ⟨key, hkey, hfind, hresolve⟩ |
    ⟨before, d, hleads, ⟨-, hok⟩ | ⟨e', hproblem, hresolve⟩⟩
  . rw [h, Except.error.injEq] at hresolve
    exact Or.inl ⟨hresolve, hkey⟩
  . rw [h, Except.error.injEq] at hresolve
    exact Or.inr (Or.inl ⟨hresolve, key, hkey, hfind⟩)
  . rw [h] at hok
    cases hok
  . rw [h, Except.error.injEq] at hresolve
    subst hresolve
    exact Or.inr (Or.inr ⟨before, d, hleads, hproblem⟩)

theorem resolve_eq_emptyName_iff
    : r.resolve name = .error .emptyName ↔ lookupKey? name = none := by
  constructor
  . intro h
    rcases exists_problem_of_resolve_eq_error h with ⟨-, hkey⟩ | ⟨he, -⟩ | ⟨_, _, -, hproblem⟩
    . exact hkey
    . cases he
    . cases hproblem
  . intro h
    simp [resolve, h]

theorem resolve_eq_unknownType_iff {n : String}
    : r.resolve name = .error (.unknownType n)
        ↔
      n = name ∧ ∃ key, lookupKey? name = some key ∧ r.find? key = none := by
  constructor
  . intro h
    rcases exists_problem_of_resolve_eq_error h with ⟨he, -⟩ | ⟨he, hkey⟩ | ⟨_, _, -, hproblem⟩
    . cases he
    . rw [ResolutionError.unknownType.injEq] at he
      exact ⟨he, hkey⟩
    . cases hproblem
  . rintro ⟨rfl, key, hkey, hfind⟩
    simp [resolve, hkey, hfind]

theorem resolve_eq_unknownParent_iff {child parent : String}
    : r.resolve name = .error (.unknownParent child parent)
        ↔
      ∃ before d, r.LeadsTo name before d ∧ d.name = child ∧ d.parent = some parent
        ∧
      (lookupKey? parent = none
        ∨
      ∃ key, lookupKey? parent = some key ∧ key ∉ (before ++ [d]).map Declaration.key
        ∧ r.find? key = none) := by
  constructor
  . intro h
    rcases exists_problem_of_resolve_eq_error h with
      ⟨he, -⟩ | ⟨he, -⟩ | ⟨before, d, hleads, hproblem⟩
    . cases he
    . cases he
    . cases hproblem with
      | malformed hparent hkey => exact ⟨before, d, hleads, rfl, hparent, Or.inl hkey⟩
      | undeclared hparent hkey hnew hfind =>
        exact ⟨before, d, hleads, rfl, hparent, Or.inr ⟨_, hkey, hnew, hfind⟩⟩
  . rintro ⟨before, d, hleads, rfl, hparent, hkey | ⟨key, hkey, hnew, hfind⟩⟩
    . exact hleads.resolve_of_problem (.malformed hparent hkey)
    . exact hleads.resolve_of_problem (.undeclared hparent hkey hnew hfind)

theorem resolve_eq_cycle_iff {parent : String}
    : r.resolve name = .error (.cycle parent)
        ↔
      ∃ before d, r.LeadsTo name before d ∧ d.parent = some parent
        ∧
      ∃ key ∈ (before ++ [d]).map Declaration.key, lookupKey? parent = some key := by
  constructor
  . intro h
    rcases exists_problem_of_resolve_eq_error h with
      ⟨he, -⟩ | ⟨he, -⟩ | ⟨before, d, hleads, hproblem⟩
    . cases he
    . cases he
    . cases hproblem with
      | circle hparent hkey hmet => exact ⟨before, d, hleads, hparent, _, hmet, hkey⟩
  . rintro ⟨before, d, hleads, hparent, key, hmet, hkey⟩
    exact hleads.resolve_of_problem (.circle hparent hkey hmet)

theorem resolve_eq_ok_iff {x : Descriptor}
    : r.resolve name = .ok x
        ↔
      ∃ before d, r.LeadsTo name before d ∧ d.parent = none
        ∧ x.levels = (before ++ [d]).map Declaration.level := by
  constructor
  . intro h
    rcases resolve_cases r name with ⟨-, hresolve⟩ | ⟨_, -, -, hresolve⟩ |
      ⟨before, d, hleads, ⟨hparent, hok⟩ | ⟨_, -, hresolve⟩⟩
    . rw [h] at hresolve
      cases hresolve
    . rw [h] at hresolve
      cases hresolve
    . rw [h] at hok
      exact ⟨before, d, hleads, hparent, Except.ok.inj hok⟩
    . rw [h] at hresolve
      cases hresolve
  . rintro ⟨before, d, hleads, hparent, hlevels⟩
    rcases map_eq_ok_iff.mp (hleads.map_levels_resolve_of_parent_eq_none hparent) with
      ⟨y, hresolve, hy⟩
    rw [← hlevels] at hy
    rw [hresolve, Descriptor.levels_inj.mp hy]

/-- Every answer of resolution, by how the name reads and where the way from it ends. All ways are
finite: they meet no more declarations than there are. On success the levels are those met, in
order. -/
theorem resolve_answers (r : Registry) (name : String)
    : (r.resolve name = .error .emptyName ↔ QualifiedName.parse? name = none)
        ∧
      (∀ n, r.resolve name = .error (.unknownType n)
          ↔
        n = name ∧ ∃ key, lookupKey? name = some key ∧ r.find? key = none)
        ∧
      (∀ child parent, r.resolve name = .error (.unknownParent child parent)
          ↔
        ∃ before d, r.LeadsTo name before d ∧ d.name = child ∧ d.parent = some parent
          ∧
        (lookupKey? parent = none
          ∨
        ∃ key, lookupKey? parent = some key ∧ key ∉ (before ++ [d]).map Declaration.key
          ∧ r.find? key = none))
        ∧
      (∀ parent, r.resolve name = .error (.cycle parent)
          ↔
        ∃ before d, r.LeadsTo name before d ∧ d.parent = some parent
          ∧
        ∃ key ∈ (before ++ [d]).map Declaration.key, lookupKey? parent = some key)
        ∧
      (∀ x : Descriptor, r.resolve name = .ok x
          ↔
        ∃ before d, r.LeadsTo name before d ∧ d.parent = none
          ∧
        x.levels = (before ++ [d]).map fun e =>
          ⟨(QualifiedName.parse? e.name).getD ⟨[]⟩, e.properties, e.methods⟩)
        ∧
      (∀ e, r.resolve name = .error e → e = .emptyName ∨ (∃ n, e = .unknownType n)
        ∨ (∃ child parent, e = .unknownParent child parent) ∨ ∃ parent, e = .cycle parent)
        ∧
      ∀ before d, r.LeadsTo name before d → (before ++ [d]).length ≤ r.size := by
  refine ⟨?_, fun _ => resolve_eq_unknownType_iff, fun _ _ => resolve_eq_unknownParent_iff,
    fun _ => resolve_eq_cycle_iff, fun _ => resolve_eq_ok_iff, ?_, fun _ _ h => h.length_le_size⟩
  . rw [resolve_eq_emptyName_iff, lookupKey?, Option.map_eq_none_iff]
  . intro e h
    rcases exists_problem_of_resolve_eq_error h with ⟨he, -⟩ | ⟨he, -⟩ | ⟨_, _, -, hproblem⟩
    . exact Or.inl he
    . exact Or.inr (Or.inl ⟨name, he⟩)
    . cases hproblem with
      | malformed => exact Or.inr (Or.inr (Or.inl ⟨_, _, rfl⟩))
      | circle => exact Or.inr (Or.inr (Or.inr ⟨_, rfl⟩))
      | undeclared => exact Or.inr (Or.inr (Or.inl ⟨_, _, rfl⟩))

/-- The circle need not lead back to the type that is asked for. -/
example
    : (Registry.ofList [{ name := "A", parent := some "B" }, { name := "B", parent := some "\\C" },
        { name := "C", parent := some "::B" }]).resolve "A"
        =
      .error (.cycle "::B") := by
  decide +kernel

end Registry

end LazyProxy
