import LazyProxy.Proofs.Document.Resolution
import LazyProxy.Generator

/-!
This module contains what an insertion leaves as it was: the answer for each name whose resolution does
not look up the key of the inserted declaration, and the places of all other declarations.
-/

namespace LazyProxy.Registry

/-- The keys that the resolution of a name looks up: that of the name and those of the parents on the way,
a missing one included. -/
inductive LooksUp (r : Registry) (name : String) : String → Prop where
  | start {key : String} (hkey : lookupKey? name = some key) : LooksUp r name key
  | parent {before : List Declaration} {d : Declaration} {parent key : String}
    (h : r.LeadsTo name before d) (hparent : d.parent = some parent)
    (hkey : lookupKey? parent = some key) : LooksUp r name key

variable {r : Registry} {name : String} {before : List Declaration} {d e : Declaration}

/-- Keys are enough if the name's is among them and, with the key of a declaration, that of its
parent. -/
theorem LooksUp.mem_of_closed {key : String} {keys : List String} (h : r.LooksUp name key)
    (hstart : ∀ start, lookupKey? name = some start → start ∈ keys)
    (hclosed : ∀ d ∈ r.declarations, d.key ∈ keys →
      ∀ parent ∈ d.parent, ∀ next, lookupKey? parent = some next → next ∈ keys)
    : key ∈ keys := by
  -- The keys of all declarations on the way are among `keys`, by induction on the way.
  have hway : ∀ {before d}, r.LeadsTo name before d → d ∈ r.declarations ∧ d.key ∈ keys := by
    intro before d h
    induction h with
    | start hkey hfind =>
      rcases mem_of_find? hfind with ⟨hd, rfl⟩
      exact ⟨hd, hstart _ hkey⟩
    | step _ hparent hkey _ hfind ih =>
      rcases mem_of_find? hfind with ⟨he, rfl⟩
      exact ⟨he, hclosed _ ih.left ih.right _ hparent _ hkey⟩
  cases h with
  | start hkey => exact hstart _ hkey
  | parent h hparent hkey =>
    rcases hway h with ⟨hd, hdkey⟩
    exact hclosed _ hd hdkey _ hparent _ hkey

theorem find?_insert_of_looksUp {key : String} (hlocal : ¬r.LooksUp name d.key)
    (h : r.LooksUp name key)
    : (r.insert d).find? key = r.find? key := by
  rw [find?_insert, if_neg]
  intro hkey
  rw [hkey] at hlocal
  exact hlocal h

theorem LeadsTo.insert (h : r.LeadsTo name before e) (hlocal : ¬r.LooksUp name d.key)
    : (r.insert d).LeadsTo name before e := by
  induction h with
  | start hkey hfind =>
    apply LeadsTo.start hkey
    rw [find?_insert_of_looksUp hlocal (.start hkey)]
    exact hfind
  | step h hparent hkey hnew hfind ih =>
    apply ih.step hparent hkey hnew
    rw [find?_insert_of_looksUp hlocal (.parent h hparent hkey)]
    exact hfind

theorem Problem.insert {keys : List String} {err : ResolutionError} (h : r.Problem keys e err)
    (hleads : r.LeadsTo name before e) (hlocal : ¬r.LooksUp name d.key)
    : (r.insert d).Problem keys e err := by
  cases h with
  | malformed hparent hkey => exact .malformed hparent hkey
  | circle hparent hkey hmet => exact .circle hparent hkey hmet
  | undeclared hparent hkey hnew hfind =>
    apply Problem.undeclared hparent hkey hnew
    rw [find?_insert_of_looksUp hlocal (.parent hleads hparent hkey)]
    exact hfind

theorem resolve_insert (hlocal : ¬r.LooksUp name d.key)
    : (r.insert d).resolve name = r.resolve name := by
  rcases resolve_cases r name with ⟨hkey, hresolve⟩ | ⟨key, hkey, hfind, hresolve⟩ |
    ⟨before, e, hleads, ⟨hend, -⟩ | ⟨err, hproblem, hresolve⟩⟩
  . rw [hresolve, resolve_eq_emptyName_iff]
    exact hkey
  . rw [hresolve, resolve_eq_unknownType_iff]
    refine ⟨rfl, key, hkey, ?_⟩
    rw [find?_insert_of_looksUp hlocal (.start hkey)]
    exact hfind
  . rcases map_eq_ok_iff.mp (hleads.map_levels_resolve_of_parent_eq_none hend) with
      ⟨x, hx, hlevels⟩
    rw [hx, resolve_eq_ok_iff]
    exact ⟨before, e, hleads.insert hlocal, hend, hlevels⟩
  . rw [hresolve]
    exact (hleads.insert hlocal).resolve_of_problem (hproblem.insert hleads hlocal)

theorem getElem?_declarations_insert {i : Nat} (hkey : e.key ≠ d.key)
    : (r.insert d).declarations[i]? = some e ↔ r.declarations[i]? = some e := by
  unfold Registry.insert
  split
  . simp only [replaced, List.getElem?_map, Option.map_eq_some_iff]
    constructor
    . intro h
      rcases h with ⟨f, hf, hfe⟩
      split at hfe
      . subst hfe
        exact absurd rfl hkey
      . rw [hf, hfe]
    . intro h
      exact ⟨e, h, if_neg hkey⟩
  . have hne : e ≠ d := fun h => hkey (congrArg Declaration.key h)
    simp only [List.getElem?_append, List.getElem?_singleton]
    split
    . rfl
    . next hi =>
      rw [List.getElem?_eq_none (by omega)]
      simp [Ne.symm hne]

/-- Inserting a declaration whose key the resolution of a name does not look up changes nothing about
the name's answer, be it a chain or an error, nor about the sources made of it. Declarations of other
keys keep their places. -/
theorem insert_local (r : Registry) (d : Declaration) (name : String)
    (hlocal : ¬r.LooksUp name d.key)
    : (r.insert d).resolve name = r.resolve name
        ∧
      (∀ c : Config, c.generateNamed (r.insert d) name = c.generateNamed r name)
        ∧
      (∀ (i : Nat) (e : Declaration), e.key ≠ d.key →
        ((r.insert d).declarations[i]? = some e ↔ r.declarations[i]? = some e))
        ∧
      ∀ (i : Nat) (e : Declaration), e.key ≠ d.key → r.declarations[i]? = some e →
        r.names[i]? = some e.name ∧ (r.insert d).names[i]? = some e.name := by
  have hresolve := resolve_insert hlocal
  refine ⟨hresolve, ?_, fun _ _ => getElem?_declarations_insert, ?_⟩
  . intro c
    rw [Config.generateNamed, Config.generateNamed, hresolve]
  . intro i e hkey he
    have he' := (getElem?_declarations_insert hkey).mpr he
    rw [names, names, List.getElem?_map, List.getElem?_map, he, he']
    exact ⟨rfl, rfl⟩

/-- A chain that ends at a parent that is missing, behind a type that has no part in it. -/
def orphans : Registry :=
  ofList [{ name := "App\\Draft" }, { name := "App\\Reply", parent := some "App\\Comment" },
    { name := "App\\Comment", parent := some "App\\Document" }]

theorem insert_local_orphans
    : ¬orphans.LooksUp "App::Reply" "App\\Draft"
        ∧
      (orphans.insert { name := "App::Draft", parent := some "App\\Reply" }).resolve "App::Reply"
          = .error (.unknownParent "App\\Comment" "App\\Document")
        ∧
      (orphans.insert { name := "App::Draft", parent := some "App\\Reply" }).names
          = ["App::Draft", "App\\Reply", "App\\Comment"] := by
  have hlocal : ¬orphans.LooksUp "App::Reply" "App\\Draft" := by
    intro h
    have hkeys : "App\\Draft" ∈ ["App\\Reply", "App\\Comment", "App\\Document"] :=
      h.mem_of_closed (by decide) (by decide)
    exact absurd hkeys (by decide)
  rcases insert_local orphans { name := "App::Draft", parent := some "App\\Reply" } "App::Reply"
    hlocal with ⟨hresolve, -, -, -⟩
  refine ⟨hlocal, ?_, by decide⟩
  rw [hresolve]
  decide +kernel

end LazyProxy.Registry
