import LazyProxy.Proofs.Document.Registry
import LazyProxy.Proofs.Naming.Display
import Mathlib.Data.List.Induction

/-!
This module contains which declaration a name finds after any number of insertions: the last one of its
key. For plain names that is the last one of its segments, but names that mix separators share the keys
of plain ones.
-/

namespace LazyProxy

theorem lookupKey?_of_parse? {name : String} {n : QualifiedName}
    (h : QualifiedName.parse? name = some n)
    : lookupKey? name = some n.display := by
  rw [lookupKey?, h]
  rfl

namespace Declaration

variable {d : Declaration} {n : QualifiedName}

theorem key_of_parse? (h : QualifiedName.parse? d.name = some n) : d.key = n.display := by
  rw [key, lookupKey?_of_parse? h]
  rfl

theorem key_of_parse?_eq_none (h : QualifiedName.parse? d.name = none) : d.key = d.name := by
  rw [key, lookupKey?, h]
  rfl

/-- A plain name has the key of its own segments only. A name that cannot be read stands for itself,
and the key of a plain name can be read. -/
theorem key_eq_display_iff {name : String} (h : QualifiedName.parse? name = some n)
    (hplain : n.IsPlain) (hd : ∀ m, QualifiedName.parse? d.name = some m → m.IsPlain)
    : d.key = n.display ↔ QualifiedName.parse? d.name = some n := by
  constructor
  . intro hkey
    cases hparse : QualifiedName.parse? d.name with
    | none =>
      rcases QualifiedName.exists_parse?_display h hplain with ⟨m, hm⟩
      rw [← hkey, key_of_parse?_eq_none hparse, hparse] at hm
      contradiction
    | some m =>
      rw [key_of_parse? hparse, QualifiedName.display_inj (hd m hparse) hplain
        (QualifiedName.segments_ne_nil_of_parse? hparse)
        (QualifiedName.segments_ne_nil_of_parse? h)] at hkey
      rw [hkey]
  . exact key_of_parse?

end Declaration

/-- `d` is the last one of `ds` for which `p` holds. -/
def IsLast (p : Declaration → Prop) (ds : List Declaration) (d : Declaration) : Prop :=
  ∃ before after, ds = before ++ d :: after ∧ p d ∧ ∀ e ∈ after, ¬p e

section

variable {p q : Declaration → Prop} {ds : List Declaration} {d e : Declaration}

theorem isLast_append_singleton
    : IsLast p (ds ++ [d]) e ↔ (p d ∧ e = d) ∨ (¬p d ∧ IsLast p ds e) := by
  constructor
  . rintro ⟨before, after, hds, he, hafter⟩
    rcases List.eq_nil_or_concat after with rfl | ⟨init, last, rfl⟩
    . rw [List.append_singleton_inj] at hds
      rw [hds.right]
      exact Or.inl ⟨he, rfl⟩
    . rw [List.concat_eq_append, ← List.cons_append, ← List.append_assoc,
        List.append_singleton_inj] at hds
      rw [List.concat_eq_append, List.forall_mem_append] at hafter
      rw [hds.right]
      exact Or.inr ⟨hafter.right last (by simp), before, init, hds.left, he, hafter.left⟩
  . rintro (⟨hd, rfl⟩ | ⟨hd, before, after, rfl, he, hafter⟩)
    . exact ⟨ds, [], rfl, hd, by simp⟩
    . refine ⟨before, after ++ [d], by simp, he, ?_⟩
      rw [List.forall_mem_append]
      exact ⟨hafter, by simpa using hd⟩

theorem isLast_congr (h : ∀ e ∈ ds, p e ↔ q e) : IsLast p ds d ↔ IsLast q ds d := by
  constructor
  . rintro ⟨before, after, rfl, hd, hafter⟩
    refine ⟨before, after, rfl, (h d (by simp)).mp hd, fun e he => ?_⟩
    exact mt (h e (by simp [he])).mpr (hafter e he)
  . rintro ⟨before, after, rfl, hd, hafter⟩
    refine ⟨before, after, rfl, (h d (by simp)).mpr hd, fun e he => ?_⟩
    exact mt (h e (by simp [he])).mp (hafter e he)

end

namespace Registry

/-- The declaration that another one takes the place of when it is inserted. -/
def displaced? (r : Registry) (d : Declaration) : Option Declaration :=
  r.find? d.key

theorem find?_ofList_eq_some_iff {ds : List Declaration} {key : String} {d : Declaration}
    : (ofList ds).find? key = some d ↔ IsLast (·.key = key) ds d := by
  induction ds using List.reverseRecOn with
  | nil =>
    have hempty : (ofList []).find? key = none := rfl
    simp [hempty, IsLast]
  | append_singleton ds e ih =>
    rw [ofList_append_singleton, find?_insert, isLast_append_singleton, ← ih]
    split
    . next hkey => simp [hkey, eq_comm]
    . next hkey => simp [hkey]

theorem exists_find?_ofList_iff {ds : List Declaration} {key : String}
    : (∃ d, (ofList ds).find? key = some d) ↔ ∃ d ∈ ds, d.key = key := by
  induction ds using List.reverseRecOn with
  | nil =>
    have hempty : (ofList []).find? key = none := rfl
    simp [hempty]
  | append_singleton ds e ih =>
    rw [ofList_append_singleton, find?_insert]
    split
    . next hkey => simp [hkey]
    . next hkey => simp [hkey, ih]

variable {name : String} {n : QualifiedName}

theorem get?_of_parse? (r : Registry) (h : QualifiedName.parse? name = some n)
    : r.get? name = r.find? n.display := by
  rw [get?, lookupKey?_of_parse? h]
  rfl

theorem contains_ofList_iff (h : QualifiedName.parse? name = some n) (ds : List Declaration)
    : (ofList ds).contains name ↔ ∃ d ∈ ds, d.key = n.display := by
  rw [contains, Option.isSome_iff_exists, get?_of_parse? _ h]
  exact exists_find?_ofList_iff

theorem get?_insert_of_key_ne (r : Registry) {d : Declaration}
    (h : QualifiedName.parse? name = some n) (hkey : d.key ≠ n.display)
    : (r.insert d).get? name = r.get? name := by
  rw [get?_of_parse? _ h, get?_of_parse? _ h, find?_insert, if_neg hkey]

/-- What a name finds after any insertions is the last declaration of its key, and this is what a
declaration of that key displaces. Declarations of other keys have no part in it. Among plain names, and
names that cannot be read, declarations of one key are those whose names have the same segments. -/
theorem insertions_by_key (ds : List Declaration) (name : String) (n : QualifiedName)
    (h : QualifiedName.parse? name = some n)
    : (∀ d, (ofList ds).get? name = some d ↔ IsLast (·.key = n.display) ds d)
        ∧
      ((ofList ds).contains name ↔ ∃ d ∈ ds, d.key = n.display)
        ∧
      (∀ d old, (ofList ds).displaced? d = some old ↔ IsLast (·.key = d.key) ds old)
        ∧
      (∀ d e, e ∈ ((ofList ds).insert d).declarations
          ↔
        e = d ∨ e ∈ (ofList ds).declarations ∧ (ofList ds).displaced? d ≠ some e)
        ∧
      (∀ d, d.key ≠ n.display → ((ofList ds).insert d).get? name = (ofList ds).get? name)
        ∧
      (n.IsPlain →
        (∀ e ∈ ds, ∀ m, QualifiedName.parse? e.name = some m → m.IsPlain) →
          (∀ d, (ofList ds).get? name = some d
              ↔
            IsLast (QualifiedName.parse? ·.name = some n) ds d)
            ∧
          ((ofList ds).contains name ↔ ∃ d ∈ ds, QualifiedName.parse? d.name = some n)
            ∧
          (∀ d old, QualifiedName.parse? d.name = some n →
            ((ofList ds).displaced? d = some old
              ↔
            IsLast (QualifiedName.parse? ·.name = some n) ds old))
            ∧
          ∀ d m, QualifiedName.parse? d.name = some m → m.IsPlain → m ≠ n →
            ((ofList ds).insert d).get? name = (ofList ds).get? name) := by
  have hget : ∀ d, (ofList ds).get? name = some d ↔ IsLast (·.key = n.display) ds d := by
    intro d
    rw [get?_of_parse? _ h]
    exact find?_ofList_eq_some_iff
  have hdisplaced : ∀ d old, (ofList ds).displaced? d = some old ↔ IsLast (·.key = d.key) ds old :=
    fun d old => find?_ofList_eq_some_iff
  refine ⟨hget, contains_ofList_iff h ds, hdisplaced, ?_, fun d => get?_insert_of_key_ne _ h, ?_⟩
  . intro d e
    rw [mem_insert]
    refine or_congr_right (and_congr_right fun he => not_congr ?_)
    rw [displaced?, find?_eq_some_iff]
    exact ⟨fun hkey => ⟨he, hkey⟩, And.right⟩
  . intro hplain hds
    have hsame : ∀ e ∈ ds, e.key = n.display ↔ QualifiedName.parse? e.name = some n :=
      fun e he => Declaration.key_eq_display_iff h hplain (hds e he)
    refine ⟨?_, ?_, ?_, ?_⟩
    . intro d
      rw [hget, isLast_congr hsame]
    . rw [contains_ofList_iff h]
      exact exists_congr fun d => and_congr_right fun hd => hsame d hd
    . intro d old hd
      rw [hdisplaced, Declaration.key_of_parse? hd, isLast_congr hsame]
    . intro d m hd hm hne
      apply get?_insert_of_key_ne _ h
      rw [Ne, Declaration.key_eq_display_iff h hplain (by simp [hd, hm]), hd]
      simpa using hne

/-- Declarations of one type in several spellings, another type, and one whose name cannot be read. -/
def spellings : List Declaration :=
  [{ name := "App\\A", methods := ["first"] }, { name := "App\\\\A" }, { name := "App\\B" },
    { name := " ::App::A", methods := ["last"] }]

theorem insertions_by_key_spellings
    : QualifiedName.parse? "\\App\\A" = some ⟨["App", "A"]⟩
        ∧
      (∀ e ∈ spellings, ∀ m, QualifiedName.parse? e.name = some m → m.IsPlain)
        ∧
      (ofList spellings).get? "\\App\\A" = some { name := " ::App::A", methods := ["last"] }
        ∧
      (ofList spellings).displaced? { name := "App::A" }
        = some { name := " ::App::A", methods := ["last"] } := by
  have hparse : QualifiedName.parse? "\\App\\A" = some ⟨["App", "A"]⟩ := by decide
  have hplain : ∀ e ∈ spellings, ∀ m ∈ QualifiedName.parse? e.name, m.IsPlain := by decide
  have hlast : IsLast (QualifiedName.parse? ·.name = some ⟨["App", "A"]⟩) spellings
      { name := " ::App::A", methods := ["last"] } :=
    ⟨spellings.take 3, [], rfl, by decide, by simp⟩
  rcases insertions_by_key spellings _ _ hparse with ⟨-, -, -, -, -, h⟩
  rcases h (by decide) hplain with ⟨hget, -, hdisplaced, -⟩
  exact ⟨hparse, hplain, (hget _).mpr hlast, (hdisplaced _ _ (by decide)).mpr hlast⟩

/-- A name that mixes separators finds what no declaration of its segments has declared. -/
theorem segments_not_distinguished
    : ¬∀ (ds : List Declaration) (name : String) (n : QualifiedName),
        QualifiedName.parse? name = some n →
          ((ofList ds).contains name ↔ ∃ d ∈ ds, QualifiedName.parse? d.name = some n) := by
  intro h
  have hmixed := h [{ name := "App\\B\\C" }] "App\\B::C" ⟨["App\\B", "C"]⟩ (by decide)
  rcases hmixed.mp (by decide) with ⟨d, hd, hparse⟩
  rw [List.mem_singleton] at hd
  subst hd
  exact absurd hparse (by decide)

end Registry

end LazyProxy
