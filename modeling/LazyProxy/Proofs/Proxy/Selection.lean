import LazyProxy.Proofs.Proxy.Members

/-!
This module contains which accessors are planned for the properties of a list, in which one name may
occur several times. Of these only the first one counts, as it does in a set.
-/

namespace LazyProxy.Descriptor

variable {d : Descriptor} {decided claimed : List String}

/-- Whether the accessor of a kind is generated for the property at an index of a list. -/
def Generates (d : Descriptor) (ps : List Property) (i : Nat) (p : Property) (k : AccessorKind)
    : Prop :=
  ¬d.Provides (k.nameFor p.name)
    ∧
  ∀ q ∈ ps.take i, foldCase (k.nameFor q.name) = foldCase (k.nameFor p.name) →
    d.Provides (k.nameFor q.name)

instance (d : Descriptor) (ps : List Property) (i : Nat) (p : Property) (k : AccessorKind)
    : Decidable (d.Generates ps i p k) :=
  inferInstanceAs (Decidable (_ ∧ _))

/-- The members that are generated for the properties of a list, in order. -/
def membersOf (d : Descriptor) (ps : List Property) : List Member :=
  ps.zipIdx.flatMap fun (p, i) =>
    ([AccessorKind.getter, .setter].filter fun k => d.Generates ps i p k).map fun k =>
      k.member (k.nameFor p.name) p

theorem mem_accessorNames {ps : List Property} {name : String}
    : name ∈ accessorNames ps ↔ ∃ p ∈ ps, ∃ k : AccessorKind, k.nameFor p.name = name := by
  unfold accessorNames
  rw [List.mem_flatMap]
  constructor
  . rintro ⟨p, hp, hname⟩
    simp only [List.mem_cons, List.not_mem_nil, or_false] at hname
    rcases hname with rfl | rfl
    . exact ⟨p, hp, .getter, rfl⟩
    . exact ⟨p, hp, .setter, rfl⟩
  . rintro ⟨p, hp, k, rfl⟩
    refine ⟨p, hp, ?_⟩
    cases k with
    | getter => simp [AccessorKind.nameFor]
    | setter => simp [AccessorKind.nameFor]

theorem decide_generate_iff_generates {ps : List Property} {i : Nat} {p : Property}
    {k : AccessorKind} (h : d.Claims decided claimed)
    (hdecided : ∀ n, foldCase n = foldCase (k.nameFor p.name) →
      (n ∈ decided ↔ n ∈ accessorNames (ps.take i)))
    : (d.decide claimed (k.nameFor p.name)).1.generate ↔ d.Generates ps i p k := by
  rw [decide_generate_iff h]
  apply and_congr Iff.rfl
  constructor
  . intro hall q hq hfold
    apply hall _ _ hfold
    rw [hdecided _ hfold, mem_accessorNames]
    exact ⟨q, hq, k, rfl⟩
  . intro hall n hn hfold
    rw [hdecided _ hfold, mem_accessorNames] at hn
    rcases hn with ⟨q, hq, l, rfl⟩
    have hkind := AccessorKind.eq_of_foldCase_nameFor_eq hfold
    subst hkind
    exact hall q hq hfold

theorem decide_eq {ps : List Property} {i : Nat} {p : Property} {k : AccessorKind}
    (h : d.Claims decided claimed)
    (hdecided : ∀ n, foldCase n = foldCase (k.nameFor p.name) →
      (n ∈ decided ↔ n ∈ accessorNames (ps.take i)))
    : (d.decide claimed (k.nameFor p.name)).1
        =
      ⟨k.nameFor p.name, Decidable.decide (d.Generates ps i p k)⟩ := by
  have hname := decide_name d claimed (k.nameFor p.name)
  have hgenerate := decide_generate_iff_generates h hdecided
  rcases hdecide : (d.decide claimed (k.nameFor p.name)).1 with ⟨name, generate⟩
  rw [hdecide] at hname hgenerate
  rw [Accessor.mk.injEq]
  exact ⟨hname, by simp [← hgenerate]⟩

theorem getElem?_planAfter_nil {ps : List Property} {i : Nat} {p : Property} (hp : ps[i]? = some p)
    : (d.planAfter [] ps)[i]?
        =
      some ⟨p, ⟨getterName p.name, Decidable.decide (d.Generates ps i p .getter)⟩,
        ⟨setterName p.name, Decidable.decide (d.Generates ps i p .setter)⟩⟩ := by
  rcases getElem?_planAfter (Claims.nil d) hp with ⟨before, hbefore, hplan⟩
  rw [List.nil_append] at hbefore
  have hgetter : (d.decide before (getterName p.name)).1 = ⟨getterName p.name, _⟩ :=
    decide_eq (k := .getter) hbefore fun n _ => Iff.rfl
  have hnext := hbefore.decide (getterName p.name)
  have hsetter : (d.decide (d.decide before (getterName p.name)).2 (setterName p.name)).1
      = ⟨setterName p.name, Decidable.decide (d.Generates ps i p .setter)⟩ := by
    refine decide_eq (k := .setter) hnext ?_
    intro n hfold
    -- The getter of the same property does not count, as no getter has the name of a setter.
    have hne : n ≠ getterName p.name := by
      rintro rfl
      have := AccessorKind.eq_of_foldCase_nameFor_eq (k := .getter) hfold
      contradiction
    simp [hne]
  rw [hplan]
  exact congrArg some ((AccessorPlan.mk.injEq ..).mpr ⟨rfl, hgetter, hsetter⟩)

theorem planAfter_nil_eq (d : Descriptor) (ps : List Property)
    : d.planAfter [] ps
        =
      ps.zipIdx.map fun (p, i) =>
        ⟨p, ⟨getterName p.name, Decidable.decide (d.Generates ps i p .getter)⟩,
          ⟨setterName p.name, Decidable.decide (d.Generates ps i p .setter)⟩⟩ := by
  apply List.ext_getElem?
  intro i
  rw [List.getElem?_map, List.getElem?_zipIdx]
  cases hp : ps[i]? with
  | none =>
    have hlength := congrArg List.length (map_property_planAfter d [] ps)
    rw [List.length_map] at hlength
    rw [List.getElem?_eq_none_iff] at hp
    rw [Option.map_none, Option.map_none, List.getElem?_eq_none_iff, hlength]
    exact hp
  | some p =>
    rw [getElem?_planAfter_nil hp]
    simp

theorem flatMap_members_planAfter_nil (d : Descriptor) (ps : List Property)
    : (d.planAfter [] ps).flatMap AccessorPlan.members = d.membersOf ps := by
  rw [planAfter_nil_eq, membersOf, List.flatMap_map]
  congr 1
  funext ⟨p, i⟩
  simp only [AccessorPlan.members, List.filter_cons, List.filter_nil, decide_eq_true_eq]
  split
  . split
    . rfl
    . rfl
  . split
    . rfl
    . rfl

/-- A name that was decided on before is not generated, and no further name is claimed. -/
theorem decide_of_mem (h : d.Claims decided claimed) {name : String} (hname : name ∈ decided)
    : d.decide claimed name = (⟨name, false⟩, claimed) := by
  unfold Descriptor.decide
  rw [if_pos]
  rw [Bool.or_eq_true, hasAccessor_iff, List.contains_iff_mem, h (foldCase name)]
  by_cases hprovides : d.Provides name
  . exact Or.inl hprovides
  . exact Or.inr ⟨name, hname, hprovides, rfl⟩

theorem exists_foldl_insert (d : Descriptor) (ps : List Property) (s : PropertySet)
    (h : d.Claims decided claimed)
    (hdecided : ∀ p ∈ s.properties, getterName p.name ∈ decided ∧ setterName p.name ∈ decided)
    : ∃ fresh, (ps.foldl PropertySet.insert s).properties = s.properties ++ fresh
        ∧
      (d.planAfter claimed fresh).flatMap AccessorPlan.members
        = (d.planAfter claimed ps).flatMap AccessorPlan.members := by
  induction ps generalizing s decided claimed with
  | nil => exact ⟨[], by simp, rfl⟩
  | cons p ps ih =>
    rw [List.foldl_cons, planAfter_cons, List.flatMap_cons]
    by_cases hp : p.name ∈ s.names
    . -- Both accessors are decided already, so the property adds nothing.
      rcases List.mem_map.mp hp with ⟨q, hq, hname⟩
      rcases hdecided q hq with ⟨hgetter, hsetter⟩
      rw [hname] at hgetter hsetter
      have hinsert : s.insert p = s := by rw [PropertySet.insert, dif_pos hp]
      rw [hinsert, decide_of_mem h hgetter, decide_of_mem h hsetter]
      exact ih s h hdecided
    . have hinsert : (s.insert p).properties = s.properties ++ [p] := by
        rw [PropertySet.insert, dif_neg hp]
      have hnext := (h.decide (getterName p.name)).decide (setterName p.name)
      rcases ih (s.insert p) hnext (by
        intro q hq
        rw [hinsert, List.mem_append, List.mem_singleton] at hq
        rcases hq with hq | rfl
        . simp [hdecided q hq]
        . simp) with ⟨fresh, hfresh, hmembers⟩
      refine ⟨p :: fresh, by rw [hfresh, hinsert]; simp, ?_⟩
      rw [planAfter_cons, List.flatMap_cons, hmembers]

/-- A plan has the accessors of a list of properties whether or not names that occur again are left
out first. -/
theorem flatMap_members_plan_ofList (d : Descriptor) (ps : List Property)
    : (d.plan (.ofList ps)).flatMap AccessorPlan.members = d.membersOf ps := by
  rcases exists_foldl_insert d ps ∅ (Claims.nil d) (by rintro p ⟨⟩) with ⟨fresh, hfresh, hmembers⟩
  have hproperties : (PropertySet.ofList ps).properties = fresh := hfresh
  rw [plan, hproperties, hmembers, flatMap_members_planAfter_nil]

end LazyProxy.Descriptor
