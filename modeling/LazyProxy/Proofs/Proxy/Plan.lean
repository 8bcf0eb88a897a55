import Mathlib.Data.List.Nodup
import LazyProxy.Proofs.Naming.Accessor
import LazyProxy.Proxy.Model

/-!
This module contains which accessors a plan generates. The names claimed on the way are those that
were decided on before and that the chain does not provide, which settles every decision.
-/

namespace LazyProxy

def AccessorPlan.accessor (a : AccessorPlan) : AccessorKind → Accessor
  | .getter => a.getter
  | .setter => a.setter

/-- The names of the accessors that plans generate, in order. -/
def generatedNames (plans : List AccessorPlan) : List String :=
  (plans.flatMap AccessorPlan.members).filterMap Member.method?

theorem AccessorPlan.mem_method?_members (a : AccessorPlan) (name : String)
    : name ∈ a.members.filterMap Member.method?
        ↔
      ∃ k, (a.accessor k).generate ∧ (a.accessor k).name = name := by
  unfold members
  rw [List.filterMap_append, List.mem_append]
  constructor
  . intro h
    cases h with
    | inl h =>
      split at h
      . next hg =>
        refine ⟨.getter, hg, ?_⟩
        simpa [accessor, Member.method?, eq_comm] using h
      . contradiction
    | inr h =>
      split at h
      . next hg =>
        refine ⟨.setter, hg, ?_⟩
        simpa [accessor, Member.method?, eq_comm] using h
      . contradiction
  . rintro ⟨k, hgenerate, hname⟩
    cases k with
    | getter =>
      left
      simp_all [accessor, Member.method?]
    | setter =>
      right
      simp_all [accessor, Member.method?]

theorem mem_generatedNames {plans : List AccessorPlan} {name : String}
    : name ∈ generatedNames plans
        ↔
      ∃ a ∈ plans, ∃ k, (a.accessor k).generate ∧ (a.accessor k).name = name := by
  unfold generatedNames
  rw [List.filterMap_flatMap, List.mem_flatMap]
  simp only [AccessorPlan.mem_method?_members]

namespace Descriptor

/-- Some class of the chain has a method of the name, as it is or in snake case, in any ASCII case. -/
def Provides (d : Descriptor) (name : String) : Prop :=
  ∃ c ∈ d.levels, ∃ m ∈ c.methods,
    foldCase m = foldCase name ∨ foldCase m = foldCase (snakeCase name)

theorem hasMethod_iff (d : Descriptor) (method : String)
    : d.hasMethod method ↔ ∃ c ∈ d.levels, ∃ m ∈ c.methods, foldCase m = foldCase method := by
  simp [hasMethod, ClassLevel.declares]

theorem hasAccessor_iff (d : Descriptor) (name : String) : d.hasAccessor name ↔ d.Provides name := by
  simp only [hasAccessor, Bool.or_eq_true, hasMethod_iff, Provides]
  constructor
  . rintro (⟨c, hc, m, hm, h⟩ | ⟨c, hc, m, hm, h⟩)
    . exact ⟨c, hc, m, hm, Or.inl h⟩
    . exact ⟨c, hc, m, hm, Or.inr h⟩
  . rintro ⟨c, hc, m, hm, h | h⟩
    . exact Or.inl ⟨c, hc, m, hm, h⟩
    . exact Or.inr ⟨c, hc, m, hm, h⟩

instance (d : Descriptor) (name : String) : Decidable (d.Provides name) :=
  decidable_of_iff (d.hasAccessor name) (d.hasAccessor_iff name)

theorem not_provides_iff (d : Descriptor) (name : String)
    : ¬d.Provides name
        ↔
      ∀ c ∈ d.levels, ∀ m ∈ c.methods,
        foldCase m ≠ foldCase name ∧ foldCase m ≠ foldCase (snakeCase name) := by
  simp [Provides]

/-- The invariant of planning: of the names decided on so far, those that the chain does not provide
are claimed. -/
def Claims (d : Descriptor) (decided claimed : List String) : Prop :=
  ∀ f, f ∈ claimed ↔ ∃ n ∈ decided, ¬d.Provides n ∧ foldCase n = f

theorem Claims.nil (d : Descriptor) : d.Claims [] [] := by
  simp [Claims]

variable {d : Descriptor} {decided claimed : List String}

theorem decide_name (d : Descriptor) (claimed : List String) (name : String)
    : (d.decide claimed name).1.name = name := by
  unfold Descriptor.decide
  split
  . rfl
  . rfl

theorem decide_generate_iff (h : d.Claims decided claimed) (name : String)
    : (d.decide claimed name).1.generate
        ↔
      ¬d.Provides name ∧ ∀ n ∈ decided, foldCase n = foldCase name → d.Provides n := by
  have hclaimed := h (foldCase name)
  unfold Descriptor.decide
  split
  . next hskip =>
    simp only [Bool.or_eq_true, hasAccessor_iff, List.contains_iff_mem] at hskip
    simp only [Bool.false_eq_true, false_iff, not_and, not_forall]
    intro hname
    rcases hclaimed.mp (hskip.resolve_left hname) with ⟨n, hn, hprovides, hfold⟩
    exact ⟨n, hn, hfold, hprovides⟩
  . next hskip =>
    simp only [Bool.or_eq_true, hasAccessor_iff, List.contains_iff_mem, not_or] at hskip
    simp only [true_iff]
    refine ⟨hskip.left, ?_⟩
    intro n hn hfold
    apply Classical.byContradiction
    intro hprovides
    exact hskip.right (hclaimed.mpr ⟨n, hn, hprovides, hfold⟩)

theorem Claims.decide (h : d.Claims decided claimed) (name : String)
    : d.Claims (decided ++ [name]) (d.decide claimed name).2 := by
  intro f
  have hf := h f
  have hname := h (foldCase name)
  unfold Descriptor.decide
  split
  . next hskip =>
    simp only [Bool.or_eq_true, hasAccessor_iff, List.contains_iff_mem] at hskip
    rw [hf]
    constructor
    . rintro ⟨n, hn, hrest⟩
      exact ⟨n, List.mem_append_left _ hn, hrest⟩
    . rintro ⟨n, hn, hprovides, hfold⟩
      cases List.mem_append.mp hn with
      | inl hn => exact ⟨n, hn, hprovides, hfold⟩
      | inr hn =>
        rw [List.mem_singleton] at hn
        subst hn
        rw [← hfold, ← hname]
        exact hskip.resolve_left hprovides
  . next hskip =>
    simp only [Bool.or_eq_true, hasAccessor_iff, List.contains_iff_mem, not_or] at hskip
    rw [List.mem_cons, hf]
    constructor
    . rintro (rfl | ⟨n, hn, hrest⟩)
      . exact ⟨name, by simp, hskip.left, rfl⟩
      . exact ⟨n, List.mem_append_left _ hn, hrest⟩
    . rintro ⟨n, hn, hprovides, hfold⟩
      cases List.mem_append.mp hn with
      | inl hn => exact Or.inr ⟨n, hn, hprovides, hfold⟩
      | inr hn =>
        rw [List.mem_singleton] at hn
        subst hn
        exact Or.inl hfold.symm

/-- The names of the accessors of properties, in the order in which they are decided on. -/
def accessorNames (ps : List Property) : List String :=
  ps.flatMap fun p => [getterName p.name, setterName p.name]

theorem mem_accessorNames_take {ps : List Property} {i : Nat} {name : String}
    : name ∈ accessorNames (ps.take i)
        ↔
      ∃ j q, j < i ∧ ps[j]? = some q ∧ ∃ k : AccessorKind, k.nameFor q.name = name := by
  unfold accessorNames
  rw [List.mem_flatMap]
  constructor
  . rintro ⟨q, hq, hname⟩
    rcases List.mem_iff_getElem?.mp hq with ⟨j, hj⟩
    rw [List.getElem?_take] at hj
    split at hj
    . next hlt =>
      refine ⟨j, q, hlt, hj, ?_⟩
      simp only [List.mem_cons, List.not_mem_nil, or_false] at hname
      cases hname with
      | inl hname => exact ⟨.getter, hname.symm⟩
      | inr hname => exact ⟨.setter, hname.symm⟩
    . contradiction
  . rintro ⟨j, q, hlt, hq, k, hname⟩
    refine ⟨q, ?_, ?_⟩
    . apply List.mem_iff_getElem?.mpr
      refine ⟨j, ?_⟩
      rw [List.getElem?_take, if_pos hlt, hq]
    . subst hname
      cases k with
      | getter => simp [AccessorKind.nameFor]
      | setter => simp [AccessorKind.nameFor]

theorem planAfter_cons (d : Descriptor) (claimed : List String) (p : Property) (ps : List Property)
    : d.planAfter claimed (p :: ps)
        =
      ⟨p, (d.decide claimed (getterName p.name)).1,
        (d.decide (d.decide claimed (getterName p.name)).2 (setterName p.name)).1⟩
        :: d.planAfter (d.decide (d.decide claimed (getterName p.name)).2 (setterName p.name)).2 ps
    := by
  rfl

theorem getElem?_planAfter (h : d.Claims decided claimed) {ps : List Property} {i : Nat}
    {p : Property} (hp : ps[i]? = some p)
    : ∃ before, d.Claims (decided ++ accessorNames (ps.take i)) before
        ∧
      (d.planAfter claimed ps)[i]?
        =
      some ⟨p, (d.decide before (getterName p.name)).1,
        (d.decide (d.decide before (getterName p.name)).2 (setterName p.name)).1⟩ := by
  induction ps generalizing decided claimed i with
  | nil => simp at hp
  | cons q ps ih =>
    rw [planAfter_cons]
    cases i with
    | zero =>
      simp only [List.getElem?_cons_zero, Option.some.injEq] at hp
      subst hp
      refine ⟨claimed, ?_, by simp⟩
      simpa [accessorNames] using h
    | succ i =>
      simp only [List.getElem?_cons_succ] at hp
      -- The decisions on `q` keep the invariant for the properties after it.
      have hnext := (h.decide (getterName q.name)).decide (setterName q.name)
      rcases ih hnext hp with ⟨before, hbefore, hplan⟩
      refine ⟨before, ?_, by simpa using hplan⟩
      simpa [accessorNames] using hbefore

theorem map_property_planAfter (d : Descriptor) (claimed : List String) (ps : List Property)
    : (d.planAfter claimed ps).map AccessorPlan.property = ps := by
  induction ps generalizing claimed with
  | nil => rfl
  | cons p ps ih =>
    rw [planAfter_cons, List.map_cons, ih]

variable {s : PropertySet} {i : Nat} {a : AccessorPlan}

theorem getElem?_properties (h : (d.plan s)[i]? = some a)
    : s.properties[i]? = some a.property := by
  rw [← map_property_planAfter d [] s.properties]
  rw [plan] at h
  rw [List.getElem?_map, h]
  rfl

theorem exists_getElem?_plan {p : Property} (d : Descriptor) (h : s.properties[i]? = some p)
    : ∃ a, (d.plan s)[i]? = some a ∧ a.property = p := by
  rcases getElem?_planAfter (Claims.nil d) h with ⟨before, -, hplan⟩
  exact ⟨_, hplan, rfl⟩

/-- What a decision of a plan is made on: the claims that the properties before it and, for a setter,
the getter of the same property have left. -/
theorem exists_accessor_eq_decide (h : (d.plan s)[i]? = some a) (k : AccessorKind)
    : ∃ decided claimed, d.Claims decided claimed
        ∧
      a.accessor k = (d.decide claimed (k.nameFor a.property.name)).1
        ∧
      ∀ n, foldCase n = foldCase (k.nameFor a.property.name) →
        (n ∈ decided ↔ n ∈ accessorNames (s.properties.take i)) := by
  rcases getElem?_planAfter (Claims.nil d) (getElem?_properties h) with ⟨before, hbefore, hplan⟩
  rw [← plan, h, Option.some.injEq] at hplan
  rw [List.nil_append] at hbefore
  cases k with
  | getter =>
    refine ⟨_, before, hbefore, ?_, fun n _ => Iff.rfl⟩
    rw [hplan]
    rfl
  | setter =>
    refine ⟨_, _, hbefore.decide (getterName a.property.name), ?_, ?_⟩
    . rw [hplan]
      rfl
    . intro n hfold
      -- The getter of the same property does not count, as no getter has the name of a setter.
      have hne : n ≠ getterName a.property.name := by
        rintro rfl
        have := AccessorKind.eq_of_foldCase_nameFor_eq (k := .getter) hfold
        contradiction
      simp [hne]

theorem accessor_plan_name (h : (d.plan s)[i]? = some a) (k : AccessorKind)
    : (a.accessor k).name = k.nameFor a.property.name := by
  rcases exists_accessor_eq_decide h k with ⟨_, _, -, heq, -⟩
  rw [heq, decide_name]

theorem mem_accessorNames_take_plan {k : AccessorKind} {n property : String}
    (hfold : foldCase n = foldCase (k.nameFor property))
    : n ∈ accessorNames (s.properties.take i)
        ↔
      ∃ j b, j < i ∧ (d.plan s)[j]? = some b ∧ (b.accessor k).name = n := by
  rw [mem_accessorNames_take]
  constructor
  . rintro ⟨j, q, hlt, hq, l, hname⟩
    rcases exists_getElem?_plan d hq with ⟨b, hb, hproperty⟩
    rw [← hname] at hfold
    have hkind := AccessorKind.eq_of_foldCase_nameFor_eq hfold
    subst hkind
    refine ⟨j, b, hlt, hb, ?_⟩
    rw [accessor_plan_name hb, hproperty, hname]
  . rintro ⟨j, b, hlt, hb, hname⟩
    refine ⟨j, b.property, hlt, getElem?_properties hb, k, ?_⟩
    rw [← hname, accessor_plan_name hb]

theorem accessor_plan_generate_iff (h : (d.plan s)[i]? = some a) (k : AccessorKind)
    : (a.accessor k).generate
        ↔
      ¬d.Provides (a.accessor k).name
        ∧
      ∀ j b, j < i → (d.plan s)[j]? = some b →
        foldCase (b.accessor k).name = foldCase (a.accessor k).name →
        d.Provides (b.accessor k).name := by
  rcases exists_accessor_eq_decide h k with ⟨decided, claimed, hclaims, heq, hdecided⟩
  rw [heq, decide_generate_iff hclaims, decide_name]
  apply and_congr Iff.rfl
  constructor
  . intro hall j b hlt hb hfold
    apply hall
    . rw [hdecided _ hfold, mem_accessorNames_take_plan hfold]
      exact ⟨j, b, hlt, hb, rfl⟩
    . exact hfold
  . intro hall n hn hfold
    rw [hdecided _ hfold, mem_accessorNames_take_plan (d := d) hfold] at hn
    rcases hn with ⟨j, b, hlt, hb, rfl⟩
    exact hall j b hlt hb hfold

theorem exists_nameFor_of_mem_generatedNames {name : String}
    (h : name ∈ generatedNames (d.plan s))
    : ∃ p ∈ s.properties, ∃ k : AccessorKind, k.nameFor p.name = name ∧ ¬d.Provides name := by
  rcases mem_generatedNames.mp h with ⟨a, ha, k, hgenerate, rfl⟩
  rcases List.mem_iff_getElem?.mp ha with ⟨i, hi⟩
  rw [accessor_plan_generate_iff hi] at hgenerate
  refine ⟨a.property, List.mem_of_getElem? (getElem?_properties hi), k, ?_, hgenerate.left⟩
  rw [accessor_plan_name hi]

theorem not_generate_of_lt {j : Nat} {b : AccessorPlan} {k l : AccessorKind} (hlt : j < i)
    (ha : (d.plan s)[i]? = some a) (hb : (d.plan s)[j]? = some b)
    (hgenerate : (b.accessor l).generate)
    (hfold : foldCase (b.accessor l).name = foldCase (a.accessor k).name)
    : ¬(a.accessor k).generate := by
  intro hcontra
  have hkind : l = k := by
    rw [accessor_plan_name ha, accessor_plan_name hb] at hfold
    exact AccessorKind.eq_of_foldCase_nameFor_eq hfold
  subst hkind
  rw [accessor_plan_generate_iff ha] at hcontra
  rw [accessor_plan_generate_iff hb] at hgenerate
  exact hgenerate.left (hcontra.right j b hlt hb hfold)

theorem exists_generate_of_not_provides (k : AccessorKind) (ha : (d.plan s)[i]? = some a)
    (hprovides : ¬d.Provides (a.accessor k).name)
    : ∃ j b, j ≤ i
        ∧
      (d.plan s)[j]? = some b
        ∧
      (b.accessor k).generate
        ∧
      foldCase (b.accessor k).name = foldCase (a.accessor k).name := by
  induction i using Nat.strongRecOn generalizing a with
  | ind i ih =>
    by_cases hgenerate : (a.accessor k).generate
    . exact ⟨i, a, Nat.le_refl i, ha, hgenerate, rfl⟩
    . -- Some earlier accessor of the name is not provided either. The search goes on from there.
      rw [accessor_plan_generate_iff ha] at hgenerate
      push Not at hgenerate
      rcases hgenerate hprovides with ⟨j, b, hlt, hb, hfold, hnot⟩
      rcases ih j hlt hb hnot with ⟨l, c, hle, hc, hgc, hfc⟩
      refine ⟨l, c, ?_, hc, hgc, ?_⟩
      . omega
      . rw [hfc, hfold]

theorem nodup_members (h : (d.plan s)[i]? = some a)
    : ((a.members.filterMap Member.method?).map foldCase).Nodup := by
  have hne : foldCase a.getter.name ≠ foldCase a.setter.name := by
    intro hfold
    have hgetter := accessor_plan_name h .getter
    have hsetter := accessor_plan_name h .setter
    simp only [AccessorPlan.accessor] at hgetter hsetter
    rw [hgetter, hsetter] at hfold
    have := AccessorKind.eq_of_foldCase_nameFor_eq hfold
    contradiction
  unfold AccessorPlan.members
  split
  . split
    . simp [Member.method?, hne]
    . simp [Member.method?]
  . split
    . simp [Member.method?]
    . simp

theorem nodup_generatedNames (d : Descriptor) (s : PropertySet)
    : ((generatedNames (d.plan s)).map foldCase).Nodup := by
  unfold generatedNames
  rw [List.filterMap_flatMap, List.map_flatMap, List.nodup_flatMap]
  constructor
  . intro a ha
    rcases List.mem_iff_getElem?.mp ha with ⟨i, hi⟩
    exact nodup_members hi
  . rw [List.pairwise_iff_getElem]
    intro i j hi hj hlt name hni hnj
    rw [List.mem_map] at hni hnj
    rcases hni with ⟨m, hm, hmname⟩
    rcases hnj with ⟨n, hn, hnname⟩
    rw [AccessorPlan.mem_method?_members] at hm hn
    rcases hm with ⟨k, hgk, rfl⟩
    rcases hn with ⟨l, hgl, rfl⟩
    have ha := List.getElem?_eq_getElem hi
    have hb := List.getElem?_eq_getElem hj
    exact not_generate_of_lt hlt hb ha hgk (by rw [hmname, hnname]) hgl

/-- The accessor of a property is generated if neither the chain provides it nor an earlier property
has one of the name that the chain does not provide. -/
theorem exists_generate_iff (k : AccessorKind) (property : String)
    : (∃ a ∈ d.plan s, a.property.name = property ∧ (a.accessor k).generate)
        ↔
      ∃ before p after, s.properties = before ++ p :: after ∧ p.name = property
        ∧
      ¬d.Provides (k.nameFor property)
        ∧
      ∀ q ∈ before, foldCase (k.nameFor q.name) = foldCase (k.nameFor property) →
        d.Provides (k.nameFor q.name) := by
  constructor
  . rintro ⟨a, ha, rfl, hgenerate⟩
    rcases List.mem_iff_getElem?.mp ha with ⟨i, hi⟩
    have hproperty := getElem?_properties hi
    have hname := accessor_plan_name hi k
    rcases (accessor_plan_generate_iff hi k).mp hgenerate with ⟨hprovides, hbefore⟩
    rw [hname] at hprovides hbefore
    rcases List.getElem?_eq_some_iff.mp hproperty with ⟨hlt, hget⟩
    refine ⟨s.properties.take i, a.property, s.properties.drop (i + 1), ?_, rfl, hprovides, ?_⟩
    . rw [← hget, List.getElem_cons_drop, List.take_append_drop]
    . intro q hq hfold
      rcases List.mem_take_iff_getElem.mp hq with ⟨j, hj, hjq⟩
      rcases exists_getElem?_plan d (List.getElem?_eq_some_iff.mpr ⟨_, hjq⟩) with ⟨b, hb, rfl⟩
      have hearlier := hbefore j b (by omega) hb
      rw [accessor_plan_name hb] at hearlier
      exact hearlier hfold
  . rintro ⟨before, p, after, heq, rfl, hprovides, hbefore⟩
    have hp : s.properties[before.length]? = some p := by
      rw [heq]
      simp
    rcases exists_getElem?_plan d hp with ⟨a, ha, rfl⟩
    refine ⟨a, List.mem_of_getElem? ha, rfl, ?_⟩
    apply (accessor_plan_generate_iff ha k).mpr
    rw [accessor_plan_name ha]
    refine ⟨hprovides, ?_⟩
    intro j b hlt hb hfold
    rw [accessor_plan_name hb] at hfold ⊢
    apply hbefore _ _ hfold
    have hproperty := getElem?_properties hb
    rw [heq, List.getElem?_append_left hlt] at hproperty
    exact List.mem_of_getElem? hproperty

theorem property_mem_of_mem_plan (h : a ∈ d.plan s)
    : a.property ∈ s.properties := by
  rcases List.mem_iff_getElem?.mp h with ⟨i, hi⟩
  exact List.mem_of_getElem? (getElem?_properties hi)

/-- A plan has one decision for each name of a property. -/
theorem eq_of_mem_plan {b : AccessorPlan} (ha : a ∈ d.plan s) (hb : b ∈ d.plan s)
    (hname : a.property.name = b.property.name)
    : a = b := by
  have hmap : (d.plan s).map (fun a => a.property.name) = s.properties.map (·.name) := by
    rw [← map_property_planAfter d [] s.properties, List.map_map]
    rfl
  have hnodup : ((d.plan s).map fun a => a.property.name).Nodup := by
    rw [hmap]
    exact s.distinct
  exact List.inj_on_of_nodup_map hnodup ha hb hname

/-- The chain provides the accessor, or a property before the given position claims it. -/
def IsTaken (d : Descriptor) (s : PropertySet) (i : Nat) (k : AccessorKind) (name : String) : Prop :=
  d.Provides name
    ∨
  ∃ j b, j < i ∧ (d.plan s)[j]? = some b ∧ (b.accessor k).generate
    ∧
  foldCase (b.accessor k).name = foldCase name

theorem count_eq_zero_of_isTaken (ha : (d.plan s)[i]? = some a)
    (htaken : ∀ k, d.IsTaken s i k (a.accessor k).name)
    : a.count = 0 := by
  have hnot : ∀ k, (a.accessor k).generate = false := by
    intro k
    rw [Bool.eq_false_iff]
    rcases htaken k with hprovides | ⟨j, b, hlt, hb, hgenerate, hfold⟩
    . intro hgenerate
      exact ((accessor_plan_generate_iff ha k).mp hgenerate).left hprovides
    . exact not_generate_of_lt hlt ha hb hgenerate hfold
  have hgetter : a.getter.generate = false := hnot .getter
  have hsetter : a.setter.generate = false := hnot .setter
  simp [AccessorPlan.count, hgetter, hsetter]

/-- What becomes of each accessor: it is generated if the chain does not provide it and provides
every earlier one of the same name. Hence the chain provides it, or it is generated, or exactly one
earlier accessor of its name is; and no name is generated twice. -/
theorem plan_decides_all (d : Descriptor) (s : PropertySet)
    : (d.plan s).map AccessorPlan.property = s.properties
        ∧
      (∀ (i : Nat) (a : AccessorPlan), (d.plan s)[i]? = some a → ∀ k : AccessorKind,
        (a.accessor k).name = k.nameFor a.property.name
          ∧
        ((a.accessor k).generate
            ↔
          ¬d.Provides (a.accessor k).name
            ∧
          ∀ (j : Nat) (b : AccessorPlan), j < i → (d.plan s)[j]? = some b →
            foldCase (b.accessor k).name = foldCase (a.accessor k).name →
            d.Provides (b.accessor k).name)
          ∧
        (d.Provides (a.accessor k).name
            ∨
          (a.accessor k).generate
            ∨
          ∃! j, j < i ∧ ∃ b : AccessorPlan, (d.plan s)[j]? = some b
            ∧ (b.accessor k).generate
            ∧ foldCase (b.accessor k).name = foldCase (a.accessor k).name))
        ∧
      ((generatedNames (d.plan s)).map foldCase).Nodup := by
  refine ⟨map_property_planAfter d [] s.properties, ?_, nodup_generatedNames d s⟩
  intro i a ha k
  refine ⟨accessor_plan_name ha k, accessor_plan_generate_iff ha k, ?_⟩
  by_cases hprovides : d.Provides (a.accessor k).name
  . exact Or.inl hprovides
  . rcases exists_generate_of_not_provides k ha hprovides with ⟨j, b, hle, hb, hgenerate, hfold⟩
    rcases Nat.eq_or_lt_of_le hle with rfl | hlt
    . rw [hb, Option.some.injEq] at ha
      subst ha
      exact Or.inr (Or.inl hgenerate)
    . refine Or.inr (Or.inr ⟨j, ⟨hlt, b, hb, hgenerate, hfold⟩, ?_⟩)
      rintro l ⟨-, c, hc, hgc, hfc⟩
      rcases Nat.lt_trichotomy l j with h | h | h
      . exact absurd hgenerate (not_generate_of_lt h hb hc hgc (by rw [hfc, hfold]))
      . exact h
      . exact absurd hgc (not_generate_of_lt h hc hb hgenerate (by rw [hfc, hfold]))

/-- The parent provides the setter. Of the getter there are two, and the first one is generated. -/
theorem plan_decides_all_publishedAt
    : let d : Descriptor :=
        ⟨{ name := ⟨["Article"]⟩ }, [{ name := ⟨["Base"]⟩, methods := ["SET_PUBLISHED_AT"] }]⟩
      let s := PropertySet.ofList [⟨"published_at", none⟩, ⟨"publishedAt", none⟩]
      ∃ a, (d.plan s)[1]? = some a
        ∧
      d.Provides a.setter.name ∧ ¬a.setter.generate
        ∧
      ¬d.Provides a.getter.name ∧ ¬a.getter.generate
        ∧
      ∃! j, j < 1 ∧ ∃ b : AccessorPlan, (d.plan s)[j]? = some b
        ∧ (b.accessor .getter).generate
        ∧ foldCase (b.accessor .getter).name = foldCase a.getter.name := by
  intro d s
  let a : AccessorPlan :=
    ⟨⟨"publishedAt", none⟩, ⟨"getPublishedAt", false⟩, ⟨"setPublishedAt", false⟩⟩
  have ha : (d.plan s)[1]? = some a := by decide +kernel
  have hgetter : ¬d.Provides a.getter.name := by decide +kernel
  refine ⟨a, ha, by decide +kernel, by decide, hgetter, by decide, ?_⟩
  have hall := (plan_decides_all d s).right.left 1 a ha .getter
  exact (hall.right.right.resolve_left hgetter).resolve_left (by decide)

end Descriptor

end LazyProxy
