import LazyProxy.Proofs.Proxy.Members

/-!
This module contains when a getter and a setter of one name, up to case, belong to one property. The
two are decided on one by one, each for the first property whose accessor the chain does not provide.
What parts them is a method in snake case, as the words of a name depend on its case.
-/

namespace LazyProxy

theorem AccessorPlan.exists_generate_of_mem_members {a : AccessorPlan} {k : AccessorKind}
    {name : String} {p : Property} (h : k.member name p ∈ a.members)
    : (a.accessor k).generate ∧ (a.accessor k).name = name ∧ a.property = p := by
  rw [members, List.mem_append] at h
  cases k with
  | getter =>
    cases h with
    | inl h =>
      split at h
      . next hg =>
        rw [List.mem_singleton, AccessorKind.member, Member.getter.injEq] at h
        exact ⟨hg, h.left.symm, h.right.symm⟩
      . contradiction
    | inr h =>
      split at h
      . simp [AccessorKind.member] at h
      . contradiction
  | setter =>
    cases h with
    | inl h =>
      split at h
      . simp [AccessorKind.member] at h
      . contradiction
    | inr h =>
      split at h
      . next hg =>
        rw [List.mem_singleton, AccessorKind.member, Member.setter.injEq] at h
        exact ⟨hg, h.left.symm, h.right.symm⟩
      . contradiction

namespace Descriptor

variable {d : Descriptor} {s : PropertySet}

theorem hasMethod_congr {m n : String} (h : foldCase m = foldCase n)
    : d.hasMethod m = d.hasMethod n := by
  rw [Bool.eq_iff_iff, hasMethod_iff, hasMethod_iff, h]

theorem exists_generate_of_mem_plan {k : AccessorKind} {name : String} {p : Property}
    (h : k.member name p ∈ (d.plan s).flatMap AccessorPlan.members)
    : ∃ (i : Nat) (a : AccessorPlan), (d.plan s)[i]? = some a ∧ (a.accessor k).generate
        ∧
      a.property = p ∧ name = k.nameFor p.name := by
  rcases List.mem_flatMap.mp h with ⟨a, ha, hm⟩
  rcases List.mem_iff_getElem?.mp ha with ⟨i, hi⟩
  rcases AccessorPlan.exists_generate_of_mem_members hm with ⟨hgenerate, hname, rfl⟩
  exact ⟨i, a, hi, hgenerate, rfl, by rw [← hname, accessor_plan_name hi]⟩

/-- An accessor that is generated tells of all accessors of its name before it that the chain has them,
and it cannot have them as they are written. -/
theorem hasMethod_snakeCase_of_lt {i j : Nat} {a b : AccessorPlan} {k : AccessorKind} (hlt : i < j)
    (ha : (d.plan s)[i]? = some a) (hb : (d.plan s)[j]? = some b) (hgenerate : (b.accessor k).generate)
    (hfold : foldCase (classify a.property.name) = foldCase (classify b.property.name))
    : d.hasMethod (snakeCase (k.nameFor a.property.name)) := by
  have hnames : foldCase (k.nameFor a.property.name) = foldCase (k.nameFor b.property.name) :=
    k.foldCase_nameFor_eq_iff.mpr hfold
  rw [accessor_plan_generate_iff hb, accessor_plan_name hb] at hgenerate
  have hprovides := hgenerate.right i a hlt ha (by rw [accessor_plan_name ha, hnames])
  rw [accessor_plan_name ha, ← hasAccessor_iff, hasAccessor, Bool.or_eq_true] at hprovides
  refine hprovides.resolve_left ?_
  intro hwritten
  apply hgenerate.left
  rw [← hasAccessor_iff, hasAccessor, ← hasMethod_congr hnames, hwritten, Bool.true_or]

theorem hasMethod_snakeCase_of_generate {i : Nat} {a : AccessorPlan} {k : AccessorKind}
    (ha : (d.plan s)[i]? = some a) (hgenerate : (a.accessor k).generate)
    : ¬d.hasMethod (snakeCase (k.nameFor a.property.name)) := by
  rw [accessor_plan_generate_iff ha, accessor_plan_name ha, ← hasAccessor_iff, hasAccessor,
    Bool.or_eq_true, not_or] at hgenerate
  exact hgenerate.left.right

theorem property_eq_iff {i j : Nat} {a b : AccessorPlan} (ha : (d.plan s)[i]? = some a)
    (hb : (d.plan s)[j]? = some b) (hgetter : (a.accessor .getter).generate)
    (hsetter : (b.accessor .setter).generate)
    (hfold : foldCase (classify a.property.name) = foldCase (classify b.property.name))
    : a.property = b.property
        ↔
      ¬d.hasMethod (snakeCase (setterName a.property.name))
        ∧
      ¬d.hasMethod (snakeCase (getterName b.property.name)) := by
  constructor
  . intro heq
    have hna := hasMethod_snakeCase_of_generate ha hgetter
    have hnb := hasMethod_snakeCase_of_generate hb hsetter
    rw [heq] at hna ⊢
    exact ⟨hnb, hna⟩
  . rintro ⟨hna, hnb⟩
    rcases Nat.lt_trichotomy i j with hlt | rfl | hlt
    . exact absurd (hasMethod_snakeCase_of_lt hlt ha hb hsetter hfold) hna
    . rw [ha, Option.some.injEq] at hb
      rw [hb]
    . exact absurd (hasMethod_snakeCase_of_lt hlt hb ha hgetter hfold.symm) hnb

/-- A getter and a setter of one name, up to case, belong to one property unless the chain has, in
snake case, the setter of the getter's property or the getter of the setter's. They do if the names
agree in case. -/
theorem accessors_cohere_iff (d : Descriptor) (s : PropertySet) (segment : String) (withName : Bool)
    (marker : QualifiedName) (a b : String) (p q : Property)
    (hgetter : .getter ("get" ++ a) p
      ∈ (ProxyClass.build d (d.plan s) segment withName marker).members)
    (hsetter : .setter ("set" ++ b) q
      ∈ (ProxyClass.build d (d.plan s) segment withName marker).members)
    (hfold : foldCase a = foldCase b)
    : (p = q
        ↔
      ¬d.hasMethod (snakeCase (setterName p.name)) ∧ ¬d.hasMethod (snakeCase (getterName q.name)))
        ∧
      (a = b → p = q) := by
  have hflag : ∀ m ∈ [Member.flag, .isInitialized, .setInitialized], ¬m.isAccessor := by decide
  rw [ProxyClass.build, List.mem_append] at hgetter hsetter
  have hgetter := hgetter.resolve_left fun h => hflag _ h rfl
  have hsetter := hsetter.resolve_left fun h => hflag _ h rfl
  rcases exists_generate_of_mem_plan (k := .getter) hgetter with ⟨i, x, hx, hgx, rfl, hgname⟩
  rcases exists_generate_of_mem_plan (k := .setter) hsetter with ⟨j, y, hy, hgy, rfl, hsname⟩
  rw [AccessorKind.nameFor_eq] at hgname hsname
  have ha : a = classify x.property.name := (String.append_right_inj "get").mp hgname
  have hb : b = classify y.property.name := (String.append_right_inj "set").mp hsname
  subst ha hb
  have hiff := property_eq_iff hx hy hgx hgy hfold
  refine ⟨hiff, ?_⟩
  intro heq
  -- The two properties share both names, so the chain has the accessors of one if it has the other's.
  have hgetters : getterName x.property.name = getterName y.property.name :=
    congrArg ("get" ++ ·) heq
  have hsetters : setterName x.property.name = setterName y.property.name :=
    congrArg ("set" ++ ·) heq
  have hnx := hasMethod_snakeCase_of_generate hx hgx
  have hny := hasMethod_snakeCase_of_generate hy hgy
  rw [hiff, hsetters, ← hgetters]
  exact ⟨hny, hnx⟩

/-- Two properties that differ in case alone. The type has the getter of one, in snake case. -/
def datedArticle : Descriptor where
  own :=
    { name := ⟨["App", "Article"]⟩
      properties := [⟨"dueon", none⟩, ⟨"dueOn", none⟩]
      methods := ["get_dueon"] }

def datedProperties : PropertySet :=
  .ofList datedArticle.own.properties

/-- The proxy writes one property and reads the other. -/
theorem plan_datedArticle
    : (datedArticle.plan datedProperties).flatMap AccessorPlan.members
        =
      [.setter "setDueon" ⟨"dueon", none⟩, .getter "getDueOn" ⟨"dueOn", none⟩] := by
  decide +kernel

theorem accessors_cohere_iff_datedArticle
    : let proxy := ProxyClass.build datedArticle (datedArticle.plan datedProperties) "_Proxy" false
        ⟨["Marker"]⟩
      .getter ("get" ++ "DueOn") ⟨"dueOn", none⟩ ∈ proxy.members
        ∧
      .setter ("set" ++ "Dueon") ⟨"dueon", none⟩ ∈ proxy.members
        ∧
      foldCase "DueOn" = foldCase "Dueon"
        ∧
      datedArticle.hasMethod (snakeCase (getterName "dueon"))
        ∧
      (⟨"dueOn", none⟩ : Property) ≠ ⟨"dueon", none⟩ := by
  intro proxy
  have hgetter : .getter ("get" ++ "DueOn") ⟨"dueOn", none⟩ ∈ proxy.members :=
    List.mem_append_right _ (plan_datedArticle ▸ by decide)
  have hsetter : .setter ("set" ++ "Dueon") ⟨"dueon", none⟩ ∈ proxy.members :=
    List.mem_append_right _ (plan_datedArticle ▸ by decide)
  have hfold : foldCase "DueOn" = foldCase "Dueon" := by decide
  have hmethod : datedArticle.hasMethod (snakeCase (getterName "dueon")) := by decide +kernel
  refine ⟨hgetter, hsetter, hfold, hmethod, ?_⟩
  intro heq
  have hiff := (accessors_cohere_iff _ _ _ _ _ _ _ _ _ hgetter hsetter hfold).left
  exact (hiff.mp heq).right hmethod

/-- The getter and the setter of one name may belong to different properties. -/
theorem accessors_do_not_cohere
    : ¬∀ (c : Config) (d : Descriptor) (proxy : ProxyClass), c.model d = .ok proxy →
        ∀ (a b : String) (p q : Property), .getter ("get" ++ a) p ∈ proxy.members →
          .setter ("set" ++ b) q ∈ proxy.members → foldCase a = foldCase b → p = q := by
  intro hcohere
  have hmodel : ({} : Config).model datedArticle
      = .ok (.build datedArticle (datedArticle.plan datedProperties) "_Proxy" false
        ⟨["Docproxy", "Mapping", "Proxy", "ProxyInterface"]⟩) := rfl
  have heq : (⟨"dueOn", none⟩ : Property) = ⟨"dueon", none⟩ := by
    apply hcohere _ _ _ hmodel "DueOn" "Dueon"
    . exact List.mem_append_right _ (plan_datedArticle ▸ by decide)
    . exact List.mem_append_right _ (plan_datedArticle ▸ by decide)
    . decide
  exact absurd heq (by decide)

end Descriptor

end LazyProxy
