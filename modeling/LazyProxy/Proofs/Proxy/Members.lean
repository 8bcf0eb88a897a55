import LazyProxy.Proofs.Generator
import LazyProxy.Proofs.Proxy.Plan

/-!
This module contains what the members of a proxy are: the three that keep the flag, and accessors of
the properties by their names.
-/

namespace LazyProxy

/-- The accessor of a kind. -/
def AccessorKind.member : AccessorKind → String → Property → Member
  | getter => .getter
  | setter => .setter

namespace Member

/-- A member without the type of its property. -/
def withoutType : Member → Member
  | getter name p => getter name ⟨p.name, none⟩
  | setter name p => setter name ⟨p.name, none⟩
  | m => m

/-- A member with another name for its method. -/
def rename (f : String → String) : Member → Member
  | getter name p => getter (f name) p
  | setter name p => setter (f name) p
  | m => m

theorem isAccessor_withoutType (m : Member) : m.withoutType.isAccessor = m.isAccessor := by
  cases m with
  | flag => rfl
  | isInitialized => rfl
  | setInitialized => rfl
  | getter name p => rfl
  | setter name p => rfl

theorem isAccessor_rename (f : String → String) (m : Member)
    : (m.rename f).isAccessor = m.isAccessor := by
  cases m with
  | flag => rfl
  | isInitialized => rfl
  | setInitialized => rfl
  | getter name p => rfl
  | setter name p => rfl

end Member

/-- A proxy without the types of the properties. -/
def ProxyClass.withoutTypes (c : ProxyClass) : ProxyClass :=
  { c with members := c.members.map Member.withoutType }

theorem ProxyClass.accessors_withoutTypes (c : ProxyClass)
    : c.withoutTypes.accessors = c.accessors.map Member.withoutType := by
  unfold accessors withoutTypes
  rw [List.filter_map]
  congr 2
  funext m
  exact m.isAccessor_withoutType

theorem isAccessor_of_mem_members {plans : List AccessorPlan} {m : Member}
    (h : m ∈ plans.flatMap AccessorPlan.members)
    : m.isAccessor := by
  rcases List.mem_flatMap.mp h with ⟨a, -, hm⟩
  rw [AccessorPlan.members, List.mem_append] at hm
  cases hm with
  | inl hm =>
    split at hm
    . rw [List.mem_singleton.mp hm]
      rfl
    . contradiction
  | inr hm =>
    split at hm
    . rw [List.mem_singleton.mp hm]
      rfl
    . contradiction

theorem ProxyClass.accessors_build (d : Descriptor) (plans : List AccessorPlan) (segment : String)
    (withName : Bool) (marker : QualifiedName)
    : (build d plans segment withName marker).accessors = plans.flatMap AccessorPlan.members := by
  have hplans : (plans.flatMap AccessorPlan.members).filter Member.isAccessor
      = plans.flatMap AccessorPlan.members :=
    List.filter_eq_self.mpr fun m hm => isAccessor_of_mem_members hm
  rw [accessors, build, List.filter_append, hplans]
  rfl

theorem ProxyClass.filter_not_isAccessor_build (d : Descriptor) (plans : List AccessorPlan)
    (segment : String) (withName : Bool) (marker : QualifiedName)
    : (build d plans segment withName marker).members.filter (!·.isAccessor)
        =
      [.flag, .isInitialized, .setInitialized] := by
  have hplans : (plans.flatMap AccessorPlan.members).filter (!·.isAccessor) = [] := by
    rw [List.filter_eq_nil_iff]
    intro m hm
    simp [isAccessor_of_mem_members hm]
  rw [build, List.filter_append, hplans]
  rfl

variable {d : Descriptor} {s : PropertySet}

theorem Descriptor.exists_member_of_mem_members {m : Member}
    (h : m ∈ (d.plan s).flatMap AccessorPlan.members)
    : ∃ p ∈ s.properties, ∃ k : AccessorKind, m = k.member (k.nameFor p.name) p := by
  rcases List.mem_flatMap.mp h with ⟨a, ha, hm⟩
  rcases List.mem_iff_getElem?.mp ha with ⟨i, hi⟩
  have hp := List.mem_of_getElem? (getElem?_properties hi)
  rw [AccessorPlan.members, List.mem_append] at hm
  refine ⟨a.property, hp, ?_⟩
  cases hm with
  | inl hm =>
    split at hm
    . rw [List.mem_singleton] at hm
      exact ⟨.getter, by rw [← accessor_plan_name hi]; exact hm⟩
    . contradiction
  | inr hm =>
    split at hm
    . rw [List.mem_singleton] at hm
      exact ⟨.setter, by rw [← accessor_plan_name hi]; exact hm⟩
    . contradiction

/-- What a member is that keeps the flag or that a plan makes for an identifier. -/
def Member.IsPlanned (m : Member) : Prop :=
  m ∈ [Member.flag, .isInitialized, .setInitialized]
    ∨
  ∃ p : Property, isIdentifier p.name ∧ ∃ k : AccessorKind, m = k.member (k.nameFor p.name) p

theorem ProxyClass.isPlanned_of_mem_members_build (hs : ∀ p ∈ s.properties, isIdentifier p.name)
    {segment : String} {withName : Bool} {marker : QualifiedName} {m : Member}
    (hm : m ∈ (build d (d.plan s) segment withName marker).members)
    : m.IsPlanned := by
  rw [build, List.mem_append] at hm
  cases hm with
  | inl hm => exact Or.inl hm
  | inr hm =>
    rcases Descriptor.exists_member_of_mem_members hm with ⟨p, hp, k, hk⟩
    exact Or.inr ⟨p, hs p hp, k, hk⟩

theorem Config.exists_member_of_model {c : Config} {proxy : ProxyClass} {m : Member}
    (h : c.model d = .ok proxy) (hm : m ∈ proxy.members)
    : m ∈ [Member.flag, .isInitialized, .setInitialized]
        ∨
      ∃ p : Property, isIdentifier p.name ∧ ∃ k : AccessorKind, m = k.member (k.nameFor p.name) p
    := by
  rcases model_eq_ok h with ⟨s, marker, hcollect, -, rfl⟩
  exact ProxyClass.isPlanned_of_mem_members_build
    (Descriptor.isIdentifier_of_collectProperties hcollect) hm

end LazyProxy
