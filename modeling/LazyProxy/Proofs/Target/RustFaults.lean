import LazyProxy.Proofs.Generator
import LazyProxy.Proofs.Proxy.Plan

/-!
This module contains why the items of a proxy in Rust cannot be written: its name, the paths of the
document and the marker, and then the properties of the accessors are looked at in this order.
-/

namespace LazyProxy.Rust

open Code

/-- What is wrong with a name. -/
def nameFaults (name : String) : List RustError :=
  faultUnless (name ∉ ["self", "Self", "super", "crate", "_"]) (.reservedIdentifier name)

/-- What is wrong with the path of a qualified name. -/
def pathFaults (n : QualifiedName) : List RustError :=
  faultUnless (Path.ofText? (pathText n.segments)).isSome
    (.invalidPath (pathText n.segments) (keywordIn? n.segments))

/-- What is wrong with the type of a property. -/
def typeFaults (c : ProxyClass) (p : Property) : List RustError :=
  match p.type with
  | none => [.missingType (c.base.join "::") p.name]
  | some text => faultUnless (Ty.ofText? text).isSome (.invalidType p.name text)

def propertyFaults (c : ProxyClass) (p : Property) : List RustError :=
  nameFaults p.name ++ typeFaults c p

/-- What keeps accessors from being written: what is wrong with the properties that receive one. -/
def planFaults (c : ProxyClass) (plans : List AccessorPlan) : List RustError :=
  (plans.filter (0 < ·.count)).flatMap fun a => propertyFaults c a.property

/-- What keeps the items of a proxy from being written, in the order in which it is looked for. -/
def faults (c : ProxyClass) (plans : List AccessorPlan) : List RustError :=
  nameFaults c.name ++ pathFaults c.base ++ pathFaults c.marker ++ planFaults c plans

variable {c : ProxyClass}

theorem reports_identifier (name : String) : Reports (identifier name) (nameFaults name) := by
  have hwords : isUnrawable name ↔ name ∈ ["self", "Self", "super", "crate", "_"] :=
    List.contains_iff_mem
  unfold identifier nameFaults
  split
  . next h =>
    rw [faultUnless, if_neg (not_not_intro (hwords.mp h))]
    exact .error _ _
  . next h =>
    rw [faultUnless, if_pos (mt hwords.mpr h)]
    exact .ok _

theorem reports_path (n : QualifiedName) : Reports (path n) (pathFaults n) := by
  unfold path pathFaults
  split
  . next h =>
    rw [faultUnless, if_pos (by simp [h])]
    exact .ok _
  . next h =>
    rw [faultUnless, if_neg (by simp [h])]
    exact .error _ _

theorem reports_propertyType (c : ProxyClass) (p : Property)
    : Reports (propertyType c p) (typeFaults c p) := by
  unfold propertyType typeFaults
  cases p.type with
  | none => exact .error _ _
  | some text =>
    dsimp only
    split
    . next h =>
      rw [faultUnless, if_pos (by simp [h])]
      exact .ok _
    . next h =>
      rw [faultUnless, if_neg (by simp [h])]
      exact .error _ _

/-- What keeps a member from being written. -/
def memberFaults (c : ProxyClass) : Member → List RustError
  | .getter _ p | .setter _ p => propertyFaults c p
  | _ => []

theorem reports_operation? (c : ProxyClass) (m : Member)
    : Reports (operation? c m) (memberFaults c m) := by
  cases m with
  | flag => exact .ok _
  | isInitialized => exact .ok _
  | setInitialized => exact .ok _
  | getter method p =>
    exact (reports_identifier p.name).bind fun _ _ => (reports_propertyType c p).bind_ok _
  | setter method p =>
    exact (reports_identifier p.name).bind fun _ _ => (reports_propertyType c p).bind_ok _

theorem reports_operations (c : ProxyClass) (ms : List Member)
    : Reports (operations c ms) (ms.flatMap (memberFaults c)) := by
  induction ms with
  | nil => exact .ok _
  | cons m ms ih => exact (reports_operation? c m).bind fun _ _ => ih.bind_ok _

theorem head?_flatMap_memberFaults (c : ProxyClass) (plans : List AccessorPlan)
    : ((plans.flatMap AccessorPlan.members).flatMap (memberFaults c)).head?
        =
      (planFaults c plans).head? := by
  induction plans with
  | nil => rfl
  | cons a plans ih =>
    rw [List.flatMap_cons, List.flatMap_append, List.head?_append, ih, planFaults, planFaults,
      List.filter_cons]
    cases hgetter : a.getter.generate with
    | false =>
      cases hsetter : a.setter.generate with
      | false => simp [AccessorPlan.members, AccessorPlan.count, hgetter, hsetter]
      | true => simp [AccessorPlan.members, AccessorPlan.count, hgetter, hsetter, memberFaults]
    | true =>
      cases hsetter : a.setter.generate with
      | false => simp [AccessorPlan.members, AccessorPlan.count, hgetter, hsetter, memberFaults]
      | true =>
        -- Both accessors have the faults of the property, so the second one adds nothing.
        simp [AccessorPlan.members, AccessorPlan.count, hgetter, hsetter, memberFaults]

theorem reports_items (d : Descriptor) (plans : List AccessorPlan) (segment : String)
    (withName : Bool) (marker : QualifiedName) (visibility : Visibility)
    : Reports (items (.build d plans segment withName marker) visibility)
        (faults (.build d plans segment withName marker) plans) := by
  let c : ProxyClass := .build d plans segment withName marker
  have hmembers : (c.members.flatMap (memberFaults c)).head? = (planFaults c plans).head? :=
    head?_flatMap_memberFaults c plans
  have hoperations := (reports_operations c c.members).congr hmembers
  unfold items faults
  rw [List.append_assoc, List.append_assoc]
  refine (reports_identifier c.name).bind fun _ _ => ?_
  refine (reports_path c.base).bind fun _ _ => ?_
  refine (reports_path c.marker).bind fun _ _ => ?_
  exact hoperations.bind_ok _

theorem eq_of_mem_propertyFaults {p : Property} {e : RustError} (h : e ∈ propertyFaults c p)
    : e = .reservedIdentifier p.name
        ∨
      (p.type = none ∧ e = .missingType (c.base.join "::") p.name)
        ∨
      ∃ text, e = .invalidType p.name text := by
  unfold propertyFaults nameFaults typeFaults at h
  cases List.mem_append.mp h with
  | inl h => exact Or.inl (mem_faultUnless.mp h).right
  | inr h =>
    split at h
    . next htype => exact Or.inr (Or.inl ⟨htype, List.mem_singleton.mp h⟩)
    . next text htype => exact Or.inr (Or.inr ⟨text, (mem_faultUnless.mp h).right⟩)

/-- A fault tells the name of its property. -/
theorem name_eq_of_mem_propertyFaults {p q : Property} {e : RustError}
    (hp : e ∈ propertyFaults c p) (hq : e ∈ propertyFaults c q)
    : p.name = q.name := by
  rcases eq_of_mem_propertyFaults hp with rfl | ⟨-, rfl⟩ | ⟨text, rfl⟩
  . simpa using eq_of_mem_propertyFaults hq
  . have htype : q.type = none ∧ p.name = q.name := by simpa using eq_of_mem_propertyFaults hq
    exact htype.right
  . simpa using eq_of_mem_propertyFaults hq

theorem not_mem_propertyFaults_of_pathFaults {n : QualifiedName} {p : Property} {e : RustError}
    (h : e ∈ pathFaults n)
    : e ∉ propertyFaults c p := by
  intro hp
  rw [(mem_faultUnless.mp h).right] at hp
  simpa using eq_of_mem_propertyFaults hp

variable {d : Descriptor} {s : PropertySet}

/-- The only fault of a property without accessors that can be reported is that of the proxy's own
name. -/
theorem eq_of_mem_faults {a : AccessorPlan} (ha : a ∈ d.plan s) (hcount : a.count = 0) {e : RustError}
    (he : e ∈ faults c (d.plan s)) (hfault : e ∈ propertyFaults c a.property)
    : e = .reservedIdentifier c.name := by
  unfold faults at he
  rw [List.mem_append, List.mem_append, List.mem_append] at he
  rcases he with ((hname | hbase) | hmarker) | hplan
  . exact (mem_faultUnless.mp hname).right
  . exact absurd hfault (not_mem_propertyFaults_of_pathFaults hbase)
  . exact absurd hfault (not_mem_propertyFaults_of_pathFaults hmarker)
  . rcases List.mem_flatMap.mp hplan with ⟨b, hb, hb'⟩
    rw [List.mem_filter, decide_eq_true_iff] at hb
    have hsame := Descriptor.eq_of_mem_plan ha hb.left (name_eq_of_mem_propertyFaults hfault hb')
    rw [← hsame, hcount] at hb
    exact absurd hb.right (Nat.lt_irrefl 0)

theorem exists_of_missingType_mem_faults {className property : String}
    (h : .missingType className property ∈ faults c (d.plan s))
    : ∃ p ∈ s.properties, p.name = property ∧ p.type = none := by
  unfold faults at h
  rw [List.mem_append, List.mem_append, List.mem_append] at h
  rcases h with ((hname | hbase) | hmarker) | hplan
  . have := (mem_faultUnless.mp hname).right
    contradiction
  . have := (mem_faultUnless.mp hbase).right
    contradiction
  . have := (mem_faultUnless.mp hmarker).right
    contradiction
  . rcases List.mem_flatMap.mp hplan with ⟨a, ha, hfault⟩
    have hmem := Descriptor.property_mem_of_mem_plan (List.mem_of_mem_filter ha)
    rcases eq_of_mem_propertyFaults hfault with heq | ⟨htype, heq⟩ | ⟨text, heq⟩
    . contradiction
    . rw [RustError.missingType.injEq] at heq
      exact ⟨a.property, hmem, heq.right.symm, htype⟩
    . contradiction

end LazyProxy.Rust

namespace LazyProxy.Config

variable {c : Config} {d : Descriptor} {proxy : ProxyClass}

/-- The items of a proxy fail with the first of its faults. A property whose accessors are provided
by the chain or claimed by earlier properties has no part in them. -/
theorem items_report_first (h : c.model d = .ok proxy) (visibility : Code.Visibility)
    : ∃ s, d.collectProperties = .ok s
        ∧
      (∀ e, Rust.items proxy visibility = .error e
        ↔ (Rust.faults proxy (d.plan s)).head? = some e)
        ∧
      ((∃ is, Rust.items proxy visibility = .ok is) ↔ Rust.faults proxy (d.plan s) = [])
        ∧
      (∀ i (a : AccessorPlan), (d.plan s)[i]? = some a →
        (∀ k, d.IsTaken s i k (a.accessor k).name) →
        ∀ e ∈ Rust.propertyFaults proxy a.property, Rust.items proxy visibility = .error e →
          e = .reservedIdentifier proxy.name)
        ∧
      ((∀ p ∈ s.properties, p.type ≠ none) →
        ∀ className property,
          Rust.items proxy visibility ≠ .error (.missingType className property)) := by
  rcases model_eq_ok h with ⟨s, marker, hcollect, -, hproxy⟩
  have hreports : Reports (Rust.items proxy visibility) (Rust.faults proxy (d.plan s)) := by
    rw [hproxy]
    exact Rust.reports_items d (d.plan s) c.effectiveSegment c.withName marker visibility
  refine ⟨s, hcollect, hreports, hreports.exists_eq_ok_iff, ?_, ?_⟩
  . intro i a ha htaken e hfault he
    have hcount := Descriptor.count_eq_zero_of_isTaken ha htaken
    exact Rust.eq_of_mem_faults (List.mem_of_getElem? ha) hcount (hreports.mem he) hfault
  . intro htypes className property he
    rcases Rust.exists_of_missingType_mem_faults (hreports.mem he) with ⟨p, hp, -, htype⟩
    exact htypes p hp htype

/-- The chain provides the accessors of `self`, and `title` claims those of `_title`: neither needs a
type. -/
theorem items_report_first_article
    : let d : Descriptor :=
        ⟨{ name := ⟨["crate", "Article"]⟩
           properties :=
            [⟨"self", none⟩, ⟨"title", some "String"⟩, ⟨"_title", none⟩, ⟨"pages", none⟩]
           methods := ["getSelf"] },
          [{ name := ⟨["crate", "Base"]⟩, methods := ["set_self"] }]⟩
      ∃ proxy, ({ target := .rust } : Config).model d = .ok proxy
        ∧
      Rust.items proxy .everyone = .error (.missingType "crate::Article" "pages") := by
  intro d
  let proxy : ProxyClass :=
    { namespaceSegments := ["crate", "_proxy"]
      name := "Article"
      base := ⟨["crate", "Article"]⟩
      marker := ⟨["docproxy", "ProxyInterface"]⟩
      members :=
        [.flag, .isInitialized, .setInitialized, .getter "getTitle" ⟨"title", some "String"⟩,
          .setter "setTitle" ⟨"title", some "String"⟩, .getter "getPages" ⟨"pages", none⟩,
          .setter "setPages" ⟨"pages", none⟩] }
  have hmodel : ({ target := .rust } : Config).model d = .ok proxy := by decide +kernel
  have hfirst : d.collectProperties.map (fun s => (Rust.faults proxy (d.plan s)).head?)
      = .ok (some (.missingType "crate::Article" "pages")) := by decide +kernel
  rcases items_report_first hmodel .everyone with ⟨s, hcollect, herror, -⟩
  rw [hcollect] at hfirst
  exact ⟨proxy, hmodel, (herror _).mpr (Except.ok.inj hfirst)⟩

end LazyProxy.Config
