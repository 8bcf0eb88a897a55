import LazyProxy.Proofs.Generator
import LazyProxy.Proofs.Proxy.Plan

/-!
This module contains when a proxy in PHP cannot be generated, and what is reported then: the segment,
the marker, the type and the setter of a property called `this` are looked at in this order. The
property is harmless if its setter is left out.
-/

namespace LazyProxy

namespace Php

theorem any_assignsThis_members (a : AccessorPlan)
    : a.members.any assignsThis ↔ a.property.name = "this" ∧ a.setter.generate := by
  unfold AccessorPlan.members
  rw [List.any_append]
  split
  . split
    . next hset => simp [assignsThis, hset]
    . next hset => simp [assignsThis, hset]
  . split
    . next hset => simp [assignsThis, hset]
    . next hset => simp [hset]

end Php

namespace Descriptor

/-- Whether the plan for the properties of a type generates the setter of a property called `this`. -/
def SetsThis (d : Descriptor) : Prop :=
  ∃ s, d.collectProperties = .ok s ∧ ∃ a ∈ d.plan s, a.property.name = "this" ∧ a.setter.generate

instance (d : Descriptor) : Decidable d.SetsThis :=
  match h : d.collectProperties with
  | .error _ => isFalse (by simp [SetsThis, h])
  | .ok s =>
    decidable_of_iff (∃ a ∈ d.plan s, a.property.name = "this" ∧ a.setter.generate)
      (by simp [SetsThis, h])

variable {d : Descriptor} {s : PropertySet}

theorem setsThis_iff (h : d.collectProperties = .ok s) {segment : String} {withName : Bool}
    {marker : QualifiedName}
    : d.SetsThis
        ↔
      (ProxyClass.build d (d.plan s) segment withName marker).members.any Php.assignsThis := by
  have hflag : [Member.flag, .isInitialized, .setInitialized].any Php.assignsThis = false := rfl
  rw [ProxyClass.build, List.any_append, List.any_flatMap, hflag, Bool.false_or, List.any_eq_true]
  simp only [Php.any_assignsThis_members]
  simp [SetsThis, h]

end Descriptor

namespace Config

/-- Whether the marker can be read as a name of identifiers. -/
def NamesMarker (c : Config) : Prop :=
  ∃ m, QualifiedName.parse? c.effectiveMarker = some m ∧ ∀ s ∈ m.segments, isIdentifier s

theorem namesMarker_iff (c : Config)
    : c.NamesMarker
        ↔
      (QualifiedName.parse? c.effectiveMarker).any (·.segments.all isIdentifier) := by
  simp [NamesMarker, Option.any_eq_true]

instance (c : Config) : Decidable c.NamesMarker :=
  decidable_of_iff' _ c.namesMarker_iff

/-- What is wrong with the segment and the marker. -/
def nameFaults (c : Config) : List EmissionError :=
  faultUnless (isIdentifier c.effectiveSegment) (.invalidName .proxySegment c.effectiveSegment) ++
    faultUnless c.NamesMarker (.invalidName .marker c.effectiveMarker)

/-- What keeps a type from having a proxy in any language, in the order in which it is looked for. -/
def modelFaults (c : Config) (d : Descriptor) : List GenerationError :=
  c.nameFaults.map .emission ++ (faultOf d.collectProperties).map .resolution

/-- What keeps a type from having a proxy in PHP, in the order in which it is looked for. -/
def phpFaults (c : Config) (d : Descriptor) : List GenerationError :=
  c.modelFaults d ++
    faultUnless (¬d.SetsThis) (.emission (.invalidName .setterParameter "$this"))

variable {c : Config} {d : Descriptor}

theorem reports_names (c : Config) : Reports c.names c.nameFaults := by
  unfold names nameFaults
  split
  . next hsegment =>
    rw [faultUnless, if_neg (by simpa using hsegment)]
    exact .error _ _
  . next hsegment =>
    rw [faultUnless, if_pos (by simpa using hsegment)]
    have hmarker := c.namesMarker_iff
    split
    . next hparse =>
      rw [faultUnless, if_neg (by simp [hmarker, hparse])]
      exact .error _ _
    . next m hparse =>
      split
      . next hall =>
        rw [faultUnless, if_pos (by simp [hmarker, hparse, hall])]
        exact .ok _
      . next hall =>
        rw [faultUnless, if_neg (by simp [hmarker, hparse, hall])]
        exact .error _ _

theorem reports_render {proxy : ProxyClass} (h : c.model d = .ok proxy)
    : Reports (Php.render proxy c)
        (faultUnless (¬d.SetsThis) (.invalidName .setterParameter "$this")) := by
  rcases model_eq_ok h with ⟨s, marker, hcollect, -, rfl⟩
  unfold Php.render
  split
  . next hany =>
    rw [← Descriptor.setsThis_iff hcollect] at hany
    rw [faultUnless, if_neg (not_not_intro hany)]
    exact .error _ _
  . next hany =>
    rw [← Descriptor.setsThis_iff hcollect] at hany
    rw [faultUnless, if_pos hany]
    exact .ok _

theorem reports_model (c : Config) (d : Descriptor) : Reports (c.model d) (c.modelFaults d) := by
  apply ((reports_names c).mapError GenerationError.emission).bind
  rintro ⟨segment, marker⟩ -
  exact ((Reports.faultOf d.collectProperties).mapError GenerationError.resolution).bind_ok _

theorem reports_generate_of_php (hphp : c.target = .php) (d : Descriptor)
    : Reports (c.generate d) (c.phpFaults d) := by
  unfold generate
  apply (reports_model c d).bind
  intro proxy hproxy
  rw [hphp]
  have hrender := (reports_render hproxy).mapError GenerationError.emission
  rw [map_faultUnless] at hrender
  exact hrender.bind_ok _

/-- Generation in PHP fails with the first of its faults. The setter of a property called `this` is
one, unless the chain provides it or an earlier property claims its name. -/
theorem generate_php_reports_first (c : Config) (d : Descriptor) (hphp : c.target = .php)
    : (∀ e, c.generate d = .error e ↔ (c.phpFaults d).head? = some e)
        ∧
      ((∃ source, c.generate d = .ok source)
        ↔
      isIdentifier c.effectiveSegment ∧ c.NamesMarker ∧ (∃ s, d.collectProperties = .ok s)
        ∧
      ¬d.SetsThis)
        ∧
      (d.SetsThis
        ↔
      ∃ s before p after, d.collectProperties = .ok s ∧ s.properties = before ++ p :: after
        ∧
      p.name = "this"
        ∧
      (∀ k ∈ d.levels, ∀ m ∈ k.methods,
        foldCase m ≠ foldCase "setThis" ∧ foldCase m ≠ foldCase "set_this")
        ∧
      ∀ q ∈ before, foldCase (setterName q.name) = foldCase "setThis" →
        d.Provides (setterName q.name)) := by
  have hreports := reports_generate_of_php hphp d
  refine ⟨hreports, ?_, ?_⟩
  . rw [hreports.exists_eq_ok_iff, (Reports.faultOf d.collectProperties).exists_eq_ok_iff]
    simp [phpFaults, modelFaults, nameFaults, faultUnless_eq_nil_iff]
  . have hsetter : AccessorKind.setter.nameFor "this" = "setThis" := by decide
    have hsnake : snakeCase "setThis" = "set_this" := by decide +kernel
    unfold Descriptor.SetsThis
    constructor
    . rintro ⟨s, hcollect, hthis⟩
      rcases (Descriptor.exists_generate_iff .setter "this").mp hthis with
        ⟨before, p, after, heq, hname, hprovides, hbefore⟩
      rw [hsetter] at hprovides hbefore
      rw [Descriptor.not_provides_iff, hsnake] at hprovides
      exact ⟨s, before, p, after, hcollect, heq, hname, hprovides, hbefore⟩
    . rintro ⟨s, before, p, after, hcollect, heq, hname, hmethods, hbefore⟩
      refine ⟨s, hcollect, (Descriptor.exists_generate_iff .setter "this").mpr ?_⟩
      rw [hsetter, Descriptor.not_provides_iff, hsnake]
      exact ⟨before, p, after, heq, hname, hmethods, hbefore⟩

/-- The property alone, and after one that claims its setter. -/
theorem generate_php_reports_first_this
    : let alone : Descriptor := ⟨{ name := ⟨["Article"]⟩, properties := [⟨"this", none⟩] }, []⟩
      let claimed : Descriptor :=
        ⟨{ name := ⟨["Article"]⟩, properties := [⟨"t_his", none⟩, ⟨"this", none⟩] }, []⟩
      ({} : Config).generate alone = .error (.emission (.invalidName .setterParameter "$this"))
        ∧
      (∃ source, ({} : Config).generate claimed = .ok source)
        ∧
      ({ segment := some "my-proxy" } : Config).generate alone
        = .error (.emission (.invalidName .proxySegment "my-proxy")) := by
  intro alone claimed
  have hsegment : ({ segment := some "my-proxy" } : Config).target = .php := rfl
  refine ⟨?_, ?_, ?_⟩
  . apply ((generate_php_reports_first {} alone rfl).left _).mpr
    decide +kernel
  . apply (generate_php_reports_first {} claimed rfl).right.left.mpr
    have hnames : claimed.collectProperties.map PropertySet.names = .ok ["t_his", "this"] := by
      decide +kernel
    rcases map_eq_ok_iff.mp hnames with ⟨s, hcollect, -⟩
    exact ⟨by decide +kernel, by decide +kernel, ⟨s, hcollect⟩, by decide +kernel⟩
  . apply ((generate_php_reports_first _ alone hsegment).left _).mpr
    decide +kernel

end Config

end LazyProxy
