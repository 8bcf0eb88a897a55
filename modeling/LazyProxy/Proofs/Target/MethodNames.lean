import LazyProxy.Proofs.Generator
import LazyProxy.Proofs.Naming.SnakeCase
import LazyProxy.Proofs.Proxy.Plan
import LazyProxy.Proofs.Target.RustItems

/-!
This module contains the names of the methods that a Rust proxy has for its accessors. Snake case keeps
the names of a plan apart, as it keeps their letters.
-/

namespace LazyProxy

open Code

namespace ProxyClass

theorem filterMap_method?_accessors (c : ProxyClass)
    : c.accessors.filterMap Member.method? = c.members.filterMap Member.method? := by
  unfold accessors
  rw [List.filterMap_filter]
  congr 1
  funext m
  cases m with
  | flag => rfl
  | isInitialized => rfl
  | setInitialized => rfl
  | getter name p => rfl
  | setter name p => rfl

theorem filterMap_method?_build (d : Descriptor) (plans : List AccessorPlan) (segment : String)
    (withName : Bool) (marker : QualifiedName)
    : (build d plans segment withName marker).members.filterMap Member.method?
        =
      generatedNames plans := by
  rfl

end ProxyClass

namespace Rust

/-- The names of the methods that a proxy has for its accessors. -/
def methodNames (c : ProxyClass) : List String :=
  (c.accessors.filterMap Member.method?).map snakeCase

theorem map_name_operations {c : ProxyClass} {ms : List Member} {os : List Operation}
    (h : operations c ms = .ok os)
    : (os.filterMap Operation.accessor?).map (·.signature.name)
        =
      (ms.filterMap Member.method?).map fun name => plain (snakeCase name) := by
  rw [List.map_filterMap, List.map_filterMap]
  refine filterMap_operations ?_ h
  intro m o hwrites
  cases hwrites with
  | flag => rfl
  | isInitialized => rfl
  | setInitialized => rfl
  | getter method type h => rfl
  | setter method type h => rfl

theorem items_eq_ok {c : ProxyClass} {visibility : Visibility} {is : List Item}
    (h : items c visibility = .ok is)
    : ∃ name base accessors, is[1]? = some (inherentItem name base accessors)
        ∧
      accessors.map (·.signature.name) = (methodNames c).map plain := by
  rcases items_eq_ok_iff.mp h with ⟨name, base, marker, os, -, -, -, hos, rfl⟩
  refine ⟨name, base, os.filterMap Operation.accessor?, rfl, ?_⟩
  rw [map_name_operations hos, methodNames, ProxyClass.filterMap_method?_accessors, List.map_map]
  rfl

variable {d : Descriptor} {s : PropertySet}

theorem withoutUnderscores_snakeCase_generatedNames {name : String}
    (hs : ∀ p ∈ s.properties, isIdentifier p.name) (h : name ∈ generatedNames (d.plan s))
    : withoutUnderscores (snakeCase name) = foldCase name := by
  rcases Descriptor.exists_nameFor_of_mem_generatedNames h with ⟨p, hp, k, rfl, -⟩
  exact k.withoutUnderscores_snakeCase_nameFor (hs p hp)

theorem nodup_map_snakeCase_generatedNames (hs : ∀ p ∈ s.properties, isIdentifier p.name)
    : ((generatedNames (d.plan s)).map snakeCase).Nodup := by
  have hletters : ((generatedNames (d.plan s)).map snakeCase).map withoutUnderscores
      = (generatedNames (d.plan s)).map foldCase := by
    rw [List.map_map]
    apply List.map_congr_left
    intro name hname
    exact withoutUnderscores_snakeCase_generatedNames hs hname
  -- It is enough that the methods stay distinct without their underscores, as names do up to case.
  apply List.Nodup.of_map withoutUnderscores
  rw [hletters]
  exact Descriptor.nodup_generatedNames d s

/-- The other functions of a proxy's own, and the words that name nothing. -/
def takenNames : List String :=
  ["new", "into_inner"] ++ rustKeywords ++ unrawableKeywords

theorem not_verb_isPrefix_of_mem_takenNames (k : AccessorKind)
    : ∀ name ∈ takenNames, ¬k.verb.toList <+: (withoutUnderscores name).toList := by
  cases k with
  | getter => decide
  | setter => decide

theorem verb_isPrefix_foldCase_nameFor (k : AccessorKind) (property : String)
    : k.verb.toList <+: (foldCase (k.nameFor property)).toList := by
  have hverb : foldCase k.verb = k.verb := by
    cases k with
    | getter => rfl
    | setter => rfl
  rw [AccessorKind.nameFor_eq, foldCase_append, hverb, String.toList_append]
  exact List.prefix_append _ _

theorem snakeCase_generatedNames_not_mem_takenNames {name : String}
    (hs : ∀ p ∈ s.properties, isIdentifier p.name) (h : name ∈ generatedNames (d.plan s))
    : snakeCase name ∉ takenNames := by
  intro htaken
  have hletters := withoutUnderscores_snakeCase_generatedNames hs h
  rcases Descriptor.exists_nameFor_of_mem_generatedNames h with ⟨p, hp, k, rfl, -⟩
  apply not_verb_isPrefix_of_mem_takenNames k _ htaken
  rw [hletters]
  exact verb_isPrefix_foldCase_nameFor k p.name

theorem foldCase_snakeCase_generatedNames_ne {name : String} (h : name ∈ generatedNames (d.plan s))
    {c : ClassLevel} (hc : c ∈ d.levels) {m : String} (hm : m ∈ c.methods)
    : foldCase m ≠ foldCase (snakeCase name) := by
  rcases Descriptor.exists_nameFor_of_mem_generatedNames h with ⟨p, hp, k, -, hprovides⟩
  intro hfold
  exact hprovides ⟨c, hc, m, hm, Or.inr hfold⟩

/-- The methods of the accessors have names of their own: no two have the same, none has the name of
another function of the proxy or is a keyword, and none hides a method of the type. They are what the
accessors in the proxy's own block are called. -/
theorem methodNames_fresh (c : Config) (d : Descriptor) (proxy : ProxyClass)
    (h : c.model d = .ok proxy)
    : (methodNames proxy).Nodup
        ∧
      (∀ n ∈ methodNames proxy, n ≠ "new" ∧ n ≠ "into_inner" ∧ ¬isRustKeyword n ∧ ¬isUnrawable n
        ∧ ∀ l ∈ d.levels, ∀ m ∈ l.methods, foldCase m ≠ foldCase n)
        ∧
      ∀ (visibility : Visibility) (is : List Item), items proxy visibility = .ok is →
        ∃ name base accessors, is[1]? = some (inherentItem name base accessors)
          ∧ accessors.map (·.signature.name) = (methodNames proxy).map plain := by
  rcases Config.model_eq_ok h with ⟨s, marker, hcollect, -, rfl⟩
  have hs := Descriptor.isIdentifier_of_collectProperties hcollect
  have hnames : methodNames (.build d (d.plan s) c.effectiveSegment c.withName marker)
      = (generatedNames (d.plan s)).map snakeCase := by
    rw [methodNames, ProxyClass.filterMap_method?_accessors, ProxyClass.filterMap_method?_build]
  refine ⟨?_, ?_, fun visibility is his => items_eq_ok his⟩
  . rw [hnames]
    exact nodup_map_snakeCase_generatedNames hs
  . rw [hnames]
    intro n hn
    rcases List.mem_map.mp hn with ⟨name, hname, rfl⟩
    have htaken := snakeCase_generatedNames_not_mem_takenNames hs hname
    simp only [takenNames, List.mem_append, not_or] at htaken
    refine ⟨?_, ?_, ?_, ?_, ?_⟩
    . rintro heq
      simp [heq] at htaken
    . rintro heq
      simp [heq] at htaken
    . simp [isRustKeyword, htaken]
    . simp [isUnrawable, htaken]
    . intro l hl m hm
      exact foldCase_snakeCase_generatedNames_ne hname hl hm

/-- Of two properties of one accessor name, the first one has the methods. -/
theorem methodNames_fresh_publishedAt
    : ∃ proxy, ({ target := .rust } : Config).model
          ⟨{ name := ⟨["crate", "docs", "Article"]⟩
             properties := [⟨"published_at", some "u64"⟩, ⟨"publishedAt", some "u64"⟩]
             methods := ["published"] }, []⟩ = .ok proxy
        ∧
      methodNames proxy = ["get_published_at", "set_published_at"]
        ∧
      (methodNames proxy).Nodup := by
  let proxy : ProxyClass :=
    { namespaceSegments := ["crate", "docs", "_proxy"]
      name := "Article"
      base := ⟨["crate", "docs", "Article"]⟩
      marker := ⟨["docproxy", "ProxyInterface"]⟩
      members := [.flag, .isInitialized, .setInitialized,
        .getter "getPublishedAt" ⟨"published_at", some "u64"⟩,
        .setter "setPublishedAt" ⟨"published_at", some "u64"⟩] }
  refine ⟨proxy, ?hmodel, by decide +kernel, (methodNames_fresh _ _ proxy ?hmodel).left⟩
  decide +kernel

end Rust

end LazyProxy
