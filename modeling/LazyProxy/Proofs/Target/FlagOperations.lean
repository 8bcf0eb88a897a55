import LazyProxy.Proofs.Derive.Accessors
import LazyProxy.Proofs.Naming.Words
import LazyProxy.Proofs.Target.MethodNames
import LazyProxy.Proofs.Target.PhpShape

/-!
This module contains what calls on a proxy reach that are named like the operations of its flag. The
flag can always be read. It can be set unless a property's setter is called like the operation that
sets it, which nothing prevents in Rust.
-/

namespace LazyProxy

open Code

/-- The property that a member sets if it is called like the operation that sets the flag. -/
def Member.flagNamesake? : Member → Option Property
  | setter name p => if name = "setInitialized" ∨ name = "setINITIALIZED" then some p else none
  | _ => none

/-- The property whose setter is called like the operation that sets the flag. -/
def ProxyClass.flagNamesake? (c : ProxyClass) : Option Property :=
  c.members.findSome? Member.flagNamesake?

section Names

variable {p : Property} {k : AccessorKind} (hp : isIdentifier p.name)

include hp

theorem snakeCase_nameFor_ne_is_initialized : snakeCase (k.nameFor p.name) ≠ "is_initialized" := by
  intro heq
  have hletters := k.withoutUnderscores_snakeCase_nameFor hp
  have hverb := Rust.verb_isPrefix_foldCase_nameFor k p.name
  rw [← hletters, heq] at hverb
  cases k with
  | getter => exact absurd hverb (by decide)
  | setter => exact absurd hverb (by decide)

/-- Only a setter can be called like the operation that sets the flag, in two spellings. -/
theorem snakeCase_nameFor_eq_set_initialized_iff
    : snakeCase (k.nameFor p.name) = "set_initialized"
        ↔
      (k.member (k.nameFor p.name) p).flagNamesake? = some p := by
  cases k with
  | getter =>
    have hletters := AccessorKind.getter.withoutUnderscores_snakeCase_nameFor hp
    have hverb := Rust.verb_isPrefix_foldCase_nameFor .getter p.name
    rw [← hletters] at hverb
    refine iff_of_false (fun heq => ?_) (by simp [AccessorKind.member, Member.flagNamesake?])
    rw [heq] at hverb
    exact absurd hverb (by decide)
  | setter =>
    simp only [AccessorKind.member, Member.flagNamesake?, Option.ite_none_right_eq_some, and_true]
    constructor
    . intro heq
      have hname : (snakeCase (AccessorKind.setter.nameFor p.name)).toList
          = AccessorKind.setter.verb.toList ++ '_' :: "initialized".toList := by
        rw [heq]
        rfl
      have hletters : ∀ c ∈ "initialized".toList, c.isLower := List.all_eq_true.mp (by decide)
      rw [AccessorKind.nameFor_eq]
      cases AccessorKind.setter.classify_eq_of_snakeCase hp hletters hname with
      | inl hclassify =>
        left
        apply String.toList_injective
        rw [String.toList_append, hclassify]
        rfl
      | inr hclassify =>
        right
        apply String.toList_injective
        rw [String.toList_append, hclassify]
        rfl
    . rintro (heq | heq)
      . rw [heq]
        decide +kernel
      . rw [heq]
        decide +kernel

end Names

theorem AccessorKind.method?_member (k : AccessorKind) (name : String) (p : Property)
    : (k.member name p).method? = some name := by
  cases k with
  | getter => rfl
  | setter => rfl

section Planned

variable {m : Member} (hm : m.IsPlanned)

include hm

theorem map_snakeCase_method?_ne_is_initialized
    : m.method?.map snakeCase ≠ some "is_initialized" := by
  have hflag : ∀ m ∈ [Member.flag, .isInitialized, .setInitialized], m.method? = none := by decide
  rcases hm with hm | ⟨p, hp, k, rfl⟩
  . rw [hflag m hm]
    simp
  . rw [k.method?_member, Option.map_some, Ne, Option.some.injEq]
    exact snakeCase_nameFor_ne_is_initialized hp

theorem ite_set_initialized_eq_map_flagNamesake?
    : (if m.method?.map snakeCase = some "set_initialized" then
        some (some (m.withoutType.rename snakeCase)) else none)
        =
      m.flagNamesake?.map fun p => some (.setter "set_initialized" ⟨p.name, none⟩) := by
  have hflag : ∀ m ∈ [Member.flag, .isInitialized, .setInitialized],
      m.method? = none ∧ m.flagNamesake? = none := by decide
  rcases hm with hm | ⟨p, hp, k, rfl⟩
  . rw [(hflag m hm).left, (hflag m hm).right]
    rfl
  . have hiff := snakeCase_nameFor_eq_set_initialized_iff hp (k := k)
    simp only [k.method?_member, Option.map_some, Option.some.injEq]
    split
    . next heq =>
      rw [hiff.mp heq]
      cases k with
      | getter => exact absurd (hiff.mp heq) (by simp [AccessorKind.member, Member.flagNamesake?])
      | setter =>
        rw [AccessorKind.member, Member.withoutType, Member.rename, heq]
        rfl
    . next hne =>
      have hnone : (k.member (k.nameFor p.name) p).flagNamesake? = none := by
        rw [hiff] at hne
        cases k with
        | getter => rfl
        | setter => simpa [AccessorKind.member, Member.flagNamesake?] using hne
      rw [hnone]
      rfl

end Planned

namespace Rust

/-- The function that a call on a proxy reaches. Those of the proxy's own come before those that traits
ask for. -/
def called? (is : List Item) (name : String) : Option Function :=
  (inherentFunctions is ++ traitFunctions is).find? (·.signature.name = plain name)

/-- Whether the proxy itself has a function of this name. -/
def HasOwn (is : List Item) (name : String) : Prop :=
  ∃ f ∈ inherentFunctions is, f.signature.name = plain name

/-- Items in which the names of the flag's operations lead to the flag, unless a property takes one. -/
structure CallsFlag (c : ProxyClass) (is : List Item) : Prop where
  reader : ¬HasOwn is "is_initialized" ∧ called? is "is_initialized" = some flagReader
  writer : c.flagNamesake? = none →
    ¬HasOwn is "set_initialized" ∧ called? is "set_initialized" = some flagWriter
  namesake : ∀ p, c.flagNamesake? = some p →
    HasOwn is "set_initialized" ∧ (called? is "set_initialized").bind memberOf?
      = some (.setter "set_initialized" ⟨p.name, none⟩)

variable {c : ProxyClass} {ms : List Member} {os : List Operation}

theorem plain_inj {a b : String} : plain a = plain b ↔ a = b := by
  simp [plain]

/-- The first accessor of a name is that of the first member of the name. -/
theorem map_memberOf?_find?_accessors (h : operations c ms = .ok os) (name : String)
    : ((os.filterMap Operation.accessor?).find? (·.signature.name = plain name)).map memberOf?
        =
      (ms.filterMap fun m =>
        if m.method?.map snakeCase = some name then some (some (m.withoutType.rename snakeCase))
        else none).head? := by
  have hfunctions : ((os.filterMap Operation.accessor?).filter (·.signature.name = plain name)).map
      memberOf? = os.filterMap fun o => o.accessor?.bind fun f =>
        if f.signature.name = plain name then some (memberOf? f) else none := by
    rw [← List.filterMap_eq_filter, ← List.filterMap_eq_map, List.filterMap_filterMap,
      List.filterMap_filterMap]
    apply List.filterMap_congr
    intro o _
    cases o.accessor? with
    | none => rfl
    | some f => by_cases hname : f.signature.name = plain name <;> simp [hname]
  rw [← List.head?_filter, ← List.head?_map, hfunctions]
  congr 1
  refine filterMap_operations ?_ h
  intro m o hwrites
  cases hwrites with
  | flag => rfl
  | isInitialized => rfl
  | setInitialized => rfl
  | @getter p field method type h =>
    have hmember := memberOf?_getterFunction (plain (snakeCase method)) field type
    rw [name_of_identifier h] at hmember
    simp only [Option.bind_some, Operation.accessor?, hmember, Member.method?, Option.map_some,
      Option.some.injEq]
    exact if_congr plain_inj rfl rfl
  | @setter p field method type h =>
    have hmember := memberOf?_setterFunction (plain (snakeCase method)) field type
    rw [name_of_identifier h] at hmember
    simp only [Option.bind_some, Operation.accessor?, hmember, Member.method?, Option.map_some,
      Option.some.injEq]
    exact if_congr plain_inj rfl rfl

theorem not_hasOwn_of_find? {is : List Item} {name : String}
    (hnone : (inherentFunctions is).find? (·.signature.name = plain name) = none)
    : ¬HasOwn is name
        ∧
      called? is name = (traitFunctions is).find? (·.signature.name = plain name) := by
  constructor
  . rintro ⟨f, hf, hname⟩
    simpa [hname] using List.find?_eq_none.mp hnone f hf
  . rw [called?, List.find?_append, hnone, Option.none_or]

theorem hasOwn_of_find? {is : List Item} {name : String} {f : Function}
    (hf : (inherentFunctions is).find? (·.signature.name = plain name) = some f)
    : HasOwn is name ∧ called? is name = some f := by
  constructor
  . exact ⟨f, List.mem_of_find?_eq_some hf, by simpa using List.find?_some hf⟩
  . rw [called?, List.find?_append, hf, Option.some_or]

section Calls

variable {visibility : Visibility} {is : List Item} (h : items c visibility = .ok is)

include h

/-- What a name leads to by which the proxy has no function but accessors. -/
theorem map_memberOf?_find?_inherentFunctions (name : String) (hnew : name ≠ "new")
    (hinner : name ≠ "into_inner")
    : ((inherentFunctions is).find? (·.signature.name = plain name)).map memberOf?
        =
      (c.members.filterMap fun m =>
        if m.method?.map snakeCase = some name then some (some (m.withoutType.rename snakeCase))
        else none).head? := by
  rcases items_eq_ok_iff.mp h with ⟨type, base, marker, os, -, -, -, hos, rfl⟩
  have hwrap : (wrapFunction base).signature.name ≠ plain name := fun heq =>
    hnew (plain_inj.mp heq).symm
  have hunwrap : (unwrapFunction base).signature.name ≠ plain name := fun heq =>
    hinner (plain_inj.mp heq).symm
  rw [inherentFunctions_items, List.find?_cons_of_neg (by simpa using hwrap),
    List.find?_cons_of_neg (by simpa using hunwrap)]
  exact map_memberOf?_find?_accessors hos name

theorem find?_traitFunctions
    (hmembers : c.members.filter (!·.isAccessor) = [.flag, .isInitialized, .setInitialized])
    : (traitFunctions is).find? (·.signature.name = plain "is_initialized") = some flagReader
        ∧
      (traitFunctions is).find? (·.signature.name = plain "set_initialized") = some flagWriter := by
  rcases items_eq_ok_iff.mp h with ⟨type, base, marker, os, -, -, -, hos, rfl⟩
  rw [traitFunctions_items, filterMap_marker?_operations hos hmembers]
  exact ⟨rfl, rfl⟩

end Calls

section Build

variable {d : Descriptor} {s : PropertySet} (hs : ∀ p ∈ s.properties, isIdentifier p.name)

include hs

/-- A function of the proxy's own is called like an operation of the flag only if it is the setter of
the flag's namesake. -/
theorem callsFlag_of_build {segment : String} {withName : Bool} {marker : QualifiedName}
    {visibility : Visibility} {is : List Item}
    (h : items (.build d (d.plan s) segment withName marker) visibility = .ok is)
    : CallsFlag (.build d (d.plan s) segment withName marker) is := by
  have htraits := find?_traitFunctions h (ProxyClass.filter_not_isAccessor_build ..)
  have hreads := map_memberOf?_find?_inherentFunctions h "is_initialized" (by decide) (by decide)
  have hsets := map_memberOf?_find?_inherentFunctions h "set_initialized" (by decide) (by decide)
  rw [List.filterMap_eq_nil_iff.mpr fun m hm =>
    if_neg (map_snakeCase_method?_ne_is_initialized (ProxyClass.isPlanned_of_mem_members_build hs hm)),
    List.head?_nil, Option.map_eq_none_iff] at hreads
  rw [List.filterMap_congr fun m hm =>
    ite_set_initialized_eq_map_flagNamesake? (ProxyClass.isPlanned_of_mem_members_build hs hm),
    ← List.map_filterMap, List.head?_map, List.head?_filterMap] at hsets
  constructor
  . rw [← htraits.left]
    exact not_hasOwn_of_find? hreads
  . intro hnone
    rw [ProxyClass.flagNamesake?] at hnone
    rw [hnone, Option.map_none, Option.map_eq_none_iff] at hsets
    rw [← htraits.right]
    exact not_hasOwn_of_find? hsets
  . intro p hp
    rw [ProxyClass.flagNamesake?] at hp
    rw [hp, Option.map_some, Option.map_eq_some_iff] at hsets
    rcases hsets with ⟨f, hf, hmember⟩
    rcases hasOwn_of_find? hf with ⟨hown, hcalled⟩
    exact ⟨hown, by rw [hcalled, Option.bind_some, hmember]⟩

end Build

end Rust

/-- No accessor has a name with an underscore, in any case. -/
theorem foldCase_generatedNames_ne {d : Descriptor} {s : PropertySet}
    (hs : ∀ p ∈ s.properties, isIdentifier p.name) {name : String}
    (h : name ∈ generatedNames (d.plan s)) {other : String} (hother : '_' ∈ other.toList)
    : foldCase name ≠ foldCase other := by
  rcases Descriptor.exists_nameFor_of_mem_generatedNames h with ⟨p, hp, k, rfl, -⟩
  intro heq
  have hunderscore : '_' ∈ (foldCase other).toList := by
    rw [toList_foldCase]
    exact List.mem_map_of_mem (f := Char.toLower) hother
  rw [← heq, toList_foldCase, List.mem_map] at hunderscore
  rcases hunderscore with ⟨c, hc, hlower⟩
  rw [Text.toLower_eq_underscore_iff] at hlower
  rw [hlower] at hc
  exact absurd (k.isAlphanum_of_mem_nameFor (hs p hp) _ hc) (by decide)

/-- In Rust the flag can be read by the name of its operation, and set by it unless the type has a
property whose setter is called the same. In PHP no accessor is called like a function of the flag. -/
theorem flag_operations_called
    : (∀ (c : Config) (d : Descriptor) (proxy : ProxyClass) (visibility : Visibility)
        (is : List Item), c.model d = .ok proxy → Rust.items proxy visibility = .ok is →
        Rust.CallsFlag proxy is)
        ∧
      (∀ (d : Definition) (item : Item), Derive.expand d = .ok item →
        ∃ fields dfs moduleName proxy attributes visibility name is, d.shape = .record fields
          ∧ Derive.documentFields fields = .ok dfs
          ∧ Derive.proxyClass d.name dfs moduleName = .ok proxy
          ∧ item = .module attributes visibility name is ∧ Rust.CallsFlag proxy is)
        ∧
      ∀ (c : Config) (d : Descriptor) (source : Source), c.target = .php →
        c.generate d = .ok source →
        ∃ f accessors, Php.readClass? source.code = some f
          ∧ f.declarations.filterMap Php.Declaration.function?
            = "__isInitialized" :: "__setInitialized" :: accessors
          ∧ ∀ name ∈ accessors, foldCase name ≠ foldCase "__isInitialized"
            ∧ foldCase name ≠ foldCase "__setInitialized" := by
  refine ⟨?_, ?_, ?_⟩
  . intro c d proxy visibility is hmodel his
    rcases Config.model_eq_ok hmodel with ⟨s, marker, hcollect, -, rfl⟩
    exact Rust.callsFlag_of_build (Descriptor.isIdentifier_of_collectProperties hcollect) his
  . intro d item hitem
    rcases Derive.expand_eq_ok hitem with
      ⟨fields, dfs, moduleName, s, is, name, hshape, hdfs, hcollect, his, rfl⟩
    have hcalls := Rust.callsFlag_of_build (Descriptor.isIdentifier_of_collectProperties hcollect) his
    -- What the module has besides the items has no functions.
    refine ⟨fields, dfs, moduleName, _, _, _, name, _, hshape, hdfs, ?_, rfl,
      ⟨hcalls.reader, hcalls.writer, hcalls.namesake⟩⟩
    rw [Derive.proxyClass, hcollect]
    rfl
  . intro c d source hphp hsource
    rcases Php.exists_class_of_generate hphp hsource with ⟨proxy, f, hmodel, hf, hdeclarations, -⟩
    rcases Config.model_eq_ok hmodel with ⟨s, marker, hcollect, -, rfl⟩
    have hs := Descriptor.isIdentifier_of_collectProperties hcollect
    refine ⟨f, generatedNames (d.plan s), hf, ?_, fun name hname => ?_⟩
    . rw [hdeclarations]
      exact Php.functions_build ..
    . exact ⟨foldCase_generatedNames_ne hs hname (by decide),
        foldCase_generatedNames_ne hs hname (by decide)⟩

/-- A property that is called like the flag. -/
def draft : Descriptor where
  own := { name := ⟨["crate", "Draft"]⟩, properties := [⟨"initialized", some "bool"⟩] }
  ancestors := []

theorem model_draft
    : (({ target := .rust } : Config).model draft).map (fun proxy =>
          (proxy.flagNamesake?, (Rust.items proxy .everyone).map fun _ => ()))
        =
      .ok (some ⟨"initialized", some "bool"⟩, .ok ()) := by
  decide +kernel

theorem flag_operations_called_draft
    : (∃ proxy is, ({ target := .rust } : Config).model draft = .ok proxy
        ∧ Rust.items proxy .everyone = .ok is
        ∧ (Rust.called? is "is_initialized").bind Rust.memberOf? = some .isInitialized
        ∧ (Rust.called? is "set_initialized").bind Rust.memberOf?
          = some (.setter "set_initialized" ⟨"initialized", none⟩))
        ∧
      (∃ attributes visibility name is,
        Derive.expand { name := ⟨"Note", false⟩, shape := .record [] }
          = .ok (.module attributes visibility name is)
          ∧ (Rust.called? is "set_initialized").bind Rust.memberOf? = some .setInitialized)
        ∧
      ∃ source f accessors, ({} : Config).generate draft = .ok source
        ∧ Php.readClass? source.code = some f
        ∧ f.declarations.filterMap Php.Declaration.function?
          = "__isInitialized" :: "__setInitialized" :: accessors
        ∧ ∀ name ∈ accessors, foldCase name ≠ foldCase "__setInitialized" := by
  rcases flag_operations_called with ⟨hmodel, hexpand, hgenerate⟩
  refine ⟨?_, ?_, ?_⟩
  . rcases map_eq_ok_iff.mp model_draft with ⟨proxy, hproxy, hdraft⟩
    rw [Prod.mk.injEq, map_eq_ok_iff] at hdraft
    rcases hdraft with ⟨hnamesake, is, his, -⟩
    have hcalls := hmodel _ _ proxy .everyone is hproxy his
    refine ⟨proxy, is, hproxy, his, ?_, (hcalls.namesake _ hnamesake).right⟩
    rw [hcalls.reader.right]
    rfl
  . have hnote : (Derive.expand { name := ⟨"Note", false⟩, shape := .record [] }).map (fun _ => ())
        = .ok () := by
      decide +kernel
    rcases map_eq_ok_iff.mp hnote with ⟨item, hitem, -⟩
    rcases hexpand _ item hitem with
      ⟨fields, dfs, moduleName, proxy, attributes, visibility, name, is, hshape, hdfs, hproxy, rfl,
        hcalls⟩
    cases hshape
    cases hdfs
    cases hproxy
    refine ⟨attributes, visibility, name, is, hitem, ?_⟩
    rw [(hcalls.writer rfl).right]
    rfl
  . have hphp : (({} : Config).generate draft).map (fun _ => ()) = .ok () := by
      decide +kernel
    rcases map_eq_ok_iff.mp hphp with ⟨source, hsource, -⟩
    rcases hgenerate _ _ source rfl hsource with ⟨f, accessors, hf, hfunctions, hnames⟩
    exact ⟨source, f, accessors, hsource, hf, hfunctions, fun name hname => (hnames name hname).right⟩

/-- A function of the proxy's own may be called like the operation that sets the flag. -/
theorem set_initialized_hidden
    : ¬∀ (c : Config) (d : Descriptor) (proxy : ProxyClass) (visibility : Visibility)
        (is : List Item), c.model d = .ok proxy → Rust.items proxy visibility = .ok is →
        ¬Rust.HasOwn is "set_initialized" := by
  intro hfree
  rcases map_eq_ok_iff.mp model_draft with ⟨proxy, hproxy, hdraft⟩
  rw [Prod.mk.injEq, map_eq_ok_iff] at hdraft
  rcases hdraft with ⟨hnamesake, is, his, -⟩
  rcases Config.model_eq_ok hproxy with ⟨s, marker, hcollect, -, hbuild⟩
  subst hbuild
  have hcalls := Rust.callsFlag_of_build (Descriptor.isIdentifier_of_collectProperties hcollect) his
  exact hfree _ _ _ .everyone is hproxy his (hcalls.namesake _ hnamesake).left

end LazyProxy
