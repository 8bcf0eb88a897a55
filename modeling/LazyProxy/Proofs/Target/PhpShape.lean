import LazyProxy.Proofs.Naming.QualifiedName
import LazyProxy.Proofs.Proxy.Members
import LazyProxy.Proofs.Target.Paths
import LazyProxy.Proofs.Target.PhpReading

/-!
This module contains that a type's proxy in PHP has lost nothing of its shape once it is text. All that
the text does not tell are the types of the properties.
-/

namespace LazyProxy.Php

variable {c : Config} {d : Descriptor} {proxy : ProxyClass}

theorem isWord_nameFor (k : AccessorKind) {property : String} (h : isIdentifier property)
    : IsWord (k.nameFor property) where
  ne_empty := by
    rw [AccessorKind.nameFor_eq]
    cases k with
    | getter => simp [AccessorKind.verb]
    | setter => simp [AccessorKind.verb]
  isIdentifierPart := by
    intro c hc
    simp [isIdentifierPart, k.isAlphanum_of_mem_nameFor h c hc]

theorem isWord_of_mem_memberNames {m : Member} {name : String} (h : c.model d = .ok proxy)
    (hm : m ∈ proxy.members) (hname : name ∈ memberNames m)
    : IsWord name := by
  cases Config.exists_member_of_model h hm with
  | inl hm =>
    simp only [List.mem_cons, List.not_mem_nil, or_false] at hm
    rcases hm with rfl | rfl | rfl
    . contradiction
    . contradiction
    . contradiction
  | inr hm =>
    rcases hm with ⟨p, hp, k, rfl⟩
    have hnames : memberNames (k.member (k.nameFor p.name) p) = [k.nameFor p.name, p.name] := by
      cases k with
      | getter => rfl
      | setter => rfl
    rw [hnames, List.mem_cons, List.mem_singleton] at hname
    rcases hname with rfl | rfl
    . exact isWord_nameFor k hp
    . exact isWord_of_isIdentifier hp

theorem readable_of_model (h : c.model d = .ok proxy) : Readable proxy := by
  have hwell := (Config.wellNamed_of_model h).left
  have hmembers : ∀ m ∈ proxy.members, ∀ name ∈ memberNames m, IsWord name :=
    fun m hm name hname => isWord_of_mem_memberNames h hm hname
  rcases Config.model_eq_ok h with ⟨s, marker, hcollect, hnames, rfl⟩
  rcases Config.names_eq_ok hnames with ⟨-, hsegment, hmarker, hmarkerSegments⟩
  have hown := Descriptor.wellNamed_of_collectProperties hcollect d.own
    (by simp [Descriptor.levels])
  have hbase : d.name.segments = d.name.enclosing ++ [d.name.shortName] :=
    QualifiedName.segments_eq hown.shortName
  constructor
  . exact fun s hs => isWord_of_isIdentifier (hwell.namespaceSegments s hs)
  . simp [ProxyClass.build, Descriptor.proxyNamespace]
  . exact isWord_of_isIdentifier hwell.name
  . intro s hs
    simp only [ProxyClass.build, hbase, List.mem_append, List.mem_singleton] at hs
    rcases hs with hs | rfl
    . exact isWord_of_isIdentifier (hown.enclosing s hs)
    . exact isWord_of_isIdentifier hown.shortName
  . simp [ProxyClass.build, hbase]
  . exact fun s hs => isWord_of_isIdentifier (hmarkerSegments s hs)
  . exact QualifiedName.segments_ne_nil_of_parse? hmarker
  . exact hmembers

/-- The names of accessors have no underscores. -/
theorem nameFor_ne (k : AccessorKind) {property name : String} (h : isIdentifier property)
    (hname : '_' ∈ name.toList)
    : k.nameFor property ≠ name := by
  rintro rfl
  exact absurd (k.isAlphanum_of_mem_nameFor h _ hname) (by decide)

theorem member_memberDeclaration {m : Member} (h : c.model d = .ok proxy) (hm : m ∈ proxy.members)
    : (memberDeclaration m).member = m.withoutType := by
  cases Config.exists_member_of_model h hm with
  | inl hm =>
    simp only [List.mem_cons, List.not_mem_nil, or_false] at hm
    rcases hm with rfl | rfl | rfl
    . rfl
    . rfl
    . rfl
  | inr hm =>
    rcases hm with ⟨p, hp, k, rfl⟩
    cases k with
    | getter =>
      rw [AccessorKind.member, memberDeclaration, Declaration.member]
      rw [if_neg (nameFor_ne .getter hp (by decide))]
      rfl
    | setter =>
      rw [AccessorKind.member, memberDeclaration, Declaration.member]
      rw [if_neg (nameFor_ne .setter hp (by decide))]
      rfl

theorem proxy_eq_withoutTypes {f : ClassFile} (h : c.model d = .ok proxy)
    (hf : f =
      { namespaceSegments := proxy.namespaceSegments
        name := proxy.name
        base := proxy.base.segments
        marker := proxy.marker.segments
        declarations := proxy.members.map memberDeclaration })
    : f.proxy = proxy.withoutTypes := by
  subst hf
  have hmembers : (proxy.members.map memberDeclaration).map Declaration.member
      = proxy.members.map Member.withoutType := by
    rw [List.map_map]
    exact List.map_congr_left fun m hm => member_memberDeclaration h hm
  rw [ClassFile.proxy, ProxyClass.withoutTypes, hmembers]

theorem function?_memberDeclaration {m : Member} (h : m.isAccessor)
    : (memberDeclaration m).function? = m.method? := by
  cases m with
  | getter name p => rfl
  | setter name p => rfl
  | _ => contradiction

theorem functions_build (d : Descriptor) (plans : List AccessorPlan) (segment : String)
    (withName : Bool) (marker : QualifiedName)
    : ((ProxyClass.build d plans segment withName marker).members.map memberDeclaration).filterMap
        Declaration.function?
        =
      "__isInitialized" :: "__setInitialized" :: generatedNames plans := by
  have haccessors : (plans.flatMap AccessorPlan.members).filterMap
        (Declaration.function? ∘ memberDeclaration)
      = generatedNames plans :=
    List.filterMap_congr fun m hm => function?_memberDeclaration (isAccessor_of_mem_members hm)
  rw [ProxyClass.build, List.filterMap_map, List.filterMap_append, haccessors]
  rfl

theorem filter_accessorDeclarations {s : PropertySet} (hs : d.collectProperties = .ok s)
    {function? : Option String} (h : ∀ name, function? = some name → '_' ∈ name.toList)
    : (((d.plan s).flatMap AccessorPlan.members).map memberDeclaration).filter
        (·.function? == function?) = [] := by
  rw [List.filter_eq_nil_iff]
  intro declaration hdeclaration
  rcases List.mem_map.mp hdeclaration with ⟨m, hm, rfl⟩
  rcases Descriptor.exists_member_of_mem_members hm with ⟨p, hp, k, hk⟩
  have hp := Descriptor.isIdentifier_of_collectProperties hs p hp
  have hname : (memberDeclaration m).function? = some (k.nameFor p.name) := by
    rw [hk]
    cases k with
    | getter => rfl
    | setter => rfl
  rw [beq_iff_eq, hname]
  rintro rfl
  exact nameFor_ne k hp (h _ rfl) rfl

theorem keepsFlag_of_model (h : c.model d = .ok proxy) {f : ClassFile}
    (hf : f.declarations = proxy.members.map memberDeclaration)
    : f.KeepsFlag := by
  rcases Config.model_eq_ok h with ⟨s, marker, hcollect, -, rfl⟩
  rw [ProxyClass.build, List.map_append] at hf
  constructor
  . rw [hf, List.filter_append, filter_accessorDeclarations hcollect (by simp)]
    rfl
  . rw [hf, List.filter_append, filter_accessorDeclarations hcollect (by simp)]
    rfl
  . rw [hf, List.filter_append, filter_accessorDeclarations hcollect (by simp)]
    rfl

/-- What is read from the text of a type's proxy. -/
theorem exists_class_of_generate (hphp : c.target = .php) {source : Source}
    (h : c.generate d = .ok source)
    : ∃ proxy f, c.model d = .ok proxy
        ∧
      readClass? source.code = some f
        ∧
      f.declarations = proxy.members.map memberDeclaration
        ∧
      f.proxy = proxy.withoutTypes := by
  rcases Config.generate_eq_ok h with ⟨proxy, hmodel, hrender, -⟩
  rw [hphp] at hrender
  exact ⟨proxy, _, hmodel, readClass?_render (readable_of_model hmodel) hrender, rfl,
    proxy_eq_withoutTypes hmodel rfl⟩

/-- All of a proxy but the types of its properties can be read from its text. The functions in it
are those of the flag and one for each accessor that the plan generates. Hence two types whose text
is the same have one name, and their proxies have the same accessors. -/
theorem readClass?_generate (c : Config) (hphp : c.target = .php) (d : Descriptor) (source : Source)
    (h : c.generate d = .ok source)
    : ∃ (s : PropertySet) (proxy : ProxyClass) (f : ClassFile),
      d.collectProperties = .ok s ∧ c.model d = .ok proxy ∧ readClass? source.code = some f
        ∧
      f.proxy = proxy.withoutTypes
        ∧
      f.declarations.filterMap Declaration.function?
        = "__isInitialized" :: "__setInitialized" :: generatedNames (d.plan s)
        ∧
      ∀ (e : Descriptor) (other : Source), c.generate e = .ok other → other.code = source.code →
        e.name = d.name ∧ ∃ proxy', c.model e = .ok proxy'
          ∧ proxy'.withoutTypes.accessors = proxy.withoutTypes.accessors := by
  rcases exists_class_of_generate hphp h with ⟨proxy, f, hmodel, hf, hdeclarations, hproxy⟩
  rcases Config.model_eq_ok hmodel with ⟨s, marker, hcollect, -, hbuild⟩
  refine ⟨s, proxy, f, hcollect, hmodel, hf, hproxy, ?_, ?_⟩
  . rw [hdeclarations, hbuild]
    exact functions_build ..
  . intro e other he hcode
    rcases exists_class_of_generate hphp he with ⟨proxy', f', hmodel', hf', -, hproxy'⟩
    -- Both proxies are what is read from one text.
    rw [hcode, hf, Option.some.injEq] at hf'
    have hsame : proxy'.withoutTypes = proxy.withoutTypes := by
      rw [← hproxy', ← hf', hproxy]
    refine ⟨?_, proxy', hmodel', by rw [hsame]⟩
    rcases Config.model_eq_ok hmodel' with ⟨_, _, -, -, hbuild'⟩
    have hbase := congrArg ProxyClass.base hsame
    rwa [hbuild, hbuild'] at hbase

/-- A type that has one of its accessors already. -/
def article : Descriptor :=
  ⟨{ name := ⟨["App", "Article"]⟩, properties := [⟨"title", none⟩], methods := ["getTitle"] }, []⟩

theorem generate_article
    : (({ indent := 2, banner := "" } : Config).generate article).map Source.code
        =
      .ok (String.join (["<?php", "", "namespace App\\_Proxy;", "",
        "class Article extends \\App\\Article implements \\Docproxy\\Mapping\\Proxy\\ProxyInterface",
        "\x7b",
        "  private $__isInitialized = false;",
        "",
        "  public function __isInitialized()",
        "  \x7b",
        "    return $this->__isInitialized;",
        "  \x7d",
        "",
        "  public function __setInitialized($initialized)",
        "  \x7b",
        "    $this->__isInitialized = $initialized;",
        "  \x7d",
        "",
        "  public function setTitle($title)",
        "  \x7b",
        "    $this->title = $title;",
        "  \x7d",
        "\x7d"].map (· ++ "\n"))) := by
  decide +kernel

theorem readClass?_generate_article
    : ∃ source f, ({ indent := 2, banner := "" } : Config).generate article = .ok source
        ∧
      readClass? source.code = some f
        ∧
      f.declarations.filterMap Declaration.function?
        = ["__isInitialized", "__setInitialized", "setTitle"] := by
  rcases map_eq_ok_iff.mp generate_article with ⟨source, hsource, -⟩
  rcases readClass?_generate _ rfl article source hsource with
    ⟨s, proxy, f, hs, -, hf, -, hfunctions, -⟩
  have hnames : article.collectProperties.map (fun s => generatedNames (article.plan s))
      = .ok ["setTitle"] := by decide
  have hnames : generatedNames (article.plan s) = ["setTitle"] := by
    rw [hs] at hnames
    exact Except.ok.inj hnames
  rw [hnames] at hfunctions
  exact ⟨source, f, hsource, hf, hfunctions⟩

end LazyProxy.Php
