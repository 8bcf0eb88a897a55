import LazyProxy.Proofs.Target.Agreement
import LazyProxy.Proofs.Target.Header
import LazyProxy.Proofs.Target.Isolation
import LazyProxy.Proofs.Target.PhpMarker
import LazyProxy.Proofs.Target.RustMarker
import LazyProxy.Proofs.Target.RustPath

/-!
This module contains when a marker can be used: in the proxies that implement it, and in the file that
declares it. In PHP both ask for the same. In Rust the file depends on the last segment alone.
-/

namespace LazyProxy

open Code Text

/-- A type without properties, its own or inherited, with a name that is no reserved word. -/
structure Descriptor.IsBare (d : Descriptor) : Prop where
  collects : d.collectProperties = .ok ∅
  isKeyword : isRustKeyword d.name.shortName = false
  isUnrawable : isUnrawable d.name.shortName = false

namespace Config

/-- Whether no proxy of a type can be generated, but one could be with another marker. -/
def FailsByMarker (c : Config) (d : Descriptor) : Prop :=
  (∃ marker source, { c with marker }.generate d = .ok source)
    ∧
  ∀ source, c.generate d ≠ .ok source

/-- Whether proxies can implement the marker. -/
def MarkerFits (c : Config) : Prop :=
  ∃ m, QualifiedName.parse? c.effectiveMarker = some m
    ∧
  (∀ s ∈ m.segments, isIdentifier s)
    ∧
  (c.target = .rust → Rust.keywordIn? m.segments = none)

variable {c : Config} {d : Descriptor}

theorem names_eq_ok_iff {segment : String} {m : QualifiedName}
    : c.names = .ok (segment, m)
        ↔
      segment = c.effectiveSegment ∧ isIdentifier c.effectiveSegment
        ∧
      QualifiedName.parse? c.effectiveMarker = some m ∧ ∀ s ∈ m.segments, isIdentifier s := by
  constructor
  . intro h
    rcases names_eq_ok h with ⟨rfl, hsegment, hmarker, hall⟩
    exact ⟨rfl, hsegment, hmarker, hall⟩
  . rintro ⟨rfl, hsegment, hmarker, hall⟩
    have hall : m.segments.all isIdentifier = true := by simpa using hall
    simp [names, hsegment, hmarker, hall]

/-- The proxy of a type without properties. -/
def bareProxy (c : Config) (d : Descriptor) (m : QualifiedName) : ProxyClass :=
  .build d [] c.effectiveSegment c.withName m

theorem model_eq_ok_iff_of_isBare (hd : d.IsBare) {proxy : ProxyClass}
    : c.model d = .ok proxy
        ↔
      isIdentifier c.effectiveSegment
        ∧
      ∃ m, QualifiedName.parse? c.effectiveMarker = some m ∧ (∀ s ∈ m.segments, isIdentifier s)
        ∧ proxy = c.bareProxy d m := by
  constructor
  . intro h
    rcases model_eq_ok h with ⟨s, m, hcollect, hnames, rfl⟩
    rw [hd.collects, Except.ok.injEq] at hcollect
    subst hcollect
    rcases names_eq_ok_iff.mp hnames with ⟨-, hsegment, hmarker, hall⟩
    exact ⟨hsegment, m, hmarker, hall, rfl⟩
  . rintro ⟨hsegment, m, hmarker, hall, rfl⟩
    have hnames : c.names = .ok (c.effectiveSegment, m) :=
      names_eq_ok_iff.mpr ⟨rfl, hsegment, hmarker, hall⟩
    rw [model, hnames, hd.collects]
    rfl

theorem exists_php_of_isBare (m : QualifiedName)
    : ∃ code, Php.render (c.bareProxy d m) c = .ok code :=
  ⟨_, rfl⟩

theorem isIdentifier_of_collectProperties {s : PropertySet} (h : d.collectProperties = .ok s)
    : d.name.segments ≠ [] ∧ ∀ segment ∈ d.name.segments, isIdentifier segment := by
  have hown := Descriptor.wellNamed_of_collectProperties h d.own (by simp [Descriptor.levels])
  rw [Descriptor.name, QualifiedName.segments_eq hown.shortName]
  refine ⟨by simp, ?_⟩
  rw [List.forall_mem_append, List.forall_mem_singleton]
  exact ⟨hown.enclosing, hown.shortName⟩

theorem exists_rust_of_isBare (hd : d.IsBare) {m : QualifiedName}
    (hm : ∀ s ∈ m.segments, isIdentifier s) (hne : m.segments ≠ [])
    : (∃ code, Rust.render (c.bareProxy d m) c = .ok code)
        ↔
      Rust.keywordIn? d.name.segments = none ∧ Rust.keywordIn? m.segments = none := by
  rcases isIdentifier_of_collectProperties hd.collects with ⟨hbasene, hbase⟩
  constructor
  . rintro ⟨code, hcode⟩
    rw [Rust.render_eq_ok_iff] at hcode
    rcases hcode with ⟨is, read, his, -⟩
    rw [Rust.items_eq_ok_iff] at his
    rcases his with ⟨name, base, marker, os, -, hpath, hmarker, -⟩
    exact ⟨((Rust.path_eq_ok_iff hbasene hbase).mp hpath).left,
      ((Rust.path_eq_ok_iff hne hm).mp hmarker).left⟩
  . rintro ⟨hbasekeyword, hkeyword⟩
    have hname : Rust.identifier (c.bareProxy d m).name = .ok ⟨d.name.shortName, false⟩ := by
      rw [Rust.identifier, bareProxy, ProxyClass.build, hd.isUnrawable, if_neg (by decide),
        hd.isKeyword]
    have hpath := (Rust.path_eq_ok_iff hbasene hbase).mpr ⟨hbasekeyword, rfl⟩
    have hmarker := (Rust.path_eq_ok_iff hne hm).mpr ⟨hkeyword, rfl⟩
    have his : Rust.items (c.bareProxy d m) .everyone = .ok _ := Rust.items_eq_ok_iff.mpr
      ⟨_, _, _, [.marker Rust.flagReader, .marker Rust.flagWriter], hname, hpath, hmarker, rfl, rfl⟩
    have hread := Rust.readBack_items (c.bareProxy d m) (Rust.isName_of_identifier hname)
      (Rust.isNamed_of_path hbasene hbase hpath) (Rust.isNamed_of_path hne hm hmarker)
      (List.forall_mem_nil _)
    exact ⟨_, Rust.render_eq_ok_iff.mpr ⟨_, _, his, hread, rfl⟩⟩

/-- A type without properties has a proxy if its names and those of the marker can be written. -/
theorem exists_source_iff_of_isBare (hd : d.IsBare)
    : (∃ source, c.generate d = .ok source)
        ↔
      isIdentifier c.effectiveSegment ∧ c.MarkerFits
        ∧
      (c.target = .rust → Rust.keywordIn? d.name.segments = none) := by
  have hgenerate : (∃ source, c.generate d = .ok source)
      ↔ ∃ proxy, c.model d = .ok proxy ∧ ∃ code, c.target.render proxy c = .ok code := by
    constructor
    . rintro ⟨source, hsource⟩
      rcases generate_eq_ok hsource with ⟨proxy, hmodel, hcode, -⟩
      exact ⟨proxy, hmodel, _, hcode⟩
    . rintro ⟨proxy, hmodel, code, hcode⟩
      exact ⟨_, generate_of_render hmodel hcode⟩
  rw [hgenerate]
  simp only [model_eq_ok_iff_of_isBare hd, MarkerFits]
  constructor
  . rintro ⟨proxy, ⟨hsegment, m, hmarker, hall, rfl⟩, hcode⟩
    cases htarget : c.target with
    | php => exact ⟨hsegment, ⟨m, hmarker, hall, nofun⟩, nofun⟩
    | rust =>
      rw [htarget] at hcode
      have hkeywords := (exists_rust_of_isBare hd hall
        (QualifiedName.segments_ne_nil_of_parse? hmarker)).mp hcode
      exact ⟨hsegment, ⟨m, hmarker, hall, fun _ => hkeywords.right⟩, fun _ => hkeywords.left⟩
  . rintro ⟨hsegment, ⟨m, hmarker, hall, hkeyword⟩, hname⟩
    refine ⟨_, ⟨hsegment, m, hmarker, hall, rfl⟩, ?_⟩
    cases htarget : c.target with
    | php => exact exists_php_of_isBare m
    | rust =>
      exact (exists_rust_of_isBare hd hall (QualifiedName.segments_ne_nil_of_parse? hmarker)).mpr
        ⟨hname htarget, hkeyword htarget⟩

/-- A type that every configuration has a proxy for, up to the segment and the marker. -/
def article : Descriptor :=
  ⟨{ name := ⟨["crate", "Article"]⟩ }, []⟩

theorem isBare_article : article.IsBare := by
  exact ⟨by rfl, by decide, by decide⟩

theorem markerFits_default (c : Config) : { c with marker := none }.MarkerFits := by
  change ∃ m, QualifiedName.parse? c.target.defaultMarker = some m ∧ _ ∧ (c.target = .rust → _)
  cases c.target with
  | php => exact ⟨⟨["Docproxy", "Mapping", "Proxy", "ProxyInterface"]⟩, by decide,
      by decide, nofun⟩
  | rust => exact ⟨⟨["docproxy", "ProxyInterface"]⟩, by decide, by decide,
      fun _ => by decide⟩

theorem not_failsByMarker_iff (hsegment : isIdentifier c.effectiveSegment)
    : (∀ d : Descriptor, d.IsBare → ¬c.FailsByMarker d) ↔ c.MarkerFits := by
  constructor
  . intro hnone
    by_contra hfits
    apply hnone article isBare_article
    constructor
    . refine ⟨none, (exists_source_iff_of_isBare isBare_article).mpr ?_⟩
      exact ⟨hsegment, markerFits_default c, fun _ => by decide⟩
    . intro source hsource
      exact hfits ((exists_source_iff_of_isBare isBare_article).mp ⟨source, hsource⟩).right.left
  . rintro hfits d hd ⟨⟨marker, hother⟩, hnone⟩
    have hname := ((exists_source_iff_of_isBare hd).mp hother).right.right
    rcases (exists_source_iff_of_isBare hd).mpr ⟨hsegment, hfits, hname⟩ with ⟨source, hsource⟩
    exact hnone source hsource

theorem markerSource_php_iff (hphp : c.target = .php) {code : String}
    : c.markerSource = .ok code
        ↔
      ∃ m, QualifiedName.parse? c.effectiveMarker = some m ∧ (∀ s ∈ m.segments, isIdentifier s)
        ∧ code = outlineText c.indent (Php.markerSteps m c.banner) := by
  rw [markerSource, mapError_eq_ok_iff, hphp, Target.renderMarker, Php.renderMarker]
  split
  . next hmarker => simp [hmarker]
  . next m hmarker =>
    split
    . next hall =>
      rw [List.all_eq_true] at hall
      rw [Except.ok.injEq]
      constructor
      . rintro rfl
        exact ⟨m, hmarker, hall, rfl⟩
      . rintro ⟨m', hm', -, rfl⟩
        rw [hmarker, Option.some.injEq] at hm'
        rw [hm']
    . next hall =>
      rw [List.all_eq_true] at hall
      constructor
      . exact nofun
      . rintro ⟨m', hm', hall', -⟩
        rw [hmarker, Option.some.injEq] at hm'
        subst hm'
        exact absurd hall' hall

theorem markerSource_rust_iff (hrust : c.target = .rust) {code : String}
    : c.markerSource = .ok code
        ↔
      ∃ m name, QualifiedName.parse? c.effectiveMarker = some m
        ∧
      Ident.ofText? m.shortName = some name
        ∧
      code = Rust.header c.banner (Text.join "::" m.enclosing) ++ fileText [Rust.markerTrait name] := by
  rw [markerSource, mapError_eq_ok_iff, hrust, Target.renderMarker, Rust.renderMarker_eq_ok_iff]

/-- A marker that its file and the proxies take alike. In Rust, where the file takes any text in front
of the last segment, this is one of identifiers: with no keyword in front, and none of the words at the
end that a path may hold and that are no names. -/
def MarkerIsPlain (c : Config) : Prop :=
  c.target = .rust → ∀ m, QualifiedName.parse? c.effectiveMarker = some m →
    (∀ s ∈ m.segments, isIdentifier s) ∧ Rust.keywordIn? m.enclosing = none
      ∧
    m.shortName ∉ ["self", "Self", "super", "crate", "try"]

/-- Whether a file declares the marker and, but for comments, nothing else. -/
def DeclaresMarker (c : Config) (m : QualifiedName) (code : String) : Prop :=
  match c.target with
  | .php =>
    Php.lexemes (String.ofList (Php.withoutComments false code.toList)) = (Php.markerFile m).lexemes
  | .rust =>
    (tokens? code).bind readFile? = some [Rust.markerTrait (Rust.plain m.shortName)]
      ∧
    (m.enclosing ≠ [] → (cutLines code).takeWhile (·.startsWith "//")
      = Rust.headerLines c.banner (Text.join "::" m.enclosing))

/-- Whether a proxy implements the marker by its full name. -/
def ImplementsMarker (c : Config) (m : QualifiedName) (source : Source) : Prop :=
  match c.target with
  | .php => ∃ f, Php.readClass? source.code = some f ∧ f.marker = m.segments
  | .rust =>
    ∃ modulePath is read name, Rust.readBack is = .ok read
      ∧
    source.code = Rust.header c.banner modulePath ++ fileText read
      ∧
    read.getLast? = some (Rust.markerItem name
      (.ofNames (Rust.isRooted m.segments) (m.segments.map Rust.plain))
      [Rust.flagReader, Rust.flagWriter])

theorem implementsMarker_of_generate {m : QualifiedName} {source : Source}
    (hm : QualifiedName.parse? c.effectiveMarker = some m) (h : c.generate d = .ok source)
    : c.ImplementsMarker m source := by
  unfold ImplementsMarker
  cases htarget : c.target with
  | php =>
    rcases Php.exists_class_of_generate htarget h with ⟨proxy, f, hmodel, hf, -, hproxy⟩
    rcases model_eq_ok hmodel with ⟨s, marker, -, hnames, rfl⟩
    rcases names_eq_ok hnames with ⟨-, -, hmarker, -⟩
    rw [hm, Option.some.injEq] at hmarker
    subst hmarker
    have hsegments := congrArg (fun proxy => proxy.marker.segments) hproxy
    exact ⟨f, hf, hsegments⟩
  | rust =>
    rcases Rust.exists_items_of_generate htarget h with ⟨proxy, is, read, hmodel, his, hread, hcode⟩
    rcases model_eq_ok hmodel with ⟨s, marker, hcollect, hnames, rfl⟩
    rcases names_eq_ok hnames with ⟨-, -, hmarker, hall⟩
    rw [hm, Option.some.injEq] at hmarker
    subst hmarker
    rcases Rust.items_eq_ok_iff.mp his with ⟨name, base, path, os, hname, hbase, hpath, hos, rfl⟩
    have hmarkers := Rust.filterMap_marker?_operations hos
      (ProxyClass.filter_not_isAccessor_build ..)
    rcases isIdentifier_of_collectProperties hcollect with ⟨hbasene, hbasenames⟩
    have hne := QualifiedName.segments_ne_nil_of_parse? hm
    rw [hmarkers] at hread
    rcases Rust.exists_members_of_readBack (Rust.isName_of_identifier hname)
      (Rust.isNamed_of_path hbasene hbasenames hbase) (Rust.isNamed_of_path hne hall hpath) hread
      with ⟨members, rfl⟩
    refine ⟨_, _, _, name, hread, hcode, ?_⟩
    rw [((Rust.path_eq_ok_iff hne hall).mp hpath).right]
    rfl

/-- An identifier is read as itself, unless it is a reserved word. -/
theorem ofText?_of_isIdentifier {name : String} (h : isIdentifier name)
    : Ident.ofText? name
        =
      if (Rust.plain name).isName then some (Rust.plain name) else none := by
  have hwritten : ∀ i ∈ [Rust.plain name], i.IsWritten :=
    List.forall_mem_singleton.mpr (Ident.isWritten_of_isIdentifier h)
  have htokens : tokens? name = some [.ident (Rust.plain name)] :=
    tokens?_ofNames (List.cons_ne_nil _ _) hwritten false
  rw [Ident.ofText?, htokens]
  simp only [Option.bind_eq_bind, Option.bind_some, readName]
  split
  . rfl
  . rfl

theorem keywordIn?_append_singleton {segments : List String} {name : String}
    (hname : name ∉ ["self", "Self", "super", "crate", "try"])
    : Rust.keywordIn? (segments ++ [name]) = none
        ↔
      Rust.keywordIn? segments = none ∧ (Rust.plain name).isName := by
  rw [← Rust.all_isSegment_iff, ← Rust.all_isSegment_iff, List.map_append, List.all_append,
    Bool.and_eq_true, List.map_singleton, List.all_cons, List.all_nil, Bool.and_true,
    Rust.isSegment_plain]
  have hname : ["self", "Self", "super", "crate", "try"].contains name = false := by
    simpa using hname
  rw [hname, Bool.not_false, Bool.and_true]
  rfl

theorem markerSource_rust_iff_markerFits (hrust : c.target = .rust) (hplain : c.MarkerIsPlain)
    : (∃ code, c.markerSource = .ok code) ↔ c.MarkerFits := by
  simp only [markerSource_rust_iff hrust, MarkerFits]
  constructor
  . rintro ⟨code, m, name, hm, hname, -⟩
    rcases hplain hrust m hm with ⟨hall, hkeyword, hlast⟩
    have hshort : isIdentifier m.shortName := QualifiedName.isIdentifier_shortName hm hall
    rw [ofText?_of_isIdentifier hshort, Option.ite_none_right_eq_some] at hname
    refine ⟨m, hm, hall, fun _ => ?_⟩
    rw [QualifiedName.segments_eq hshort, keywordIn?_append_singleton hlast]
    exact ⟨hkeyword, hname.left⟩
  . rintro ⟨m, hm, hall, hkeyword⟩
    have hshort : isIdentifier m.shortName := QualifiedName.isIdentifier_shortName hm hall
    rcases hplain hrust m hm with ⟨-, -, hlast⟩
    have hkeyword := hkeyword hrust
    rw [QualifiedName.segments_eq hshort, keywordIn?_append_singleton hlast] at hkeyword
    exact ⟨_, m, Rust.plain m.shortName, hm, by rw [ofText?_of_isIdentifier hshort,
      if_pos hkeyword.right], rfl⟩

theorem markerSource_php_iff_markerFits (hphp : c.target = .php)
    : (∃ code, c.markerSource = .ok code) ↔ c.MarkerFits := by
  simp only [markerSource_php_iff hphp, MarkerFits, hphp]
  constructor
  . rintro ⟨code, m, hm, hall, -⟩
    exact ⟨m, hm, hall, nofun⟩
  . rintro ⟨m, hm, hall, -⟩
    exact ⟨_, m, hm, hall, rfl⟩

theorem declaresMarker_of_markerSource {m : QualifiedName} {code : String} (hplain : c.MarkerIsPlain)
    (hbanner : c.target = .php → Php.endsComment c.banner.toList = false)
    (hm : QualifiedName.parse? c.effectiveMarker = some m) (h : c.markerSource = .ok code)
    : c.DeclaresMarker m code := by
  unfold DeclaresMarker
  cases htarget : c.target with
  | php =>
    rcases (markerSource_php_iff htarget).mp h with ⟨m', hm', hall, rfl⟩
    rw [hm, Option.some.injEq] at hm'
    subst hm'
    exact Php.lexemes_markerSteps (fun s hs => Php.isWord_of_isIdentifier (hall s hs))
      (Php.isWord_of_isIdentifier (QualifiedName.isIdentifier_shortName hm hall)) (hbanner htarget) _
  | rust =>
    rcases (markerSource_rust_iff htarget).mp h with ⟨m', name, hm', hname, rfl⟩
    rw [hm, Option.some.injEq] at hm'
    subst hm'
    rcases hplain htarget m hm with ⟨hall, -, -⟩
    have hshort : isIdentifier m.shortName := QualifiedName.isIdentifier_shortName hm hall
    have henclosing : ∀ s ∈ m.enclosing, isIdentifier s :=
      fun s hs => hall s (List.dropLast_subset _ hs)
    have hwritten := isWritten_of_ofText? hname
    have hnewline : '\n' ∉ (Text.join "::" m.enclosing).toList := by
      intro hmem
      rcases Text.mem_of_mem_join hmem with hmem | ⟨s, hs, hmem⟩
      . exact absurd hmem (by decide)
      . exact not_mem_of_isIdentifier (henclosing s hs) rfl hmem
    constructor
    . rw [Rust.tokens?_markerFile c.banner hnewline hwritten.left, Option.bind_some,
        Rust.readFile?_markerTrait hwritten.right]
      rw [ofText?_of_isIdentifier hshort, Option.ite_none_right_eq_some] at hname
      rw [Option.some.inj hname.right]
    . intro hne
      exact Rust.takeWhile_cutLines_header c.banner (Target.rust.join_ne_empty henclosing hne)
        hnewline _

/-- A marker has a file if no proxy of a type without properties fails because of it, and only then.
The file declares what the proxies implement. -/
theorem markerSource_agrees (c : Config) (hsegment : isIdentifier c.effectiveSegment)
    (hplain : c.MarkerIsPlain)
    : ((∃ code, c.markerSource = .ok code) ↔ ∀ d : Descriptor, d.IsBare → ¬c.FailsByMarker d)
        ∧
      ((c.target = .php → Php.endsComment c.banner.toList = false) →
        ∀ code, c.markerSource = .ok code →
          ∃ m, c.DeclaresMarker m code
            ∧ ∀ (d : Descriptor) (source : Source), c.generate d = .ok source →
                c.ImplementsMarker m source) := by
  have hfits : (∃ code, c.markerSource = .ok code) ↔ c.MarkerFits := by
    cases htarget : c.target with
    | php => exact markerSource_php_iff_markerFits htarget
    | rust => exact markerSource_rust_iff_markerFits htarget hplain
  refine ⟨hfits.trans (not_failsByMarker_iff hsegment).symm, ?_⟩
  intro hbanner code hcode
  rcases hfits.mp ⟨code, hcode⟩ with ⟨m, hm, -⟩
  exact ⟨m, declaresMarker_of_markerSource hplain hbanner hm hcode,
    fun d source h => implementsMarker_of_generate hm h⟩

/-- A marker of two identifiers. -/
def plainMarker : Config :=
  { target := .rust, marker := some "app::Lazy" }

theorem parse?_plainMarker
    : QualifiedName.parse? plainMarker.effectiveMarker = some ⟨["app", "Lazy"]⟩ := by
  decide

theorem markerIsPlain_plainMarker : plainMarker.MarkerIsPlain := by
  intro _ m hm
  rw [parse?_plainMarker, Option.some.injEq] at hm
  subst hm
  decide

theorem markerSource_agrees_plainMarker
    : isIdentifier plainMarker.effectiveSegment ∧ plainMarker.MarkerIsPlain
        ∧
      (∃ code, plainMarker.markerSource = .ok code)
        ∧
      ∀ d : Descriptor, d.IsBare → ¬plainMarker.FailsByMarker d := by
  have hsegment : isIdentifier plainMarker.effectiveSegment := by decide
  have hname : Ident.ofText? "Lazy" = some (Rust.plain "Lazy") :=
    (ofText?_of_isIdentifier (by decide)).trans (by decide)
  have hcode : ∃ code, plainMarker.markerSource = .ok code :=
    ⟨_, (markerSource_rust_iff rfl).mpr ⟨_, _, parse?_plainMarker, hname, rfl⟩⟩
  exact ⟨hsegment, markerIsPlain_plainMarker, hcode,
    (markerSource_agrees plainMarker hsegment markerIsPlain_plainMarker).left.mp hcode⟩

/-- A marker whose first segment is no identifier. -/
def blankMarker : Config :=
  { target := .rust, marker := some "a b::Lazy" }

/-- The file of a marker in Rust is written although no proxy can implement it. -/
theorem markerSource_blankMarker
    : isIdentifier blankMarker.effectiveSegment ∧ (∃ code, blankMarker.markerSource = .ok code)
        ∧
      article.IsBare ∧ blankMarker.FailsByMarker article := by
  have hsegment : isIdentifier blankMarker.effectiveSegment := by decide
  have hm : QualifiedName.parse? blankMarker.effectiveMarker = some ⟨["a b", "Lazy"]⟩ := by
    decide
  have hname : Ident.ofText? "Lazy" = some (Rust.plain "Lazy") :=
    (ofText?_of_isIdentifier (by decide)).trans (by decide)
  refine ⟨hsegment, ⟨_, (markerSource_rust_iff rfl).mpr ⟨_, _, hm, hname, rfl⟩⟩, isBare_article, ?_⟩
  constructor
  . refine ⟨none, (exists_source_iff_of_isBare isBare_article).mpr ?_⟩
    exact ⟨hsegment, markerFits_default blankMarker, fun _ => by decide⟩
  . intro source hsource
    have hfits := ((exists_source_iff_of_isBare isBare_article).mp ⟨source, hsource⟩).right.left
    rcases hfits with ⟨m, hm', hall, -⟩
    rw [hm, Option.some.injEq] at hm'
    subst hm'
    exact absurd (hall "a b" (by decide)) (by decide)

end Config

end LazyProxy
