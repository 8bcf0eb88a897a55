import LazyProxy.Proofs.Target.Marker
import LazyProxy.Proofs.Target.MethodNames

/-!
This module contains what is read of the items of a proxy in Rust, whatever the types of its properties
are: six items, as they are written but for the accessors. The accessors are read as they are written as
well if their types are simple. The type of a getter is a reference, which may not lead to a sum.
-/

namespace LazyProxy

open Code

/-- Whether the type that an accessor is written with is simple where it stands. -/
def Member.hasSimpleType (c : ProxyClass) : Member → Bool
  | getter _ p => (Rust.propertyType c p).toOption.all (Ty.isSimple false)
  | setter _ p => (Rust.propertyType c p).toOption.all (Ty.isSimple true)
  | _ => true

namespace Rust

/-- The items of a proxy with what is in its own block besides the functions that wrap and unwrap. -/
def proxyItems (c : ProxyClass) (name : Ident) (base marker : Path) (members : List ImplMember)
    : List Item :=
  [structItem c .everyone name base,
    .impl [allowAttribute "dead_code"] none (named name)
      ([.function (wrapFunction base), .function (unwrapFunction base)] ++ members),
    conversionItem name base, derefItem name base, derefMutItem name,
    markerItem name marker [flagReader, flagWriter]]

variable {c : ProxyClass}

/-- An accessor is read back if its names are names and its type is simple. -/
theorem WritesAccessor.isReadable {m : Member} {f : Function} (h : WritesAccessor c m f)
    (hname : ∀ name, m.method? = some name → (plain (snakeCase name)).isName)
    (htype : m.hasSimpleType c)
    : f.IsReadable ∧ f.body.isSome := by
  cases h with
  | getter method hfield hpropertyType =>
    rw [Member.hasSimpleType, hpropertyType] at htype
    exact ⟨isReadable_getterFunction (hname method rfl) (isName_of_identifier hfield)
      (Ty.readsBack_of_isSimple (by rwa [Ty.isSimple])), rfl⟩
  | setter method hfield hpropertyType =>
    rw [Member.hasSimpleType, hpropertyType] at htype
    exact ⟨isReadable_setterFunction (hname method rfl) (isName_of_identifier hfield)
      (Ty.readsBack_of_isSimple htype), rfl⟩

theorem isName_plain_snakeCase {d : Descriptor} {s : PropertySet}
    (hs : ∀ p ∈ s.properties, isIdentifier p.name) {name : String}
    (h : name ∈ generatedNames (d.plan s))
    : (plain (snakeCase name)).isName := by
  have htaken := snakeCase_generatedNames_not_mem_takenNames hs h
  have hreserved : ∀ word ∈ reservedWords, word ∈ takenNames := by
    decide
  rw [Ident.isName, plain, Bool.false_or, Bool.not_eq_true', Bool.eq_false_iff, Ne,
    List.contains_iff_mem]
  exact mt (hreserved _) htaken

theorem eq_unreadable_of_readBack {is : List Item} {e : EmissionError} (h : readBack is = .error e)
    : e = .unreadable := by
  unfold readBack at h
  split at h
  . contradiction
  . exact (Except.error.inj h).symm

theorem render_eq_error_iff {config : Config} {is : List Item} (his : items c .everyone = .ok is)
    {e : EmissionError}
    : render c config = .error e ↔ readBack is = .error .unreadable ∧ e = .unreadable := by
  have hitems : (items c .everyone).mapError EmissionError.rust = .ok is :=
    mapError_eq_ok_iff.mpr his
  rw [render, hitems, bind_eq_error_iff]
  simp only [reduceCtorEq, false_or, Except.ok.injEq, exists_eq_left', bind_eq_error_iff, and_false,
    exists_const, or_false]
  constructor
  . intro h
    have he := eq_unreadable_of_readBack h
    subst he
    exact ⟨h, rfl⟩
  . rintro ⟨h, rfl⟩
    exact h

end Rust

namespace Config

open Rust (proxyItems readBack)

/-- What is read of the items of a proxy is six items, as they are written but for the accessors. If
the types of the accessors are simple where they stand, the accessors are read as they are written as
well. Once there are items, generating code fails only if they are not read. -/
theorem proxy_items_read (c : Config) (d : Descriptor) (proxy : ProxyClass) (is : List Item)
    (hrust : c.target = .rust) (hmodel : c.model d = .ok proxy)
    (his : Rust.items proxy .everyone = .ok is)
    : ∃ (name : Ident) (base marker : Path) (accessors : List Function),
      is = proxyItems proxy name base marker (accessors.map .function)
        ∧
      (∀ read, readBack is = .ok read → ∃ members, read = proxyItems proxy name base marker members)
        ∧
      ((∀ m ∈ proxy.members, m.hasSimpleType proxy) → readBack is = .ok is)
        ∧
      ∀ e, c.generate d = .error e ↔ readBack is = .error .unreadable ∧ e = .emission .unreadable := by
  rcases model_eq_ok hmodel with ⟨s, marker, hcollect, hnames, hproxy⟩
  rcases names_eq_ok hnames with ⟨-, -, hparse, hsegments⟩
  rcases isIdentifier_of_collectProperties hcollect with ⟨hbasene, hbasenames⟩
  have hs := Descriptor.isIdentifier_of_collectProperties hcollect
  rcases Rust.items_eq_ok_iff.mp his with ⟨name, base, path, os, hname, hbase, hpath, hos, hitems⟩
  have hmarkers := Rust.filterMap_marker?_operations hos
    (by rw [hproxy]; exact ProxyClass.filter_not_isAccessor_build ..)
  rw [hmarkers] at hitems
  have hgenerated : proxy.members.filterMap Member.method? = generatedNames (d.plan s) := by
    rw [hproxy, ProxyClass.filterMap_method?_build]
  have hbaseNamed : base.IsNamed := by
    rw [hproxy] at hbase
    exact Rust.isNamed_of_path hbasene hbasenames hbase
  have hmarkerNamed : path.IsNamed := by
    rw [hproxy] at hpath
    exact Rust.isNamed_of_path (QualifiedName.segments_ne_nil_of_parse? hparse) hsegments hpath
  have hisName := Rust.isName_of_identifier hname
  refine ⟨name, base, path, os.filterMap Rust.Operation.accessor?, hitems, ?_, ?_, ?_⟩
  . intro read hread
    rw [hitems] at hread
    exact Rust.exists_members_of_readBack hisName hbaseNamed hmarkerNamed hread
  . intro hsimple
    rw [hitems]
    apply Rust.readBack_items proxy hisName hbaseNamed hmarkerNamed
    intro f hf
    rcases Rust.exists_writesAccessor hos hf with ⟨m, hm, hwrites⟩
    refine hwrites.isReadable (fun method hmethod => ?_) (hsimple m hm)
    apply Rust.isName_plain_snakeCase hs
    rw [← hgenerated]
    exact List.mem_filterMap.mpr ⟨m, hm, hmethod⟩
  . intro e
    have hrender : c.target.render proxy c = Rust.render proxy c := by
      rw [hrust]
      rfl
    rw [generate, hmodel, bind_eq_error_iff]
    simp only [reduceCtorEq, false_or, Except.ok.injEq, exists_eq_left', bind_eq_error_iff, and_false,
      exists_const, or_false, hrender, mapError_eq_error_iff, Rust.render_eq_error_iff his]
    constructor
    . rintro ⟨e', ⟨hunreadable, rfl⟩, rfl⟩
      exact ⟨hunreadable, rfl⟩
    . rintro ⟨hunreadable, rfl⟩
      exact ⟨_, ⟨hunreadable, rfl⟩, rfl⟩

/-- A type whose properties have types of several kinds. Those that hold a sum have it as an argument or
in parentheses. -/
def library : Descriptor :=
  ⟨{ name := ⟨["crate", "Library"]⟩
     properties :=
      [⟨"title", some "&'static str"⟩, ⟨"shelves", some "Vec<(String, [u8; 4])>"⟩,
        ⟨"source", some "Option<Box<dyn Read + Send>>"⟩, ⟨"sink", some "(dyn Write + Send)"⟩] }, []⟩

theorem model_library
    : (({ target := .rust } : Config).model library).map (fun proxy =>
          (proxy.members.all (·.hasSimpleType proxy), (Rust.items proxy .everyone).map fun _ => ()))
        =
      .ok (true, .ok ()) := by
  decide +kernel

theorem proxy_items_read_library
    : ∃ proxy is, ({ target := .rust } : Config).model library = .ok proxy
        ∧
      Rust.items proxy .everyone = .ok is ∧ (∀ m ∈ proxy.members, m.hasSimpleType proxy)
        ∧
      readBack is = .ok is ∧ ∃ source, ({ target := .rust } : Config).generate library = .ok source := by
  rcases map_eq_ok_iff.mp model_library with ⟨proxy, hmodel, hlibrary⟩
  rw [Prod.mk.injEq, map_eq_ok_iff, List.all_eq_true] at hlibrary
  rcases hlibrary with ⟨hsimple, is, his, -⟩
  rcases proxy_items_read _ _ proxy is rfl hmodel his with ⟨_, _, _, _, -, -, hread, herror⟩
  refine ⟨proxy, is, hmodel, his, hsimple, hread hsimple, ?_⟩
  cases hsource : ({ target := .rust } : Config).generate library with
  | ok source => exact ⟨source, rfl⟩
  | error e =>
    have hunreadable := ((herror e).mp hsource).left
    rw [hread hsimple] at hunreadable
    contradiction

/-- A type with a getter for a property whose type is a sum. -/
def sumArticle : Descriptor :=
  ⟨{ name := ⟨["crate", "Article"]⟩, properties := [⟨"body", some "dyn Read + Send"⟩]
     methods := ["setBody"] }, []⟩

theorem model_sumArticle
    : (({ target := .rust } : Config).model sumArticle).map (fun proxy =>
          (Rust.items proxy .everyone).map fun is => (readBack is).map fun _ => ())
        =
      .ok (.ok (.error .unreadable)) := by
  decide +kernel

/-- Items may be written that are not read, since the type of a getter refers to a sum. -/
theorem sum_not_read
    : ¬∀ (c : Config) (d : Descriptor) (proxy : ProxyClass) (is : List Item), c.target = .rust →
        c.model d = .ok proxy → Rust.items proxy .everyone = .ok is →
        (∃ read, readBack is = .ok read ∧ read.length = 6)
          ∧ c.generate d ≠ .error (.emission .unreadable) := by
  intro hreads
  rcases map_eq_ok_iff.mp model_sumArticle with ⟨proxy, hmodel, hsum⟩
  rcases map_eq_ok_iff.mp hsum with ⟨is, his, hunreadable⟩
  rw [map_eq_error_iff] at hunreadable
  rcases (hreads _ _ proxy is rfl hmodel his).left with ⟨read, hread, -⟩
  rw [hread] at hunreadable
  contradiction

end Config

end LazyProxy
