import LazyProxy.Proofs.Code.Reroot
import LazyProxy.Proofs.Code.Rewriting
import LazyProxy.Proofs.Code.TokenText
import LazyProxy.Proofs.Derive.Accessors

/-!
This module contains which paths in the accessors of a derived proxy name the proxy instead of the
structure. The proxy has the name of the structure, and hides it in the module that both stand in. Paths
are rewritten for use in that module, but for those that name the structure.
-/

namespace LazyProxy

open Code

namespace Code

namespace PathUse

/-- Whether a path names a type of the name where that type is defined: by its name, or as `Self`. -/
def Names (name : String) : PathUse → Prop
  | ⟨_, .mk false (.mk i _ :: _)⟩ => i = ⟨"Self", false⟩ ∨ i.name = name
  | _ => False

instance (name : String) : DecidablePred (Names name)
  | ⟨_, .mk false (.mk i _ :: _)⟩ => inferInstanceAs (Decidable (i = ⟨"Self", false⟩ ∨ i.name = name))
  | ⟨_, .mk true _⟩ => isFalse id
  | ⟨_, .mk false []⟩ => isFalse id

theorem keepsArgs_insideKeepingPosition : KeepsArgs insideKeepingPosition where
  position p := rfl
  argUses u := by
    rcases u with ⟨position, rooted, segments⟩
    cases rooted with
    | true => rfl
    | false => cases segments with
      | nil => rfl
      | cons s rest =>
        rcases s with ⟨i, args⟩
        simp only [insideKeepingPosition, Path.inside_cons]
        split
        . rfl
        . split
          . rfl
          . rfl

/-- For use one module deeper, a path does not come to name the type, nor does it cease to. -/
theorem names_rewrite_inside_iff {name : String} (hname : name ≠ "self" ∧ name ≠ "super")
    (u : PathUse)
    : (rewrite insideKeepingPosition u).Names name ↔ u.Names name := by
  rcases u with ⟨position, rooted, segments⟩
  cases rooted with
  | true => rfl
  | false => cases segments with
    | nil => rfl
    | cons s rest =>
      rcases s with ⟨i, args⟩
      rw [rewrite, insideKeepingPosition, Path.mapArgs, Segment.mapPathsList, Path.inside_cons]
      split
      . next hself =>
        subst hself
        simp [Names, hname.left.symm, hname.right.symm]
      . split
        . next hsuper =>
          subst hsuper
          simp [Names]
        . rfl

end PathUse

/-- A type for use one module deeper names the type there if and only if it does so here. -/
theorem Ty.exists_names_reroot_iff {name : String} (hname : name ≠ "self" ∧ name ≠ "super") (t : Ty)
    : (∃ u ∈ t.reroot.pathUses, u.Names name) ↔ ∃ u ∈ t.pathUses, u.Names name := by
  rw [t.reroot_eq_mapPaths, Ty.pathUses_mapPaths PathUse.keepsArgs_insideKeepingPosition]
  simp only [List.mem_map, exists_exists_and_eq_and]
  exact exists_congr fun u => and_congr_right fun _ => PathUse.names_rewrite_inside_iff hname u

end Code

namespace Derive

open WrittenField

theorem exists_property_of_mem_members {name : Ident} {dfs : List DocumentField}
    {ws : List WrittenField} {s : PropertySet} {segment : String} {marker : QualifiedName}
    (hcollect : (descriptor name dfs).collectProperties = .ok s)
    (hproperties : dfs.map (·.property) = ws.map fun w => propertyOf w.definition) {m : Member}
    {p : Property} (hm : m ∈ (ProxyClass.build (descriptor name dfs)
      ((descriptor name dfs).plan s) segment false marker).members)
    (hp : Rust.property? m = some p)
    : ∃ w ∈ ws, p = propertyOf w.definition := by
  have hmember : ∃ q ∈ s.properties, ∃ k : AccessorKind, m = k.member (k.nameFor q.name) q := by
    rw [ProxyClass.build, List.mem_append] at hm
    cases hm with
    | inl hm =>
      have hnone : ∀ m ∈ [Member.flag, .isInitialized, .setInitialized], Rust.property? m = none := by
        decide
      rw [hnone m hm] at hp
      contradiction
    | inr hm => exact Descriptor.exists_member_of_mem_members hm
  rcases hmember with ⟨q, hq, k, rfl⟩
  have hsame : p = q := by
    cases k with
    | getter => exact (Option.some.inj hp).symm
    | setter => exact (Option.some.inj hp).symm
  rw [(collectProperties_descriptor hcollect).left, hproperties] at hq
  rcases PropertySet.mem_foldl_insert hq with hnone | hq
  . contradiction
  . rcases List.mem_map.mp hq with ⟨w, hw, hwq⟩
    exact ⟨w, hw, by rw [hsame, hwq]⟩

theorem ne_of_identifier {name : String} {i : Ident} (h : Rust.identifier name = .ok i)
    : name ≠ "self" ∧ name ≠ "super" := by
  constructor
  . rintro rfl
    contradiction
  . rintro rfl
    contradiction

/-- The type of an accessor is read from the text of a field's type, rewritten for the module that the
proxy stands in. If that is simple and legible, the accessor has this type. A path in it names the proxy,
if and only if one in the field's type names the structure. -/
theorem accessor_types_of_expand (d : Definition) (item : Item) (h : expand d = .ok item)
    : ∃ (fields : List FieldDef) (settings : List (List FieldSetting))
        (attributes : List Attribute) (visibility : Visibility) (name : Ident) (is : List Item)
        (wrap unwrap : Function) (accessors : List Function),
      d.shape = .record fields
        ∧
      fields.map (fun f => writtenSettings f.attributes) = settings.map .ok
        ∧
      item = .module attributes visibility name is
        ∧
      Rust.inherentFunctions is = wrap :: unwrap :: accessors
        ∧
      ∀ f ∈ accessors, ∃ w ∈ properties fields settings, ∃ t, Rust.accessorType? f = some t
        ∧ Ty.ofText? (Token.textOf w.definition.type.reroot.tokens) = some t
        ∧ (w.definition.type.reroot.isSimple true →
          Token.areLegible w.definition.type.reroot.tokens → t = w.definition.type.reroot)
        ∧ ((∃ u ∈ w.definition.type.reroot.pathUses, u.Names d.name.name)
          ↔ ∃ u ∈ w.definition.type.pathUses, u.Names d.name.name) := by
  rcases expand_eq_ok h with ⟨fields, dfs, moduleName, s, is, name, hshape, hdfs, hs, his, rfl⟩
  rcases documentFields_eq_ok hdfs with ⟨settings, hsettings, hproperties, -⟩
  rcases Rust.items_eq_ok_iff.mp his with ⟨type, base, marker, os, htype, -, -, hos, rfl⟩
  have hname : d.name.name ≠ "self" ∧ d.name.name ≠ "super" := ne_of_identifier htype
  have hinherent := Rust.inherentFunctions_items (c := .build (descriptor d.name dfs)
    ((descriptor d.name dfs).plan s) moduleName false markerTrait) (proxyVisibility d.visibility) type
    base marker (os.filterMap Rust.Operation.accessor?) (os.filterMap Rust.Operation.marker?)
  refine ⟨fields, settings, _, _, name, _, Rust.wrapFunction base, Rust.unwrapFunction base,
    os.filterMap Rust.Operation.accessor?, hshape, hsettings, rfl, hinherent, ?_⟩
  intro f hf
  rcases Rust.exists_writesAccessor hos hf with ⟨m, hm, hwrites⟩
  rcases hwrites.exists_type with ⟨p, t, hp, ht, hft⟩
  rcases exists_property_of_mem_members hs hproperties hm hp with ⟨w, hw, rfl⟩
  rcases Rust.propertyType_eq_ok_iff.mp ht with ⟨text, htext, hread⟩
  cases htext
  refine ⟨w, hw, t, hft, hread, fun hsimple hlegible => ?_, ?_⟩
  . rw [Ty.ofText?_textOf hsimple hlegible] at hread
    exact (Option.some.inj hread).symm
  . exact Ty.exists_names_reroot_iff hname w.definition.type

/-- A type with one argument. -/
def applied (name : String) (t : Ty) : Ty :=
  .path (.mk false [.mk (Rust.plain name) (.angled false [.type t])])

/-- A comment may have a parent, a comment as well. -/
def parentType : Ty :=
  applied "Option" (applied "Box" (Rust.named (Rust.plain "Comment")))

def comment : Definition where
  name := ⟨"Comment", false⟩
  shape := .record [{ name := ⟨"parent", false⟩, type := parentType }]

theorem accessor_types_of_expand_comment
    : ∃ item attributes visibility name is wrap unwrap accessors,
      expand comment = .ok item ∧ item = .module attributes visibility name is
        ∧
      Rust.inherentFunctions is = wrap :: unwrap :: accessors
        ∧
      ∀ f ∈ accessors, Rust.accessorType? f = some parentType := by
  have hexpand : (expand comment).map (fun _ => ()) = .ok () := by
    decide +kernel
  rcases map_eq_ok_iff.mp hexpand with ⟨item, hitem, -⟩
  rcases accessor_types_of_expand comment item hitem with
    ⟨fields, settings, attributes, visibility, name, is, wrap, unwrap, accessors, hshape, hsettings,
      hmodule, hinherent, haccessors⟩
  cases hshape
  have hsame : settings = [[]] :=
    List.map_injective_iff.mpr (fun _ _ => Except.ok.inj) (hsettings.symm.trans rfl)
  refine ⟨item, attributes, visibility, name, is, wrap, unwrap, accessors, hitem, hmodule, hinherent,
    fun f hf => ?_⟩
  rcases haccessors f hf with ⟨w, hw, t, hft, -, hsimple, -⟩
  rw [hsame] at hw
  have hfield : w = ⟨{ name := ⟨"parent", false⟩, type := parentType }, []⟩ :=
    List.mem_singleton.mp hw
  subst hfield
  rw [hft, hsimple (by decide) (by decide)]
  rfl

/-- Whether a path in the type of an accessor names what has the name. -/
def hasAccessorNaming (name : String) : Item → Bool
  | .module _ _ _ is =>
    ((Rust.inherentFunctions is).filterMap Rust.accessorType?).any fun t =>
      t.pathUses.any fun u => decide (u.Names name)
  | _ => false

theorem expand_comment : (expand comment).map (hasAccessorNaming "Comment") = .ok true := by
  decide +kernel

/-- A structure that refers to itself has accessors that refer to its proxy. -/
theorem proxy_named_by_accessor
    : ¬∀ (d : Definition) (attributes : List Attribute) (visibility : Visibility) (name : Ident)
        (is : List Item), expand d = .ok (.module attributes visibility name is) →
        ∀ f ∈ Rust.inherentFunctions is, ∀ t, Rust.accessorType? f = some t →
          ∀ u ∈ t.pathUses, ¬u.Names d.name.name := by
  intro hfree
  rcases map_eq_ok_iff.mp expand_comment with ⟨item, hitem, hnaming⟩
  cases item with
  | module attributes visibility name is =>
    rw [hasAccessorNaming, List.any_eq_true] at hnaming
    rcases hnaming with ⟨t, ht, hu⟩
    rcases List.any_eq_true.mp hu with ⟨u, hu, hnames⟩
    rcases List.mem_filterMap.mp ht with ⟨f, hf, hft⟩
    exact hfree comment attributes visibility name is hitem f hf t hft u hu
      (of_decide_eq_true hnames)
  | _ => contradiction

end Derive

end LazyProxy
