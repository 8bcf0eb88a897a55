import LazyProxy.Derive.Expansion
import LazyProxy.Proofs.Derive.Settings
import LazyProxy.Proofs.Document.Inspection
import LazyProxy.Proofs.Naming.SnakeCase
import LazyProxy.Proofs.Proxy.Selection
import LazyProxy.Proofs.Target.RustReader

/-!
This module contains which accessors the proxy of a structure has, by the settings of all its fields
together.
-/

namespace LazyProxy

open Code

theorem foldCase_foldCase (name : String) : foldCase (foldCase name) = foldCase name := by
  apply String.toList_injective
  rw [toList_foldCase, toList_foldCase, List.map_map]
  congr 1
  funext c
  exact Text.toLower_toLower c

theorem withoutUnderscores_foldCase (name : String)
    : withoutUnderscores (foldCase name) = foldCase (withoutUnderscores name) := by
  apply String.toList_injective
  rw [withoutUnderscores, toList_foldCase, toList_foldCase, withoutUnderscores,
    String.toList_ofList, String.toList_ofList, List.filter_map]
  congr 1
  apply List.filter_congr
  intro c hc
  rw [Function.comp_apply, Bool.eq_iff_iff, bne_iff_ne, bne_iff_ne, Ne, Ne,
    Text.toLower_eq_underscore_iff]

/-- An accessor that has the name of another one in snake case has its name anyway. -/
theorem AccessorKind.foldCase_eq_of_snakeCase {k l : AccessorKind} {p q : String}
    (hp : isIdentifier p) (hq : isIdentifier q)
    (h : foldCase (l.nameFor q) = foldCase (snakeCase (k.nameFor p)))
    : foldCase (l.nameFor q) = foldCase (k.nameFor p) := by
  have hletters := congrArg withoutUnderscores h
  rw [withoutUnderscores_foldCase, withoutUnderscores_foldCase,
    withoutUnderscores_eq_self (l.isAlphanum_of_mem_nameFor hq),
    k.withoutUnderscores_snakeCase_nameFor hp, foldCase_foldCase] at hletters
  exact hletters

namespace Derive

/-- A field with its settings, as they are written. -/
structure WrittenField where
  definition : FieldDef
  settings : List FieldSetting

namespace WrittenField

def name (w : WrittenField) : String :=
  w.definition.name.name

def isProperty (w : WrittenField) : Bool :=
  !w.settings.contains .skip

/-- The accessors that are not to be defined. -/
def suppressed (w : WrittenField) : List String :=
  ([AccessorKind.getter, .setter].filter (Suppresses · w.settings)).map (·.nameFor w.name)

/-- Whether the accessors of a kind for two fields have the same name, in any ASCII case. -/
def SharesAccessor (k : AccessorKind) (v w : WrittenField) : Prop :=
  foldCase (k.nameFor v.name) = foldCase (k.nameFor w.name)

instance (k : AccessorKind) (v w : WrittenField) : Decidable (SharesAccessor k v w) :=
  inferInstanceAs (Decidable (_ = _))

end WrittenField

open WrittenField

/-- The fields that are properties, in order. -/
def properties (fields : List FieldDef) (settings : List (List FieldSetting)) : List WrittenField :=
  (List.zipWith WrittenField.mk fields settings).filter (·.isProperty)

/-- Whether a proxy defines the accessor of a kind for the property at an index: no property of the
same accessor suppresses it, and none of them comes before. -/
def Defines (ws : List WrittenField) (i : Nat) (w : WrittenField) (k : AccessorKind) : Prop :=
  (∀ v ∈ ws, SharesAccessor k v w → ¬Suppresses k v.settings)
    ∧
  ∀ v ∈ ws.take i, ¬SharesAccessor k v w

instance (ws : List WrittenField) (i : Nat) (w : WrittenField) (k : AccessorKind)
    : Decidable (Defines ws i w k) :=
  inferInstanceAs (Decidable (_ ∧ _))

/-- The accessors that a proxy defines for properties, in order. -/
def definedAccessors (ws : List WrittenField) : List Member :=
  ws.zipIdx.flatMap fun (w, i) =>
    ([AccessorKind.getter, .setter].filter fun k => Defines ws i w k).map fun k =>
      k.member (snakeCase (k.nameFor w.name)) ⟨w.name, none⟩

theorem ownMethods_eq {f : DocumentField} {w : WrittenField} (hname : f.property.name = w.name)
    (hdefines : ∀ k, f.settings.defines k = !decide (Suppresses k w.settings))
    : f.ownMethods = w.suppressed := by
  have hgetter : f.settings.getter = !decide (Suppresses .getter w.settings) := hdefines .getter
  have hsetter : f.settings.setter = !decide (Suppresses .setter w.settings) := hdefines .setter
  rw [DocumentField.ownMethods, suppressed, hgetter, hsetter, hname, List.filter_cons,
    List.filter_cons, List.filter_nil]
  cases decide (Suppresses .getter w.settings) with
  | false =>
    cases decide (Suppresses .setter w.settings) with
    | false => rfl
    | true => rfl
  | true =>
    cases decide (Suppresses .setter w.settings) with
    | false => rfl
    | true => rfl

theorem documentFields_eq_ok {fields : List FieldDef} {dfs : List DocumentField}
    (h : documentFields fields = .ok dfs)
    : ∃ settings, fields.map (fun f => writtenSettings f.attributes) = settings.map .ok
        ∧
      dfs.map (·.property) = (properties fields settings).map (fun w => propertyOf w.definition)
        ∧
      dfs.flatMap DocumentField.ownMethods
        = (properties fields settings).flatMap WrittenField.suppressed := by
  induction fields generalizing dfs with
  | nil =>
    rw [documentFields, Except.ok.injEq] at h
    subst h
    exact ⟨[], rfl, rfl, rfl⟩
  | cons f fields ih =>
    rw [documentFields, bind_eq_ok_iff] at h
    rcases h with ⟨s, hs, h⟩
    rw [bind_eq_ok_iff] at h
    rcases h with ⟨rest, hrest, h⟩
    rw [Except.ok.injEq] at h
    subst h
    rcases ih hrest with ⟨settings, hsettings, hproperties, hmethods⟩
    rcases fieldSettings_eq_ok hs with ⟨fs, hfs, hskipped, hdefines⟩
    refine ⟨fs :: settings, by rw [List.map_cons, List.map_cons, hfs, hsettings], ?_⟩
    rw [properties, List.zipWith_cons_cons]
    by_cases hskip : fs.contains .skip
    . rw [List.filter_cons_of_neg (by rw [isProperty, hskip]; decide),
        if_pos (hskipped.trans hskip)]
      exact ⟨hproperties, hmethods⟩
    . have hown : DocumentField.ownMethods ⟨propertyOf f, s⟩
          = WrittenField.suppressed ⟨f, fs⟩ :=
        ownMethods_eq rfl hdefines
      rw [List.filter_cons_of_pos (by simpa [isProperty] using hskip),
        if_neg (by rw [hskipped]; exact hskip)]
      constructor
      . rw [List.map_cons, List.map_cons, hproperties]
        rfl
      . rw [List.flatMap_cons, List.flatMap_cons, hown, hmethods]
        rfl

section Selection

variable {name : Ident} {dfs : List DocumentField} {ws : List WrittenField}
  (hproperties : dfs.map (·.property) = ws.map (fun w => propertyOf w.definition))
  (hmethods : dfs.flatMap DocumentField.ownMethods = ws.flatMap WrittenField.suppressed)
  (hnames : ∀ w ∈ ws, isIdentifier w.name)

include hmethods hnames

theorem provides_iff {w : WrittenField} (hw : w ∈ ws) (k : AccessorKind)
    : (descriptor name dfs).Provides (k.nameFor w.name)
        ↔
      ∃ v ∈ ws, SharesAccessor k v w ∧ Suppresses k v.settings := by
  have hlevels : (descriptor name dfs).levels = [(descriptor name dfs).own] := rfl
  have hown : (descriptor name dfs).own.methods = ws.flatMap WrittenField.suppressed := hmethods
  rw [Descriptor.Provides, hlevels]
  simp only [List.mem_singleton, exists_eq_left, hown, List.mem_flatMap]
  constructor
  . rintro ⟨m, ⟨v, hv, hm⟩, hfold⟩
    rcases List.mem_map.mp hm with ⟨l, hl, rfl⟩
    have hshares : foldCase (l.nameFor v.name) = foldCase (k.nameFor w.name) := by
      cases hfold with
      | inl hfold => exact hfold
      | inr hfold => exact AccessorKind.foldCase_eq_of_snakeCase (hnames w hw) (hnames v hv) hfold
    have hkind := AccessorKind.eq_of_foldCase_nameFor_eq hshares
    subst hkind
    exact ⟨v, hv, hshares, of_decide_eq_true (List.mem_filter.mp hl).right⟩
  . rintro ⟨v, hv, hshares, hsuppresses⟩
    refine ⟨k.nameFor v.name, ⟨v, hv, ?_⟩, Or.inl hshares⟩
    refine List.mem_map.mpr ⟨k, List.mem_filter.mpr ⟨?_, decide_eq_true hsuppresses⟩, rfl⟩
    cases k with
    | getter => simp
    | setter => simp

theorem generates_iff_defines {i : Nat} {w : WrittenField} (hw : ws[i]? = some w)
    (k : AccessorKind)
    : (descriptor name dfs).Generates (ws.map fun w => propertyOf w.definition) i
        (propertyOf w.definition) k
        ↔
      Defines ws i w k := by
  have hmem := List.mem_of_getElem? hw
  have hprovides : (descriptor name dfs).Provides (k.nameFor (propertyOf w.definition).name) ↔ _ :=
    provides_iff hmethods hnames hmem k
  rw [Descriptor.Generates, Defines, hprovides, ← List.map_take]
  push Not
  apply and_congr_right
  intro hall
  rw [List.forall_mem_map]
  constructor
  . intro hfirst v hv hshares
    -- What provides the accessor of the earlier field would provide this one as well.
    rcases (provides_iff hmethods hnames (List.mem_of_mem_take hv) k).mp (hfirst v hv hshares) with
      ⟨u, hu, huv, hsuppresses⟩
    exact hall u hu (huv.trans hshares) hsuppresses
  . intro hfirst v hv hshares
    exact absurd hshares (hfirst v hv)

include hproperties

theorem map_membersOf_descriptor
    : ((descriptor name dfs).membersOf (dfs.map (·.property))).map
        (fun m => m.withoutType.rename snakeCase)
        =
      definedAccessors ws := by
  rw [Descriptor.membersOf, hproperties, definedAccessors, List.zipIdx_map, List.flatMap_map,
    List.map_flatMap]
  apply List.flatMap_congr
  rintro ⟨w, i⟩ hw
  have hw := List.mem_zipIdx_iff_getElem?.mp hw
  have hkinds : ∀ k, decide ((descriptor name dfs).Generates
      (ws.map fun w => propertyOf w.definition) i (propertyOf w.definition) k)
      = decide (Defines ws i w k) := by
    intro k
    rw [decide_eq_decide]
    exact generates_iff_defines hmethods hnames hw k
  simp only [Prod.map, id, hkinds, List.map_map]
  apply List.map_congr_left
  intro k hk
  cases k with
  | getter => rfl
  | setter => rfl

end Selection

theorem collectProperties_descriptor {name : Ident} {dfs : List DocumentField} {s : PropertySet}
    (h : (descriptor name dfs).collectProperties = .ok s)
    : s = .ofList (dfs.map (·.property)) ∧ ∀ f ∈ dfs, isIdentifier f.property.name := by
  have hown := (descriptor name dfs).wellNamed_of_collectProperties h
    (descriptor name dfs).own (by simp [Descriptor.levels])
  constructor
  . have hlevels : (descriptor name dfs).levels = [(descriptor name dfs).own] := rfl
    rw [Descriptor.collectProperties, hlevels] at h
    simp only [maxInheritanceDepth, Descriptor.collectFrom] at h
    rw [bind_eq_ok_iff] at h
    rcases h with ⟨_, -, h⟩
    exact (Except.ok.inj h).symm
  . intro f hf
    exact hown.properties f.property (List.mem_map_of_mem hf)

theorem fieldsOf_eq_ok {d : Definition} {fields : List FieldDef} (h : fieldsOf d = .ok fields)
    : d.shape = .record fields := by
  unfold fieldsOf at h
  split at h
  . contradiction
  . split at h
    . next hshape => rw [hshape, Except.ok.inj h]
    . contradiction
    . contradiction
    . contradiction
    . contradiction

theorem expand_eq_ok {d : Definition} {item : Item} (h : expand d = .ok item)
    : ∃ fields dfs moduleName s is name, d.shape = .record fields
        ∧
      documentFields fields = .ok dfs
        ∧
      (descriptor d.name dfs).collectProperties = .ok s
        ∧
      Rust.items
          (.build (descriptor d.name dfs) ((descriptor d.name dfs).plan s) moduleName false
            markerTrait)
          (proxyVisibility d.visibility)
        = .ok is
        ∧
      item = moduleItem name d.name.name is := by
  unfold expand at h
  rw [bind_eq_ok_iff] at h
  rcases h with ⟨fields, hfields, h⟩
  rw [bind_eq_ok_iff] at h
  rcases h with ⟨set, -, h⟩
  rw [bind_eq_ok_iff] at h
  rcases h with ⟨dfs, hdfs, h⟩
  rw [bind_eq_ok_iff] at h
  rcases h with ⟨proxy, hproxy, h⟩
  rw [bind_eq_ok_iff] at h
  rcases h with ⟨is, his, h⟩
  rw [mapError_eq_ok_iff] at hdfs hproxy his
  rw [proxyClass, bind_eq_ok_iff] at hproxy
  rcases hproxy with ⟨s, hs, hproxy⟩
  rw [Except.ok.injEq] at hproxy
  subst hproxy
  split at h
  . contradiction
  . next name hname =>
    exact ⟨fields, dfs, _, s, is, name, fieldsOf_eq_ok hfields, hdfs, hs, his,
      (Except.ok.inj h).symm⟩

/-- The proxy of a structure defines exactly the accessors that the settings of its fields leave,
each for the field that it is named after. -/
theorem accessors_of_expand (d : Definition) (item : Item) (h : expand d = .ok item)
    : ∃ (fields : List FieldDef) (settings : List (List FieldSetting))
        (attributes : List Attribute) (visibility : Visibility) (name : Ident) (is : List Item)
        (wrap unwrap : Function) (accessors : List Function),
      d.shape = .record fields
        ∧
      fields.map (fun f => writtenSettings f.attributes) = settings.map .ok
        ∧
      item = .module attributes visibility name is
        ∧
      Rust.inherentFunctions is = wrap :: unwrap :: accessors
        ∧
      wrap.signature.name = Rust.plain "new" ∧ unwrap.signature.name = Rust.plain "into_inner"
        ∧
      accessors.map Rust.memberOf? = (definedAccessors (properties fields settings)).map some := by
  rcases expand_eq_ok h with ⟨fields, dfs, moduleName, s, is, name, hshape, hdfs, hs, his, rfl⟩
  rcases documentFields_eq_ok hdfs with ⟨settings, hsettings, hproperties, hmethods⟩
  rcases collectProperties_descriptor hs with ⟨rfl, hidentifiers⟩
  rcases Rust.exists_accessors_of_items his with
    ⟨wrap, unwrap, accessors, hinherent, hwrap, hunwrap, haccessors⟩
  have hnames : ∀ w ∈ properties fields settings, isIdentifier w.name := by
    intro w hw
    have hmem := List.mem_map_of_mem (f := fun w => propertyOf w.definition) hw
    rw [← hproperties] at hmem
    rcases List.mem_map.mp hmem with ⟨f, hf, hfw⟩
    have hname := hidentifiers f hf
    rwa [hfw] at hname
  refine ⟨fields, settings, _, _, name, _, wrap, unwrap, accessors, hshape, hsettings, rfl, ?_,
    hwrap, hunwrap, ?_⟩
  . exact hinherent
  . rw [haccessors, ProxyClass.accessors_build, Descriptor.flatMap_members_plan_ofList,
      ← map_membersOf_descriptor hproperties hmethods hnames, List.map_map]
    rfl

/-- A byte with settings in one attribute each. -/
def byteField (name : Ident) (settings : List (List Token)) : FieldDef where
  attributes := settings.map fun ts => ⟨.ofIdent (Rust.plain "proxy"), .list .paren ts⟩
  name
  type := Rust.named (Rust.plain "u8")

/-- Setting `accessor = value`. -/
def accessorSetting (accessor value : String) : List Token :=
  [.word accessor, .punct '=' false, .word value]

/-- Fields of which two pairs share their accessors, and one is no property. -/
def shiftFields : List FieldDef :=
  [byteField ⟨"type", true⟩ [],
    byteField ⟨"Type", false⟩ [],
    byteField ⟨"body", false⟩ [],
    byteField ⟨"BODY", false⟩ [accessorSetting "getter" "false"],
    byteField ⟨"owner", false⟩ [[.word "skip"], accessorSetting "getter" "false"],
    byteField ⟨"Owner", false⟩ [accessorSetting "setter" "true", accessorSetting "setter" "false"]]

def shiftSettings : List (List FieldSetting) :=
  [[], [], [], [.accessor .getter false], [.skip, .accessor .getter false],
    [.accessor .setter true, .accessor .setter false]]

theorem accessors_of_expand_shift
    : ∃ item attributes visibility name is wrap unwrap accessors,
      expand { name := ⟨"Shift", false⟩, shape := .record shiftFields } = .ok item
        ∧
      item = .module attributes visibility name is
        ∧
      Rust.inherentFunctions is = wrap :: unwrap :: accessors
        ∧
      accessors.map Rust.memberOf?
        = [some (.getter "get_type" ⟨"type", none⟩), some (.setter "set_type" ⟨"type", none⟩),
          some (.setter "set_body" ⟨"body", none⟩), some (.getter "get_owner" ⟨"Owner", none⟩)] := by
  have hexpand : (expand { name := ⟨"Shift", false⟩, shape := .record shiftFields }).map
      (fun _ => ()) = .ok () := by
    decide +kernel
  rcases map_eq_ok_iff.mp hexpand with ⟨item, hitem, -⟩
  rcases accessors_of_expand _ item hitem with
    ⟨fields, settings, attributes, visibility, name, is, wrap, unwrap, accessors, hshape, hsettings,
      hmodule, hinherent, -, -, haccessors⟩
  cases hshape
  have hshift : shiftFields.map (fun f => writtenSettings f.attributes) = shiftSettings.map .ok := by
    decide
  have hsame : settings = shiftSettings :=
    List.map_injective_iff.mpr (fun _ _ => Except.ok.inj) (hsettings.symm.trans hshift)
  refine ⟨item, attributes, visibility, name, is, wrap, unwrap, accessors, hitem, hmodule,
    hinherent, ?_⟩
  rw [haccessors, hsame]
  decide +kernel

end Derive

end LazyProxy
