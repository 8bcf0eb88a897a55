import LazyProxy.Proofs.Code.SimpleType
import LazyProxy.Proofs.Target.RustItems

/-!
This module contains that the items of a proxy in Rust are read back as they are written, as soon as the
types of its accessors are.
-/

namespace LazyProxy

open Code

namespace Code

/-- A path of names that may be a type. -/
def Path.IsNamed (p : Path) : Prop :=
  ∃ rooted names, p = .ofNames rooted names
    ∧
  names ≠ []
    ∧
  names.all Ident.isSegment
    ∧
  startsTy rooted names

theorem areSimple_map {names : List Ident} (h : names.all Ident.isSegment)
    : Segment.areSimple (names.map (.mk · .none)) := by
  induction names with
  | nil => rfl
  | cons i names ih =>
    rw [List.all_cons, Bool.and_eq_true] at h
    rw [List.map_cons, Segment.areSimple, h.left, ih h.right, Args.areSimpleFor]
    rfl

theorem Path.IsNamed.isSimple {p : Path} (h : p.IsNamed) : p.isSimple := by
  rcases h with ⟨rooted, names, rfl, hne, hsegments, hstart⟩
  have hnames : (names.map (Segment.mk · .none)).map Segment.name = names := by
    rw [List.map_map]
    exact List.map_id'' (fun i => rfl) names
  rw [Path.ofNames, Path.isSimple, hnames, hstart, areSimple_map hsegments]
  simpa using hne

theorem Path.IsNamed.readsBack_path {p : Path} (h : p.IsNamed) (plus : Bool)
    : (Ty.path p).ReadsBack plus := by
  apply Ty.readsBack_of_isSimple
  rw [Ty.isSimple, h.isSimple]

theorem Path.IsNamed.readsBack {p : Path} (h : p.IsNamed) : p.ReadsBack :=
  Path.readsBack_of_isSimple h.isSimple

end Code

namespace Rust

theorem readsBack_docAttribute (text : String) : (docAttribute text).ReadsBack := by
  unfold docAttribute
  generalize "\"" ++ String.ofList (text.toList.flatMap escapeInString) ++ "\"" = value
  cbv

theorem readsBack_allowAttribute (warning : String) : (allowAttribute warning).ReadsBack := by
  cbv

theorem isNamed_ofIdent {i : Ident} (h : i.isName) : (Path.ofIdent i).IsNamed := by
  refine ⟨false, [i], rfl, by simp, ?_, ?_⟩
  . simp [Ident.isSegment_of_isName h]
  . simp [startsTy, h]

theorem isNamed_self : (Path.ofIdent (plain "Self")).IsNamed := by
  exact ⟨false, [plain "Self"], rfl, by simp, by decide, by decide⟩

theorem isNamed_targetPath : targetPath.IsNamed := by
  exact ⟨false, [plain "Self", plain "Target"], rfl, by simp, by decide, by decide⟩

theorem isNamed_deref : (rootedPath ["core", "ops", "Deref"] .none).IsNamed := by
  exact ⟨true, [plain "core", plain "ops", plain "Deref"], rfl, by simp, by decide, rfl⟩

theorem isNamed_derefMut : (rootedPath ["core", "ops", "DerefMut"] .none).IsNamed := by
  exact ⟨true, [plain "core", plain "ops", plain "DerefMut"], rfl, by simp, by decide, rfl⟩

theorem readsBack_target (mutable : Bool)
    : (Ty.reference none mutable (.path targetPath)).ReadsBack true :=
  Ty.readsBack_reference (isNamed_targetPath.readsBack_path false) rfl none mutable

variable {c : ProxyClass} {name : Ident} {base marker : Path}

theorem readsBack_named (h : name.isName) (plus : Bool) : (named name).ReadsBack plus :=
  (isNamed_ofIdent h).readsBack_path plus

theorem readsBack_field {members : List Ident} (h : ∀ i ∈ members, i.isName)
    : (fieldExpr (plain "self") members).ReadsBack :=
  readsBack_fieldExpr rfl h

theorem readBack_borrow {members : List Ident} (h : ∀ i ∈ members, i.isName) (mutable : Bool)
    : ReadBack [.expr (.borrow mutable (fieldExpr (plain "self") members)) false] :=
  ((readsBack_field h).borrow (by decide) mutable).readBack

theorem isName_baseField : ∀ i ∈ [baseField], i.isName := by
  decide

theorem readsBack_selfField {i : Ident} (h : i.isName) : (selfField i).ReadsBack :=
  readsBack_field (List.forall_mem_singleton.mpr h)

theorem readsBack_varExpr {i : Ident} (h : i.isName) : (varExpr i).ReadsBack := by
  have hvar : varExpr i = fieldExpr i [] := rfl
  rw [hvar]
  exact readsBack_fieldExpr (by rw [h, Bool.true_or]) (List.forall_mem_nil _)

theorem isReadable_wrapFunction (h : (Ty.path base).ReadsBack true)
    : (wrapFunction base).IsReadable where
  attributes := List.forall_mem_singleton.mpr (readsBack_docAttribute _)
  visibility := rfl
  signature.name := rfl
  signature.params := List.forall_mem_singleton.mpr ⟨rfl, h⟩
  signature.output := by
    rintro t ⟨⟩
    exact isNamed_self.readsBack_path true
  body := by
    rintro b ⟨⟩
    unfold ReadBack
    cbv

theorem isReadable_unwrapFunction (h : (Ty.path base).ReadsBack true)
    : (unwrapFunction base).IsReadable where
  attributes := List.forall_mem_nil _
  visibility := rfl
  signature.name := rfl
  signature.params := List.forall_mem_nil _
  signature.output := by
    rintro t ⟨⟩
    exact h
  body := by
    rintro b ⟨⟩
    exact (readsBack_selfField rfl).readBack

theorem isReadable_getterFunction {field : Ident} {type : Ty} (hname : name.isName)
    (hfield : field.isName) (htype : (Ty.reference none false type).ReadsBack true)
    : (getterFunction name field type).IsReadable where
  attributes := List.forall_mem_nil _
  visibility := rfl
  signature.name := hname
  signature.params := List.forall_mem_nil _
  signature.output := by
    rintro t ⟨⟩
    exact htype
  body := by
    rintro b ⟨⟩
    have hmembers : ∀ i ∈ [baseField, field], i.isName := by
      rw [List.forall_mem_cons, List.forall_mem_singleton]
      exact ⟨rfl, hfield⟩
    exact readBack_borrow hmembers false

theorem isReadable_setterFunction {field : Ident} {type : Ty} (hname : name.isName)
    (hfield : field.isName) (htype : type.ReadsBack true)
    : (setterFunction name field type).IsReadable where
  attributes := List.forall_mem_nil _
  visibility := rfl
  signature.name := hname
  signature.params := List.forall_mem_singleton.mpr ⟨hfield, htype⟩
  signature.output := by
    rintro t ⟨⟩
  body := by
    rintro b ⟨⟩
    have hmembers : ∀ i ∈ [baseField, field], i.isName := by
      rw [List.forall_mem_cons, List.forall_mem_singleton]
      exact ⟨rfl, hfield⟩
    exact readBack_assign (readsBack_field hmembers) (readsBack_varExpr hfield)

theorem isReadable_flagReader : flagReader.IsReadable where
  attributes := List.forall_mem_nil _
  visibility := rfl
  signature.name := rfl
  signature.params := List.forall_mem_nil _
  signature.output := by
    rintro t ⟨⟩
    exact readsBack_named rfl true
  body := by
    rintro b ⟨⟩
    exact (readsBack_selfField rfl).readBack

theorem isReadable_flagWriter : flagWriter.IsReadable where
  attributes := List.forall_mem_nil _
  visibility := rfl
  signature.name := rfl
  signature.params := List.forall_mem_singleton.mpr ⟨rfl, readsBack_named rfl true⟩
  signature.output := by
    rintro t ⟨⟩
  body := by
    rintro b ⟨⟩
    exact readBack_assign (readsBack_selfField rfl) (readsBack_varExpr rfl)

theorem isReadable_structItem (hname : name.isName) (h : (Ty.path base).ReadsBack true)
    : (structItem c .everyone name base).IsReadable := by
  refine .struct (List.forall_mem_singleton.mpr (readsBack_docAttribute _)) rfl hname ?_
  rw [List.forall_mem_cons, List.forall_mem_singleton]
  constructor
  . exact ⟨List.forall_mem_nil _, rfl, rfl, h⟩
  . exact ⟨List.forall_mem_nil _, rfl, rfl, readsBack_named rfl true⟩

theorem isReadable_inherentItem (hname : name.isName) (h : (Ty.path base).ReadsBack true)
    {accessors : List Function} (haccessors : ∀ f ∈ accessors, f.IsReadable ∧ f.body.isSome)
    : (inherentItem name base accessors).IsReadable := by
  refine .impl (List.forall_mem_singleton.mpr (readsBack_allowAttribute _)) nofun
    (readsBack_named hname true) ?_
  rw [List.forall_mem_append, List.forall_mem_cons, List.forall_mem_singleton]
  refine ⟨⟨.function (isReadable_wrapFunction h) rfl, .function (isReadable_unwrapFunction h) rfl⟩, ?_⟩
  rw [List.forall_mem_map]
  intro f hf
  exact .function (haccessors f hf).left (haccessors f hf).right

theorem readsBack_conversionPath (h : base.isSimple)
    : (rootedPath ["core", "convert", "From"] (.angled false [.type (.path base)])).ReadsBack := by
  apply Path.readsBack_of_isSimple
  have hnames : (plain "core").isSegment ∧ (plain "convert").isSegment ∧ (plain "From").isSegment := by
    decide
  simp [rootedPath, Path.isSimple, Segment.areSimple, Args.areSimpleFor, Arg.areSimple, Ty.isSimple,
    startsTy, hnames, h]
  decide

theorem isReadable_conversionItem (hname : name.isName) (hbase : base.IsNamed)
    : (conversionItem name base).IsReadable := by
  have h := hbase.readsBack_path true
  refine .impl (List.forall_mem_nil _) ?_ (readsBack_named hname true) ?_
  . rintro p ⟨⟩
    exact readsBack_conversionPath hbase.isSimple
  . rw [List.forall_mem_singleton]
    refine .function ⟨List.forall_mem_nil _, rfl, ⟨rfl, ?_, ?_⟩, ?_⟩ rfl
    . exact List.forall_mem_singleton.mpr ⟨rfl, h⟩
    . rintro t ⟨⟩
      exact isNamed_self.readsBack_path true
    . rintro b ⟨⟩
      unfold ReadBack
      cbv

theorem isReadable_derefItem (hname : name.isName) (h : (Ty.path base).ReadsBack true)
    : (derefItem name base).IsReadable := by
  refine .impl (List.forall_mem_nil _) ?_ (readsBack_named hname true) ?_
  . rintro p ⟨⟩
    exact isNamed_deref.readsBack
  . rw [List.forall_mem_cons, List.forall_mem_singleton]
    refine ⟨.type rfl h, .function
      ⟨List.forall_mem_nil _, rfl, ⟨rfl, List.forall_mem_nil _, ?_⟩, ?_⟩ rfl⟩
    . rintro t ⟨⟩
      exact readsBack_target false
    . rintro b ⟨⟩
      exact readBack_borrow isName_baseField false

theorem isReadable_derefMutItem (hname : name.isName) : (derefMutItem name).IsReadable := by
  refine .impl (List.forall_mem_nil _) ?_ (readsBack_named hname true) ?_
  . rintro p ⟨⟩
    exact isNamed_derefMut.readsBack
  . rw [List.forall_mem_singleton]
    refine .function ⟨List.forall_mem_nil _, rfl, ⟨rfl, List.forall_mem_nil _, ?_⟩, ?_⟩ rfl
    . rintro t ⟨⟩
      exact readsBack_target true
    . rintro b ⟨⟩
      exact readBack_borrow isName_baseField true

theorem isReadable_markerItem (hname : name.isName) (hmarker : marker.ReadsBack)
    : (markerItem name marker [flagReader, flagWriter]).IsReadable := by
  refine .impl (List.forall_mem_nil _) ?_ (readsBack_named hname true) ?_
  . rintro p ⟨⟩
    exact hmarker
  . rw [List.map_cons, List.map_singleton, List.forall_mem_cons, List.forall_mem_singleton]
    exact ⟨.function isReadable_flagReader rfl, .function isReadable_flagWriter rfl⟩

theorem readBack_eq_ok_iff {is read : List Item}
    : readBack is = .ok read ↔ readFile? (Item.tokensOfList is) = some read := by
  unfold readBack
  cases readFile? (Item.tokensOfList is) with
  | none => simp
  | some items => simp

/-- The items of a proxy are read back if its accessors are. -/
theorem readBack_items (c : ProxyClass) (hname : name.isName) (hbase : base.IsNamed)
    (hmarker : marker.IsNamed) {accessors : List Function}
    (haccessors : ∀ f ∈ accessors, f.IsReadable ∧ f.body.isSome)
    : let is := [structItem c .everyone name base, inherentItem name base accessors,
        conversionItem name base, derefItem name base, derefMutItem name,
        markerItem name marker [flagReader, flagWriter]]
      readBack is = .ok is := by
  intro is
  have h := hbase.readsBack_path true
  have hreadable : ∀ item ∈ is, item.IsReadable := by
    simp only [is, List.forall_mem_cons]
    exact ⟨isReadable_structItem hname h, isReadable_inherentItem hname h haccessors,
      isReadable_conversionItem hname hbase, isReadable_derefItem hname h,
      isReadable_derefMutItem hname, isReadable_markerItem hname hmarker.readsBack,
      List.forall_mem_nil _⟩
  exact readBack_eq_ok_iff.mpr (readFile?_tokensOfList hreadable)

/-- Whatever the accessors are, all that stands around them is read back. -/
theorem exists_members_of_readBack (hname : name.isName) (hbase : base.IsNamed)
    (hmarker : marker.IsNamed) {accessors : List Function} {read : List Item}
    (h : readBack [structItem c .everyone name base, inherentItem name base accessors,
        conversionItem name base, derefItem name base, derefMutItem name,
        markerItem name marker [flagReader, flagWriter]] = .ok read)
    : ∃ members, read = [structItem c .everyone name base,
        .impl [allowAttribute "dead_code"] none (named name)
          ([.function (wrapFunction base), .function (unwrapFunction base)] ++ members),
        conversionItem name base, derefItem name base, derefMutItem name,
        markerItem name marker [flagReader, flagWriter]] := by
  have hty := hbase.readsBack_path true
  have hbehind : ∀ item ∈ [conversionItem name base, derefItem name base, derefMutItem name,
      markerItem name marker [flagReader, flagWriter]], item.IsReadable := by
    simp only [List.forall_mem_cons]
    exact ⟨isReadable_conversionItem hname hbase, isReadable_derefItem hname hty,
      isReadable_derefMutItem hname, isReadable_markerItem hname hmarker.readsBack,
      List.forall_mem_nil _⟩
  have hbefore : ∀ item ∈ [structItem c .everyone name base], item.IsReadable :=
    List.forall_mem_singleton.mpr (isReadable_structItem hname hty)
  have hattribute := List.forall_mem_singleton.mpr (readsBack_allowAttribute "dead_code")
  have htrait : ∀ p ∈ (none : Option Path), p.ReadsBack := nofun
  let own : List ImplMember := [.function (wrapFunction base), .function (unwrapFunction base)]
  have hown : ∀ m ∈ own, m.IsReadable := by
    simp only [own, List.forall_mem_cons]
    exact ⟨.function (isReadable_wrapFunction hty) rfl, .function (isReadable_unwrapFunction hty) rfl,
      List.forall_mem_nil _⟩
  have hfile := readFile?_impl (own ++ accessors.map .function) hbefore hbehind hattribute htrait
    (readsBack_named hname true)
  have hlength := length_le_length_flatMap ImplMember.tokens_ne_nil
    (own ++ accessors.map .function)
  rw [List.length_append, Nat.add_comm] at hlength
  obtain ⟨n, hn⟩ := Nat.exists_eq_add_of_le (Nat.le_of_add_left_le hlength)
  rw [hn, List.flatMap_append, Nat.add_assoc, readImplMembers_append hown] at hfile
  have hread := hfile.symm.trans (readBack_eq_ok_iff.mp h)
  rw [Option.map_map, Option.map_eq_some_iff] at hread
  rcases hread with ⟨members, -, rfl⟩
  exact ⟨members, rfl⟩

end Rust

end LazyProxy
