import LazyProxy.Proofs.Outcome
import LazyProxy.Target.Rust

/-!
This module contains what the items of a proxy in Rust are when they can be written: which function
each member is written as, and where the functions stand.
-/

namespace LazyProxy.Rust

open Code

/-- The function that makes a proxy of a document. -/
def wrapFunction (base : Path) : Function where
  attributes := [docAttribute " Wrap a document. The proxy starts uninitialized."]
  visibility := .everyone
  signature :=
    { name := plain "new", params := [(baseField, .path base)],
      output := some (named (plain "Self")) }
  body := some [.expr (.record (.ofIdent (plain "Self"))
    [.mk baseField none, .mk flagField (some (.bool false))]) false]

/-- The function that gives the document back. -/
def unwrapFunction (base : Path) : Function where
  visibility := .everyone
  signature :=
    { name := plain "into_inner", receiver := some .owned, output := some (.path base) }
  body := some [.expr (selfField baseField) false]

/-- A getter for a field of the document. -/
def getterFunction (name field : Ident) (type : Ty) : Function where
  visibility := .everyone
  signature :=
    { name, receiver := some (.borrowed false), output := some (.reference none false type) }
  body := some [.expr (.borrow false (.field (selfField baseField) field)) false]

/-- A setter for a field of the document. -/
def setterFunction (name field : Ident) (type : Ty) : Function where
  visibility := .everyone
  signature := { name, receiver := some (.borrowed true), params := [(field, type)] }
  body := some [.expr (.assign (.field (selfField baseField) field) (varExpr field)) true]

/-- The operation that reads the flag. -/
def flagReader : Function where
  signature :=
    { name := plain "is_initialized", receiver := some (.borrowed false),
      output := some (named (plain "bool")) }
  body := some [.expr (selfField flagField) false]

/-- The operation that sets the flag. -/
def flagWriter : Function where
  signature :=
    { name := plain "set_initialized", receiver := some (.borrowed true),
      params := [(plain "initialized", named (plain "bool"))] }
  body := some [.expr (.assign (selfField flagField) (varExpr (plain "initialized"))) true]

/-- The operation that a member is written as. -/
inductive Writes : Member → Option Operation → Prop where
  | flag : Writes .flag none
  | isInitialized : Writes .isInitialized (some (.marker flagReader))
  | setInitialized : Writes .setInitialized (some (.marker flagWriter))
  | getter {p : Property} {field : Ident} (method : String) (type : Ty)
      (h : identifier p.name = .ok field)
      : Writes (.getter method p)
          (some (.accessor (getterFunction (plain (snakeCase method)) field type)))
  | setter {p : Property} {field : Ident} (method : String) (type : Ty)
      (h : identifier p.name = .ok field)
      : Writes (.setter method p)
          (some (.accessor (setterFunction (plain (snakeCase method)) field type)))

theorem name_of_identifier {name : String} {i : Ident} (h : identifier name = .ok i)
    : i.name = name := by
  unfold identifier at h
  split at h
  . contradiction
  . rw [Except.ok.injEq] at h
    rw [← h]

variable {c : ProxyClass}

theorem propertyType_eq_ok_iff {p : Property} {t : Ty}
    : propertyType c p = .ok t ↔ ∃ text, p.type = some text ∧ Ty.ofText? text = some t := by
  unfold propertyType
  cases p.type with
  | none => simp
  | some text =>
    cases htext : Ty.ofText? text with
    | none => simp [htext]
    | some t' => simp [htext]

theorem operation?_getter_eq_ok_iff {method : String} {p : Property} {o : Option Operation}
    : operation? c (.getter method p) = .ok o
        ↔
      ∃ field type, identifier p.name = .ok field ∧ propertyType c p = .ok type
        ∧
      o = some (.accessor (getterFunction (plain (snakeCase method)) field type)) := by
  simp only [operation?, bind_eq_ok_iff, Except.ok.injEq]
  constructor
  . rintro ⟨field, hfield, type, htype, rfl⟩
    exact ⟨field, type, hfield, htype, rfl⟩
  . rintro ⟨field, type, hfield, htype, rfl⟩
    exact ⟨field, hfield, type, htype, rfl⟩

theorem operation?_setter_eq_ok_iff {method : String} {p : Property} {o : Option Operation}
    : operation? c (.setter method p) = .ok o
        ↔
      ∃ field type, identifier p.name = .ok field ∧ propertyType c p = .ok type
        ∧
      o = some (.accessor (setterFunction (plain (snakeCase method)) field type)) := by
  simp only [operation?, bind_eq_ok_iff, Except.ok.injEq]
  constructor
  . rintro ⟨field, hfield, type, htype, rfl⟩
    exact ⟨field, type, hfield, htype, rfl⟩
  . rintro ⟨field, type, hfield, htype, rfl⟩
    exact ⟨field, hfield, type, htype, rfl⟩

theorem writes_of_operation? {m : Member} {o : Option Operation} (h : operation? c m = .ok o)
    : Writes m o := by
  cases m with
  | flag =>
    simp only [operation?, Except.ok.injEq] at h
    subst h
    exact .flag
  | isInitialized =>
    simp only [operation?, Except.ok.injEq] at h
    subst h
    exact .isInitialized
  | setInitialized =>
    simp only [operation?, Except.ok.injEq] at h
    subst h
    exact .setInitialized
  | getter method p =>
    rcases operation?_getter_eq_ok_iff.mp h with ⟨field, type, hfield, -, rfl⟩
    exact .getter method type hfield
  | setter method p =>
    rcases operation?_setter_eq_ok_iff.mp h with ⟨field, type, hfield, -, rfl⟩
    exact .setter method type hfield

/-- The function that a member is written as, with the type of its property. -/
inductive WritesAccessor (c : ProxyClass) : Member → Function → Prop where
  | getter {p : Property} {field : Ident} {type : Ty} (method : String)
      (hfield : identifier p.name = .ok field) (htype : propertyType c p = .ok type)
      : WritesAccessor c (.getter method p) (getterFunction (plain (snakeCase method)) field type)
  | setter {p : Property} {field : Ident} {type : Ty} (method : String)
      (hfield : identifier p.name = .ok field) (htype : propertyType c p = .ok type)
      : WritesAccessor c (.setter method p) (setterFunction (plain (snakeCase method)) field type)

theorem writesAccessor_of_operation? {m : Member} {f : Function}
    (h : operation? c m = .ok (some (.accessor f)))
    : WritesAccessor c m f := by
  cases m with
  | flag => simp [operation?] at h
  | isInitialized => simp [operation?] at h
  | setInitialized => simp [operation?] at h
  | getter method p =>
    rcases operation?_getter_eq_ok_iff.mp h with ⟨field, type, hfield, htype, ho⟩
    cases ho
    exact .getter method hfield htype
  | setter method p =>
    rcases operation?_setter_eq_ok_iff.mp h with ⟨field, type, hfield, htype, ho⟩
    cases ho
    exact .setter method hfield htype

/-- The property that an accessor is for. -/
def property? : Member → Option Property
  | .getter _ p | .setter _ p => some p
  | _ => none

/-- The type that an accessor gives a reference to or takes. -/
def accessorType? (f : Function) : Option Ty :=
  match f.signature.output, f.signature.params with
  | some (.reference none false t), [] => some t
  | none, [(_, t)] => some t
  | _, _ => none

theorem WritesAccessor.exists_type {m : Member} {f : Function} (h : WritesAccessor c m f)
    : ∃ p t, property? m = some p ∧ propertyType c p = .ok t ∧ accessorType? f = some t := by
  cases h with
  | getter method hfield htype => exact ⟨_, _, rfl, htype, rfl⟩
  | setter method hfield htype => exact ⟨_, _, rfl, htype, rfl⟩

/-- Each accessor is that of a member. -/
theorem exists_writesAccessor {ms : List Member} {os : List Operation} {f : Function}
    (h : operations c ms = .ok os) (hf : f ∈ os.filterMap Operation.accessor?)
    : ∃ m ∈ ms, WritesAccessor c m f := by
  induction ms generalizing os with
  | nil =>
    simp only [operations, Except.ok.injEq] at h
    subst h
    contradiction
  | cons m ms ih =>
    unfold operations at h
    rw [bind_eq_ok_iff] at h
    rcases h with ⟨o, ho, h⟩
    rw [bind_eq_ok_iff] at h
    rcases h with ⟨rest, hrest, h⟩
    simp only [Except.ok.injEq] at h
    subst h
    rw [List.filterMap_append, List.mem_append] at hf
    cases hf with
    | inl hf =>
      rcases List.mem_filterMap.mp hf with ⟨g, hg, hgf⟩
      rw [Option.mem_toList] at hg
      subst hg
      cases g with
      | marker g => contradiction
      | accessor g =>
        cases hgf
        exact ⟨m, List.mem_cons_self, writesAccessor_of_operation? ho⟩
    | inr hf =>
      rcases ih hrest hf with ⟨m', hm', hwrites⟩
      exact ⟨m', List.mem_cons_of_mem m hm', hwrites⟩

/-- What can be told of an operation by its member can be told of all operations by the members. -/
theorem filterMap_operations {α : Type} {f : Operation → Option α} {g : Member → Option α}
    (hfg : ∀ {m o}, Writes m o → o.bind f = g m) {ms : List Member} {os : List Operation}
    (h : operations c ms = .ok os)
    : os.filterMap f = ms.filterMap g := by
  induction ms generalizing os with
  | nil =>
    simp only [operations, Except.ok.injEq] at h
    subst h
    rfl
  | cons m ms ih =>
    unfold operations at h
    rw [bind_eq_ok_iff] at h
    rcases h with ⟨o, ho, h⟩
    rw [bind_eq_ok_iff] at h
    rcases h with ⟨rest, hrest, h⟩
    simp only [Except.ok.injEq] at h
    subst h
    -- A member without an operation adds nothing on either side.
    rw [List.filterMap_append, ih hrest, List.filterMap_cons, ← hfg (writes_of_operation? ho)]
    cases o with
    | none => rfl
    | some o => cases hf : f o with
      | none => simp [hf]
      | some a => simp [hf]

/-- The function that a member is in the implementation of the marker. -/
def markerFunction? : Member → Option Function
  | .isInitialized => some flagReader
  | .setInitialized => some flagWriter
  | _ => none

theorem marker?_of_writes {m : Member} {o : Option Operation} (h : Writes m o)
    : o.bind Operation.marker? = markerFunction? m := by
  cases h with
  | flag => rfl
  | isInitialized => rfl
  | setInitialized => rfl
  | getter method type h => rfl
  | setter method type h => rfl

theorem filterMap_marker?_operations {os : List Operation} (h : operations c c.members = .ok os)
    (hmembers : c.members.filter (!·.isAccessor) = [.flag, .isInitialized, .setInitialized])
    : os.filterMap Operation.marker? = [flagReader, flagWriter] := by
  have hother : c.members.filterMap markerFunction?
      = (c.members.filter (!·.isAccessor)).filterMap markerFunction? := by
    rw [List.filterMap_filter]
    congr 1
    funext m
    cases m with
    | _ => rfl
  rw [filterMap_operations marker?_of_writes h, hother, hmembers]
  rfl

theorem items_eq_ok_iff {visibility : Visibility} {is : List Item}
    : items c visibility = .ok is
        ↔
      ∃ name base marker os, identifier c.name = .ok name ∧ path c.base = .ok base
        ∧
      path c.marker = .ok marker ∧ operations c c.members = .ok os
        ∧
      is =
        [structItem c visibility name base,
          inherentItem name base (os.filterMap Operation.accessor?), conversionItem name base,
          derefItem name base, derefMutItem name,
          markerItem name marker (os.filterMap Operation.marker?)] := by
  unfold items
  simp only [bind_eq_ok_iff, Except.ok.injEq]
  constructor
  . rintro ⟨name, hname, base, hbase, marker, hmarker, os, hos, h⟩
    exact ⟨name, base, marker, os, hname, hbase, hmarker, hos, h.symm⟩
  . rintro ⟨name, base, marker, os, hname, hbase, hmarker, hos, h⟩
    exact ⟨name, hname, base, hbase, marker, hmarker, os, hos, h.symm⟩

end LazyProxy.Rust
