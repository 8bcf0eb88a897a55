import LazyProxy.Proofs.Proxy.Members
import LazyProxy.Proofs.Target.RustItems

/-!
This module contains a reader for the items of a proxy in Rust. It tells from the body of a function
which member of a proxy the function is.
-/

namespace LazyProxy.Rust

open Code

def varOf? : Expr → Option Ident
  | .path p => p.ident?
  | _ => none

/-- The field of the object that an expression is. -/
def selfField? : Expr → Option Ident
  | .field e i => if varOf? e = some (plain "self") then some i else none
  | _ => none

/-- The field of the object's document that an expression is. -/
def documentField? : Expr → Option Ident
  | .field e i => if selfField? e = some baseField then some i else none
  | _ => none

/-- The member that a function without parameters is, by what it gives. -/
def readerOf? (name : Ident) : Expr → Option Member
  | .borrow false e => (documentField? e).map fun i => .getter name.name ⟨i.name, none⟩
  | e => if selfField? e = some flagField then some .isInitialized else none

/-- The member that a function with one parameter is, by what it assigns the parameter to. -/
def writerOf? (name : Ident) (target : Expr) : Option Member :=
  if selfField? target = some flagField then some .setInitialized
  else (documentField? target).map fun i => .setter name.name ⟨i.name, none⟩

/-- The member of a proxy that a function is. Its property has no type here. -/
def memberOf? (f : Function) : Option Member :=
  match f.signature.receiver, f.signature.params, f.body with
  | some (.borrowed false), [], some [.expr e false] => readerOf? f.signature.name e
  | some (.borrowed true), [(parameter, _)], some [.expr (.assign target value) true] =>
    if varOf? value = some parameter then writerOf? f.signature.name target else none
  | _, _, _ => none

def functionOf? : ImplMember → Option Function
  | .function f => some f
  | .type _ _ => none

/-- The functions of types' own. -/
def inherentFunctions (is : List Item) : List Function :=
  is.flatMap fun
    | .impl _ none _ members => members.filterMap functionOf?
    | _ => []

/-- The functions that traits ask for. -/
def traitFunctions (is : List Item) : List Function :=
  is.flatMap fun
    | .impl _ (some _) _ members => members.filterMap functionOf?
    | _ => []

def fields (is : List Item) : List FieldDef :=
  is.flatMap fun
    | .struct _ _ _ fields => fields
    | _ => []

/-- The value that the flag has in an object that a function makes. -/
def initialFlag? (f : Function) : Option Bool :=
  match f.body with
  | some [.expr (.record _ values) false] =>
    values.findSome? fun
      | .mk name (some (.bool value)) => if name = flagField then some value else none
      | _ => none
  | _ => none

/-- Items that declare the flag once and make no object in which it is not false. Of all functions,
one reads it and one sets it. -/
structure KeepsFlag (is : List Item) : Prop where
  field : ((fields is).filter (·.name = flagField)).length = 1
  initially : (inherentFunctions is ++ traitFunctions is).filterMap initialFlag? = [false]
  operations : ((inherentFunctions is ++ traitFunctions is).filterMap memberOf?).filter
      (!·.isAccessor)
    = [.isInitialized, .setInitialized]

theorem varOf?_varExpr (i : Ident) : varOf? (varExpr i) = some i := by
  rfl

theorem selfField?_selfField (i : Ident) : selfField? (selfField i) = some i := by
  have hself : varOf? selfExpr = some (plain "self") := varOf?_varExpr _
  rw [selfField, selfField?, hself, if_pos rfl]

theorem documentField?_field (i : Ident)
    : documentField? (.field (selfField baseField) i) = some i := by
  rw [documentField?, selfField?_selfField, if_pos rfl]

theorem selfField?_field (i : Ident) : selfField? (.field (selfField baseField) i) = none := by
  have hself : varOf? (selfField baseField) = none := rfl
  rw [selfField?, hself, if_neg (by decide)]

theorem memberOf?_getterFunction (name field : Ident) (type : Ty)
    : memberOf? (getterFunction name field type) = some (.getter name.name ⟨field.name, none⟩) := by
  simp only [memberOf?, getterFunction, readerOf?, documentField?_field, Option.map_some]

theorem memberOf?_setterFunction (name field : Ident) (type : Ty)
    : memberOf? (setterFunction name field type) = some (.setter name.name ⟨field.name, none⟩) := by
  simp only [memberOf?, setterFunction, varOf?_varExpr, if_true, writerOf?, selfField?_field,
    documentField?_field, Option.map_some]
  rfl

theorem memberOf?_flagReader : memberOf? flagReader = some .isInitialized := by
  simp only [memberOf?, flagReader, selfField, readerOf?]
  rw [← selfField, selfField?_selfField, if_pos rfl]

theorem memberOf?_flagWriter : memberOf? flagWriter = some .setInitialized := by
  simp only [memberOf?, flagWriter, varOf?_varExpr, if_true, writerOf?, selfField?_selfField]

theorem filterMap_functionOf?_map (fs : List Function)
    : (fs.map ImplMember.function).filterMap functionOf? = fs := by
  rw [List.filterMap_map]
  exact List.filterMap_some

variable {c : ProxyClass} {ms : List Member} {os : List Operation}

theorem map_memberOf?_operations (h : operations c ms = .ok os)
    : (os.filterMap Operation.accessor?).map memberOf?
        =
      (ms.filter Member.isAccessor).map fun m => some (m.withoutType.rename snakeCase) := by
  rw [List.map_filterMap, ← List.filterMap_eq_map, ← List.filterMap_eq_filter,
    List.filterMap_filterMap]
  refine filterMap_operations ?_ h
  intro m o hwrites
  cases hwrites with
  | flag => rfl
  | isInitialized => rfl
  | setInitialized => rfl
  | @getter p field method type h =>
    have hname := memberOf?_getterFunction (plain (snakeCase method)) field type
    rw [name_of_identifier h] at hname
    exact congrArg some hname
  | @setter p field method type h =>
    have hname := memberOf?_setterFunction (plain (snakeCase method)) field type
    rw [name_of_identifier h] at hname
    exact congrArg some hname

theorem isAccessor_of_memberOf?_eq_some (h : operations c ms = .ok os) {f : Function} {m : Member}
    (hf : f ∈ os.filterMap Operation.accessor?) (hm : memberOf? f = some m)
    : m.isAccessor := by
  have hmem : some m ∈ (os.filterMap Operation.accessor?).map memberOf? :=
    List.mem_map.mpr ⟨f, hf, hm⟩
  rw [map_memberOf?_operations h, List.mem_map] at hmem
  rcases hmem with ⟨n, hn, hnm⟩
  rw [Option.some.injEq] at hnm
  rw [← hnm, Member.isAccessor_rename, Member.isAccessor_withoutType]
  exact (List.mem_filter.mp hn).right

theorem filterMap_memberOf?_operations (h : operations c ms = .ok os)
    : (os.filterMap Operation.marker?).filterMap memberOf?
        =
      ms.filter fun m => m != .flag && !m.isAccessor := by
  rw [List.filterMap_filterMap, ← List.filterMap_eq_filter]
  refine filterMap_operations ?_ h
  intro m o hwrites
  cases hwrites with
  | flag => rfl
  | isInitialized => exact memberOf?_flagReader
  | setInitialized => exact memberOf?_flagWriter
  | getter method type h => rfl
  | setter method type h => rfl

theorem Writes.initialFlag?_eq_none {m : Member} {o : Option Operation} (h : Writes m o)
    : o.bind (fun o => o.accessor?.bind initialFlag?) = none
        ∧
      o.bind (fun o => o.marker?.bind initialFlag?) = none := by
  cases h with
  | flag => exact ⟨rfl, rfl⟩
  | isInitialized => exact ⟨rfl, rfl⟩
  | setInitialized => exact ⟨rfl, rfl⟩
  | getter method type h => exact ⟨rfl, rfl⟩
  | setter method type h => exact ⟨rfl, rfl⟩

theorem filterMap_initialFlag?_operations (h : operations c ms = .ok os)
    : (os.filterMap Operation.accessor?).filterMap initialFlag? = []
        ∧
      (os.filterMap Operation.marker?).filterMap initialFlag? = [] := by
  have hnone : ms.filterMap (fun _ => (none : Option Bool)) = [] := by simp
  rw [List.filterMap_filterMap, List.filterMap_filterMap, ← hnone]
  constructor
  . exact filterMap_operations (fun hwrites => hwrites.initialFlag?_eq_none.left) h
  . exact filterMap_operations (fun hwrites => hwrites.initialFlag?_eq_none.right) h

theorem inherentFunctions_items (visibility : Visibility) (name : Ident) (base marker : Path)
    (accessors operations : List Function)
    : inherentFunctions
        [structItem c visibility name base, inherentItem name base accessors,
          conversionItem name base, derefItem name base, derefMutItem name,
          markerItem name marker operations]
        =
      wrapFunction base :: unwrapFunction base :: accessors := by
  -- No other item has functions without a trait.
  have haccessors := filterMap_functionOf?_map (wrapFunction base :: unwrapFunction base :: accessors)
  exact (List.append_nil _).trans haccessors

theorem traitFunctions_items (visibility : Visibility) (name : Ident) (base marker : Path)
    (accessors operations : List Function)
    : traitFunctions
        [structItem c visibility name base, inherentItem name base accessors,
          conversionItem name base, derefItem name base, derefMutItem name,
          markerItem name marker operations]
        =
      traitFunctions [conversionItem name base, derefItem name base, derefMutItem name]
        ++ operations := by
  have hoperations := filterMap_functionOf?_map operations
  simp only [traitFunctions, structItem, inherentItem, conversionItem, derefItem, derefMutItem,
    markerItem, List.flatMap_cons, List.flatMap_nil, hoperations, List.nil_append, List.append_nil,
    List.append_assoc]

theorem conversions_eq_nil (name : Ident) (base : Path)
    : (traitFunctions [conversionItem name base, derefItem name base, derefMutItem name]).filterMap
        memberOf? = []
        ∧
      (traitFunctions [conversionItem name base, derefItem name base, derefMutItem name]).filterMap
        initialFlag? = [] := by
  constructor
  . rfl
  . rfl

theorem exists_accessors_of_items {visibility : Visibility} {is : List Item}
    (h : items c visibility = .ok is)
    : ∃ wrap unwrap accessors, inherentFunctions is = wrap :: unwrap :: accessors
        ∧
      wrap.signature.name = plain "new" ∧ unwrap.signature.name = plain "into_inner"
        ∧
      accessors.map memberOf? = c.accessors.map fun m => some (m.withoutType.rename snakeCase) := by
  rcases items_eq_ok_iff.mp h with ⟨name, base, marker, os, -, -, -, hos, rfl⟩
  refine ⟨wrapFunction base, unwrapFunction base, os.filterMap Operation.accessor?, ?_, rfl, rfl, ?_⟩
  . rw [inherentFunctions_items]
  . exact map_memberOf?_operations hos

theorem keepsFlag_items {visibility : Visibility} {is : List Item} (h : items c visibility = .ok is)
    (hmembers : c.members.filter (!·.isAccessor) = [.flag, .isInitialized, .setInitialized])
    : KeepsFlag is := by
  rcases items_eq_ok_iff.mp h with ⟨name, base, marker, os, -, -, -, hos, rfl⟩
  constructor
  . rfl
  . have hwrap : initialFlag? (wrapFunction base) = some false := by
      simp [initialFlag?, wrapFunction]
    have hunwrap : initialFlag? (unwrapFunction base) = none := rfl
    rcases filterMap_initialFlag?_operations hos with ⟨haccessors, hmarkers⟩
    rw [inherentFunctions_items, traitFunctions_items, List.filterMap_append, List.filterMap_append]
    rw [List.filterMap_cons, List.filterMap_cons, hwrap, hunwrap, haccessors, hmarkers]
    rw [(conversions_eq_nil name base).right]
    rfl
  . have hwrap : memberOf? (wrapFunction base) = none := rfl
    have hunwrap : memberOf? (unwrapFunction base) = none := rfl
    have haccessors : ((os.filterMap Operation.accessor?).filterMap memberOf?).filter
        (!·.isAccessor) = [] := by
      rw [List.filter_eq_nil_iff]
      intro m hm
      rcases List.mem_filterMap.mp hm with ⟨f, hf, hfm⟩
      simp [isAccessor_of_memberOf?_eq_some hos hf hfm]
    have hmarkers : ((os.filterMap Operation.marker?).filterMap memberOf?).filter (!·.isAccessor)
        = [.isInitialized, .setInitialized] := by
      rw [filterMap_memberOf?_operations hos, ← List.filter_filter, hmembers]
      rfl
    rw [inherentFunctions_items, traitFunctions_items, List.filterMap_append, List.filterMap_append]
    rw [List.filterMap_cons, List.filterMap_cons, hwrap, hunwrap, (conversions_eq_nil name base).left]
    rw [List.nil_append, List.filter_append, hmarkers]
    dsimp only
    rw [haccessors]
    rfl

end LazyProxy.Rust
