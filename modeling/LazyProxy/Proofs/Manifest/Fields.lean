import LazyProxy.Manifest.Decode
import LazyProxy.Proofs.Outcome
import Mathlib.Data.List.Forall2

/-!
This module contains which fields the objects of a manifest may have. A manifest and its types have
no fields but their own. A property has a name and maybe a type, and is read as if it had no other
fields.
-/

namespace LazyProxy

open List (Forall₂)

namespace Json

/-- The names of the fields of an object. -/
def fieldNames : Json → List String
  | .object fields => fields.map Prod.fst
  | _ => []

/-- The values of the fields of a name. -/
def valuesOf (name : String) (fields : List (String × Json)) : List Json :=
  (fields.filter (·.1 = name)).map Prod.snd

/-- What a record holds under a name: the first field of the name in an object, the value at its place
in an array. -/
def part? (names : List String) (name : String) : Json → Option Json
  | .object fields => fields.lookup name
  | .array elems => elems[names.idxOf name]?
  | _ => none

/-- The elements of the array that a record holds under a name. -/
def listAt (names : List String) (name : String) (j : Json) : List Json :=
  match j.part? names name with
  | some (.array elems) => elems
  | _ => []

/-- The values of the types in a manifest. -/
def typeValues (j : Json) : List Json :=
  j.listAt Schema.manifest.fields "types"

/-- The values of the properties in a type. -/
def propertyValues (j : Json) : List Json :=
  j.listAt Schema.typeEntry.fields "properties"

/-- The names of the fields that a property is made of. -/
def propertyFields : List String :=
  ["name", "type"]

/-- The property that a value is. Only fields of these two names count. -/
def property? : Json → Option PropertyEntry
  | .string s => some (.name s)
  | .object fields =>
    match valuesOf "name" fields, valuesOf "type" fields with
    | [.string name], [] => some (.typed name none)
    | [.string name], [.null] => some (.typed name none)
    | [.string name], [.string type] => some (.typed name (some type))
    | _, _ => none
  | _ => none

/-- Whether a value is a type: it has no fields but those of one, and the same properties. -/
structure IsTypeEntry (j : Json) (e : TypeEntry) : Prop where
  fields : ∀ name ∈ j.fieldNames, name ∈ Schema.typeEntry.fields
  properties : Forall₂ (fun value p => value.property? = some p) j.propertyValues e.properties

/-- Whether a value is a manifest: it has no fields but those of one, and the same types. -/
structure IsManifest (j : Json) (m : Manifest) : Prop where
  fields : ∀ name ∈ j.fieldNames, name ∈ Schema.manifest.fields
  types : Forall₂ IsTypeEntry j.typeValues m.types

theorem Element.values_eq_map (elems : List Element)
    : Element.values elems = elems.map fun | .mk node _ => node.value := by
  induction elems with
  | nil => rfl
  | cons e es ih =>
    rcases e with ⟨node, closing⟩
    rw [Element.values, ih]
    rfl

theorem Field.values_eq_map (fields : List Field)
    : Field.values fields = fields.map fun | .mk name _ value => (name, value.value) := by
  induction fields with
  | nil => rfl
  | cons f fs ih =>
    rcases f with ⟨name, after, value⟩
    rw [Field.values, ih]
    rfl

def Field.name : Field → String
  | .mk name _ _ => name

theorem fieldNames_value_object (start : Place) (fields : List Field) (ending : Ending)
    : (Node.object start fields ending).value.fieldNames = fields.map Field.name := by
  rw [Node.value, fieldNames, Field.values_eq_map, List.map_map]
  exact List.map_congr_left fun ⟨name, after, value⟩ _ => rfl

end Json

open Json

theorem wrongKind_ne_ok {α : Type} {expected : Schema} {node : Node} {a : α}
    : wrongKind expected node ≠ .ok a := by
  cases node <;> exact nofun

section Lists

variable {α : Type} {decode : Element → Decoded α} {as : List α}

/-- What a record holds under a name, or nothing, is read as a list. -/
def ReadsPart (decode : Element → Decoded α) : Option Json → List α → Prop
  | none, as => as = []
  | some j, as => ∃ node : Node, node.value = j ∧ decodeList decode node = .ok as

theorem forall₂_of_decodeElements {ending : Ending} {elems : List Element}
    (h : decodeElements decode ending elems = .ok as)
    : Forall₂ (fun e a => decode e = .ok a) elems as := by
  induction elems generalizing as with
  | nil =>
    rw [decodeElements, map_eq_ok_iff] at h
    rcases h with ⟨-, -, rfl⟩
    exact .nil
  | cons e es ih =>
    rw [decodeElements, bind_eq_ok_iff] at h
    rcases h with ⟨a, ha, h⟩
    rw [bind_eq_ok_iff] at h
    rcases h with ⟨others, hothers, h⟩
    rw [Except.ok.injEq] at h
    rw [← h]
    exact .cons ha (ih hothers)

/-- Each element of a list that is read has been read by itself. -/
theorem forall₂_of_readsPart {names : List String} {name : String} {j : Json}
    (h : ReadsPart decode (j.part? names name) as)
    : Forall₂ (fun j a => ∃ node closing, node.value = j ∧ decode (.mk node closing) = .ok a)
        (j.listAt names name) as := by
  unfold listAt
  cases hpart : j.part? names name with
  | none =>
    rw [hpart] at h
    rw [show as = [] from h]
    exact .nil
  | some part =>
    rw [hpart] at h
    rcases h with ⟨node, rfl, hread⟩
    unfold decodeList at hread
    split at hread
    . next elems ending =>
      rw [Node.value, Element.values_eq_map]
      apply List.forall₂_map_left_iff.mpr
      refine (forall₂_of_decodeElements hread).imp ?_
      rintro ⟨node, closing⟩ a ha
      exact ⟨node, closing, rfl, ha⟩
    . exact absurd hread wrongKind_ne_ok

end Lists

section Properties

variable {name : String} {fields : List Field}

/-- The value of a field, if it has the name. -/
def Json.Field.valueFor? (name : String) : Field → Option Node
  | .mk n _ value => if n = name then some value else none

theorem theField?_eq (name : String) (fields : List Field)
    : theField? name fields
        =
      match fields.filterMap (Field.valueFor? name) with
      | [] => some none
      | [value] => some (some value)
      | _ => none :=
  rfl

theorem valuesOf_values (name : String) (fields : List Field)
    : valuesOf name (Field.values fields)
        =
      (fields.filterMap (Field.valueFor? name)).map Node.value := by
  induction fields with
  | nil => rfl
  | cons f fs ih =>
    rcases f with ⟨n, after, value⟩
    rw [valuesOf] at ih
    by_cases hn : n = name
    . simp [valuesOf, Field.values, Field.valueFor?, hn, ih]
    . simp [valuesOf, Field.values, Field.valueFor?, hn, ih]

theorem valuesOf_eq_nil (h : theField? name fields = some none)
    : valuesOf name (Field.values fields) = [] := by
  rw [valuesOf_values]
  rw [theField?_eq] at h
  split at h
  . next hnone => rw [hnone, List.map_nil]
  . simp at h
  . contradiction

theorem valuesOf_eq_singleton {node : Node} (h : theField? name fields = some (some node))
    : valuesOf name (Field.values fields) = [node.value] := by
  rw [valuesOf_values]
  rw [theField?_eq] at h
  split at h
  . simp at h
  . next value hvalue =>
    rw [Option.some.injEq, Option.some.injEq] at h
    rw [hvalue, h, List.map_singleton]
  . contradiction

variable {node : Node} {p : PropertyEntry}

theorem property?_of_propertyEntry? (h : propertyEntry? node = some p)
    : node.value.property? = some p := by
  unfold propertyEntry? at h
  split at h
  . exact h
  . rw [Node.value, property?]
    split at h
    . next hname htype =>
      rw [valuesOf_eq_singleton hname, valuesOf_eq_nil htype]
      exact h
    . next hname htype =>
      rw [valuesOf_eq_singleton hname, valuesOf_eq_singleton htype]
      exact h
    . next hname htype =>
      rw [valuesOf_eq_singleton hname, valuesOf_eq_singleton htype]
      exact h
    . contradiction
  . contradiction

theorem property?_of_decodeProperty {closing : Closing}
    (h : decodeProperty (.mk node closing) = .ok p)
    : node.value.property? = some p := by
  rw [decodeProperty, bind_eq_ok_iff] at h
  rcases h with ⟨-, -, h⟩
  split at h
  . next hentry =>
    rw [Except.ok.injEq] at h
    rw [← h]
    exact property?_of_propertyEntry? hentry
  . contradiction

end Properties

section Types

namespace PartialEntry

variable {e e' : PartialEntry} {fields : List Field}

/-- A field that has been taken is one of a type. Properties are taken once. -/
theorem add_eq_ok {name : String} {after : Place} {value : Node}
    (h : e.add (.mk name after value) = .ok e')
    : name ∈ Schema.typeEntry.fields
        ∧
      if name = "properties" then
        e.properties = none
          ∧ ∃ ps, decodeList decodeProperty value = .ok ps ∧ e'.properties = some ps
      else e'.properties = e.properties := by
  unfold add at h
  dsimp only at h
  split at h
  . split at h
    . contradiction
    . rcases map_eq_ok_iff.mp h with ⟨s, -, rfl⟩
      exact ⟨by decide, rfl⟩
  . split at h
    . contradiction
    . rcases map_eq_ok_iff.mp h with ⟨s, -, rfl⟩
      exact ⟨by decide, rfl⟩
  . split at h
    . contradiction
    . next hnone =>
      rcases map_eq_ok_iff.mp h with ⟨ps, hps, rfl⟩
      rw [if_pos rfl]
      exact ⟨by decide, Option.not_isSome_iff_eq_none.mp hnone, ps, hps, rfl⟩
  . split at h
    . contradiction
    . rcases map_eq_ok_iff.mp h with ⟨ms, -, rfl⟩
      exact ⟨by decide, rfl⟩
  . contradiction

theorem name_mem_of_addAll (h : e.addAll fields = .ok e')
    : ∀ f ∈ fields, f.name ∈ Schema.typeEntry.fields := by
  induction fields generalizing e with
  | nil => exact List.forall_mem_nil _
  | cons f fs ih =>
    rcases f with ⟨name, after, value⟩
    rw [addAll, bind_eq_ok_iff] at h
    rcases h with ⟨next, hnext, h⟩
    exact List.forall_mem_cons.mpr ⟨(add_eq_ok hnext).left, ih h⟩

theorem properties_addAll_of_eq_some {ps : List PropertyEntry} (h : e.addAll fields = .ok e')
    (hps : e.properties = some ps)
    : e'.properties = some ps := by
  induction fields generalizing e with
  | nil => rwa [← Except.ok.inj h]
  | cons f fs ih =>
    rcases f with ⟨name, after, value⟩
    rw [addAll, bind_eq_ok_iff] at h
    rcases h with ⟨next, hnext, h⟩
    have hproperties := (add_eq_ok hnext).right
    split at hproperties
    . rw [hproperties.left] at hps
      contradiction
    . exact ih h (hproperties.trans hps)

theorem readsPart_addAll (h : e.addAll fields = .ok e') (hnone : e.properties = none)
    : ReadsPart decodeProperty ((Field.values fields).lookup "properties")
        (e'.properties.getD []) := by
  induction fields generalizing e with
  | nil =>
    rw [← Except.ok.inj h, hnone]
    rfl
  | cons f fs ih =>
    rcases f with ⟨name, after, value⟩
    rw [addAll, bind_eq_ok_iff] at h
    rcases h with ⟨next, hnext, h⟩
    have hproperties := (add_eq_ok hnext).right
    rw [Field.values, List.lookup_cons]
    split at hproperties
    . next hname =>
      rcases hproperties with ⟨-, ps, hps, hset⟩
      rw [hname, beq_self_eq_true, properties_addAll_of_eq_some h hset]
      exact ⟨value, rfl, hps⟩
    . next hname =>
      rw [beq_false_of_ne (Ne.symm hname)]
      exact ih h (hproperties.trans hnone)

end PartialEntry

variable {node : Node} {closing : Closing} {e : TypeEntry}

theorem readsPart_decodeEntryFields {fields : List Field} {ending : Ending}
    (h : decodeEntryFields fields ending = .ok e)
    : (∀ f ∈ fields, f.name ∈ Schema.typeEntry.fields)
        ∧
      ReadsPart decodeProperty ((Field.values fields).lookup "properties") e.properties := by
  rw [decodeEntryFields, bind_eq_ok_iff] at h
  rcases h with ⟨e', hadd, h⟩
  rw [bind_eq_ok_iff] at h
  rcases h with ⟨after, -, h⟩
  split at h
  . contradiction
  . rw [Except.ok.injEq] at h
    rw [← h]
    exact ⟨PartialEntry.name_mem_of_addAll hadd, PartialEntry.readsPart_addAll hadd rfl⟩

/-- The third element of an array is read as the properties. -/
theorem readsPart_decodeEntryElements {elems : List Element} {ending : Ending}
    (h : decodeEntryElements elems ending = .ok e)
    : ReadsPart decodeProperty (Element.values elems)[2]? e.properties := by
  match elems with
  | [] =>
    rcases bind_eq_ok_iff.mp h with ⟨after, -, h⟩
    contradiction
  | [.mk name _] =>
    rw [decodeEntryElements, bind_eq_ok_iff] at h
    rcases h with ⟨s, -, h⟩
    rcases map_eq_ok_iff.mp h with ⟨-, -, rfl⟩
    rfl
  | [.mk name _, .mk parent _] =>
    rw [decodeEntryElements, bind_eq_ok_iff] at h
    rcases h with ⟨s, -, h⟩
    rw [bind_eq_ok_iff] at h
    rcases h with ⟨parent, -, h⟩
    rcases map_eq_ok_iff.mp h with ⟨-, -, rfl⟩
    rfl
  | .mk name _ :: .mk parent _ :: .mk list _ :: elems =>
    rw [decodeEntryElements, bind_eq_ok_iff] at h
    rcases h with ⟨s, -, h⟩
    rw [bind_eq_ok_iff] at h
    rcases h with ⟨parent, -, h⟩
    rw [bind_eq_ok_iff] at h
    rcases h with ⟨ps, hps, h⟩
    refine ⟨list, rfl, ?_⟩
    split at h
    . rcases map_eq_ok_iff.mp h with ⟨-, -, rfl⟩
      exact hps
    . rw [bind_eq_ok_iff] at h
      rcases h with ⟨ms, -, h⟩
      rw [bind_eq_ok_iff] at h
      rcases h with ⟨-, -, h⟩
      rw [← Except.ok.inj h]
      exact hps

theorem isTypeEntry_of_decodeEntry (h : decodeEntry (.mk node closing) = .ok e)
    : node.value.IsTypeEntry e := by
  unfold decodeEntry at h
  dsimp only at h
  have hpart : (∀ name ∈ node.value.fieldNames, name ∈ Schema.typeEntry.fields)
      ∧ ReadsPart decodeProperty (node.value.part? Schema.typeEntry.fields "properties")
        e.properties := by
    split at h
    . next start fields ending =>
      rw [fieldNames_value_object, List.forall_mem_map]
      exact readsPart_decodeEntryFields h
    . next start elems ending =>
      have hindex : Schema.typeEntry.fields.idxOf "properties" = 2 := by decide
      rw [Node.value, part?, hindex]
      exact ⟨List.forall_mem_nil _, readsPart_decodeEntryElements h⟩
    . exact absurd h wrongKind_ne_ok
  constructor
  . exact hpart.left
  . refine (forall₂_of_readsPart hpart.right).imp ?_
    rintro j p ⟨n, closing, rfl, hp⟩
    exact property?_of_decodeProperty hp

end Types

section Manifests

/-- What is read from the fields of a manifest: nothing if there are none, else the types in the only
one. -/
theorem decodeTypes_eq_ok {fields : List Field} {read : Option (List TypeEntry)}
    (h : decodeTypes none fields = .ok read)
    : (fields = [] ∧ read = none)
        ∨
      ∃ after list es, fields = [.mk "types" after list] ∧ decodeList decodeEntry list = .ok es
        ∧ read = some es := by
  cases fields with
  | nil => exact Or.inl ⟨rfl, (Except.ok.inj h).symm⟩
  | cons f fs =>
    rcases f with ⟨name, after, list⟩
    rw [decodeTypes] at h
    split at h
    . contradiction
    . next hname =>
      rw [if_neg (by simp), bind_eq_ok_iff] at h
      rcases h with ⟨es, hes, h⟩
      cases fs with
      | nil =>
        rw [Decidable.not_not.mp hname]
        exact Or.inr ⟨after, list, es, rfl, hes, (Except.ok.inj h).symm⟩
      | cons g gs =>
        -- A second field is unknown or the types again.
        rcases g with ⟨name, after, list⟩
        rw [decodeTypes] at h
        split at h
        . contradiction
        . contradiction

namespace Manifest

variable {node : Node} {m : Manifest}

theorem readsPart_ofNode (h : ofNode node = .ok m)
    : (∀ name ∈ node.value.fieldNames, name ∈ Schema.manifest.fields)
        ∧
      ReadsPart decodeEntry (node.value.part? Schema.manifest.fields "types") m.types := by
  unfold ofNode at h
  split at h
  . next start fields ending =>
    rw [bind_eq_ok_iff] at h
    rcases h with ⟨types, htypes, h⟩
    rw [bind_eq_ok_iff] at h
    rcases h with ⟨-, -, h⟩
    rw [fieldNames_value_object, List.forall_mem_map, ← Except.ok.inj h]
    rcases decodeTypes_eq_ok htypes with ⟨rfl, rfl⟩ | ⟨after, list, es, rfl, hes, rfl⟩
    . exact ⟨List.forall_mem_nil _, rfl⟩
    . exact ⟨List.forall_mem_singleton.mpr (List.mem_singleton.mpr rfl), list, rfl, hes⟩
  . rcases map_eq_ok_iff.mp h with ⟨-, -, rfl⟩
    exact ⟨List.forall_mem_nil _, rfl⟩
  . next start list closing elems ending =>
    have hindex : Schema.manifest.fields.idxOf "types" = 0 := by decide
    rw [bind_eq_ok_iff] at h
    rcases h with ⟨es, hes, h⟩
    rw [bind_eq_ok_iff] at h
    rcases h with ⟨-, -, h⟩
    rw [Node.value, part?, hindex, ← Except.ok.inj h]
    exact ⟨List.forall_mem_nil _, list, rfl, hes⟩
  . exact absurd h wrongKind_ne_ok

theorem isManifest_of_ofNode (h : ofNode node = .ok m) : node.value.IsManifest m := by
  have hpart := readsPart_ofNode h
  constructor
  . exact hpart.left
  . refine (forall₂_of_readsPart hpart.right).imp ?_
    rintro j e ⟨n, closing, rfl, he⟩
    exact isTypeEntry_of_decodeEntry he

/-- What is read as a manifest has fields of manifests and types only. What else a property has does
not count. -/
theorem fields_of_ofText (text : String) (m : Manifest) (h : ofText text = .ok m)
    : (Document.ofText text.toList).root.value.IsManifest m := by
  rw [ofText, mapError_eq_ok_iff, ofDocument, bind_eq_ok_iff] at h
  rcases h with ⟨read, hread, h⟩
  rw [bind_eq_ok_iff] at h
  rcases h with ⟨-, -, h⟩
  rw [← Except.ok.inj h]
  exact isManifest_of_ofNode hread

/-- A manifest in which the type of a property is misspelled. -/
def misspelledText : String :=
  "\x7b\"types\":[\x7b\"name\":\"Note\",\"properties\":[" ++
    "\x7b\"name\":\"tag\",\"typ\":\"String\"\x7d]\x7d]\x7d"

def misspelledValue : Json :=
  .object [("types", .array [.object [("name", .string "Note"),
    ("properties", .array [.object [("name", .string "tag"), ("typ", .string "String")]])]])]

theorem value_misspelledText
    : (Document.ofText misspelledText.toList).root.value = misspelledValue := by
  cbv

def untyped : Manifest where
  types := [{ name := "Note", properties := [.typed "tag" none] }]

theorem ofText_misspelledText : ofText misspelledText = .ok untyped := by
  have hdocument : ofDocument (Document.ofText misspelledText.toList) = .ok untyped := by cbv
  rw [ofText, hdocument]
  rfl

theorem fields_of_ofText_misspelled
    : ofText misspelledText = .ok untyped
        ∧
      (Document.ofText misspelledText.toList).root.value.IsManifest untyped :=
  ⟨ofText_misspelledText, fields_of_ofText _ _ ofText_misspelledText⟩

/-- The property has lost its type. -/
theorem misspelled_type_dropped
    : ¬ ∀ text m, ofText text = .ok m →
        ∀ e ∈ (Document.ofText text.toList).root.value.typeValues,
          ∀ p ∈ e.propertyValues, ∀ name ∈ p.fieldNames, name ∈ propertyFields := by
  intro h
  have hknown := h misspelledText untyped ofText_misspelledText
  rw [value_misspelledText] at hknown
  have hentry : .object [("name", .string "Note"),
      ("properties", .array [.object [("name", .string "tag"), ("typ", .string "String")]])]
        ∈ misspelledValue.typeValues :=
    List.mem_singleton.mpr rfl
  have hproperty := hknown _ hentry _ (List.mem_singleton.mpr rfl) "typ"
  exact absurd (hproperty (by decide)) (by decide)

end Manifest

end Manifests

end LazyProxy
