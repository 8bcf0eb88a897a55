import LazyProxy.Manifest.Decode
import LazyProxy.Proofs.Json.ReadBack

/-!
This module contains that a manifest survives being written. Whatever text is read as the JSON of a
manifest declares exactly that manifest, every entry in the form that it had.
-/

namespace LazyProxy

open Json

section Decoding

variable {node : Node}

theorem decodeText_eq_ok {s : String} (h : node.Holds (.string s)) : decodeText node = .ok s := by
  rcases h.exists_string with ⟨after, rfl⟩
  rfl

theorem decodeOptional_eq_ok {s : String} (h : node.Holds (.string s))
    : decodeOptional node = .ok (some s) := by
  rcases h.exists_string with ⟨after, rfl⟩
  rfl

variable {α : Type} {decode : Element → Decoded α} {toJson : α → Json} {as : List α}

theorem decodeElements_eq_ok
    (h : ∀ a ∈ as, ∀ node closing, node.Holds (toJson a) → decode (.mk node closing) = .ok a)
    {elems : List Element} (helems : Element.AllHold elems (as.map toJson)) {ending : Ending}
    (hending : ending.fault? = none)
    : decodeElements decode ending elems = .ok as := by
  induction as generalizing elems with
  | nil =>
    rw [helems.eq_nil, decodeElements, hending]
    rfl
  | cons a as ih =>
    rw [List.forall_mem_cons] at h
    rcases helems.exists_cons with ⟨node, closing, rest, rfl, hnode, hrest⟩
    rw [decodeElements, h.left node closing hnode, ih h.right hrest]
    rfl

theorem decodeList_eq_ok
    (h : ∀ a ∈ as, ∀ node closing, node.Holds (toJson a) → decode (.mk node closing) = .ok a)
    (hnode : node.Holds (.array (as.map toJson)))
    : decodeList decode node = .ok as := by
  rcases hnode.exists_elements with ⟨start, elems, ending, rfl, hending, helems⟩
  exact decodeElements_eq_ok h helems hending

end Decoding

namespace PropertyEntry

variable {node : Node} {p : PropertyEntry}

/-- A name stays a name, and an object without a type stays one. -/
theorem propertyEntry?_eq_some (h : node.Holds p.toJson) : propertyEntry? node = some p := by
  cases p with
  | name s =>
    rcases h.exists_string with ⟨after, rfl⟩
    rfl
  | typed s type =>
    cases type with
    | none =>
      rcases h.exists_fields with ⟨start, fields, ending, rfl, -, hfields⟩
      rcases hfields.exists_cons with ⟨after, name, rest, rfl, hname, hrest⟩
      rcases hname.exists_string with ⟨after, rfl⟩
      rw [hrest.eq_nil]
      rfl
    | some type =>
      rcases h.exists_fields with ⟨start, fields, ending, rfl, -, hfields⟩
      rcases hfields.exists_cons with ⟨after, name, rest, rfl, hname, hrest⟩
      rcases hname.exists_string with ⟨after, rfl⟩
      rcases hrest.exists_cons with ⟨after, value, rest, rfl, hvalue, hend⟩
      rcases hvalue.exists_string with ⟨after, rfl⟩
      rw [hend.eq_nil]
      rfl

theorem decodeProperty_eq_ok (h : node.Holds p.toJson) (closing : Closing)
    : decodeProperty (.mk node closing) = .ok p := by
  have hfault := Node.fault?_eq_none_of_isFaultless h.isFaultless
  rw [decodeProperty, hfault, propertyEntry?_eq_some h]
  rfl

theorem isPlain_toJson (p : PropertyEntry) : IsPlain 1 p.toJson := by
  cases p with
  | name s => exact .string 1 s
  | typed s type =>
    cases type with
    | none => exact .object (by simp [IsPlain.string])
    | some type => exact .object (by simp [IsPlain.string])

end PropertyEntry

theorem isPlain_array_map {α : Type} {toJson : α → Json} {n : Nat} (h : ∀ a, IsPlain n (toJson a))
    (as : List α)
    : IsPlain (n + 1) (.array (as.map toJson)) := by
  apply IsPlain.array
  intro j hj
  rcases List.mem_map.mp hj with ⟨a, -, rfl⟩
  exact h a

namespace TypeEntry

/-- The properties and the methods are taken into what has been read before them. -/
theorem addAll_lists {e : PartialEntry} (hproperties : e.properties = none)
    (hmethods : e.methods = none) {properties : List PropertyEntry} {methods : List String}
    {fields : List Field}
    (h : Field.AllHold fields [("properties", .array (properties.map PropertyEntry.toJson)),
      ("methods", .array (methods.map .string))])
    : e.addAll fields = .ok { e with properties := some properties, methods := some methods } := by
  rcases h.exists_cons with ⟨_, listed, rest, rfl, hlisted, hrest⟩
  rcases hrest.exists_cons with ⟨_, named, rest, rfl, hnamed, hend⟩
  have hlisted : decodeList decodeProperty listed = .ok properties :=
    decodeList_eq_ok (fun _ _ _ closing hp => PropertyEntry.decodeProperty_eq_ok hp closing) hlisted
  have hnamed : decodeList decodeMethod named = .ok methods :=
    decodeList_eq_ok (fun _ _ _ _ => decodeText_eq_ok) hnamed
  rw [hend.eq_nil]
  simp [PartialEntry.addAll, PartialEntry.add, hproperties, hmethods, hlisted, hnamed, bind,
    Except.bind, Except.map]

theorem decodeEntry_eq_ok {node : Node} {e : TypeEntry} (h : node.Holds e.toJson) (closing : Closing)
    : decodeEntry (.mk node closing) = .ok e := by
  rcases e with ⟨name, parent, properties, methods⟩
  rcases h.exists_fields with ⟨start, fields, ending, rfl, hending, hfields⟩
  rcases hfields.exists_cons with ⟨_, value, rest, rfl, hname, hrest⟩
  have hname := decodeText_eq_ok hname
  cases ending with
  | faulty f => contradiction
  | closed behind =>
    cases parent with
    | none =>
      have hadd := addAll_lists (e := { name := some name }) rfl rfl hrest
      simp [decodeEntry, decodeEntryFields, PartialEntry.addAll, PartialEntry.add, placeBehind, hname,
        hadd, bind, Except.bind, Except.map]
    | some parent =>
      rcases hrest.exists_cons with ⟨_, value, rest, rfl, hparent, hlists⟩
      have hparent := decodeOptional_eq_ok hparent
      have hadd := addAll_lists (e := { name := some name, parent := some (some parent) }) rfl rfl hlists
      simp [decodeEntry, decodeEntryFields, PartialEntry.addAll, PartialEntry.add, placeBehind, hname,
        hparent, hadd, bind, Except.bind, Except.map]

theorem isPlain_toJson (e : TypeEntry) : IsPlain 3 e.toJson := by
  apply IsPlain.object
  intro f hf
  simp only [List.mem_append, List.mem_cons, List.not_mem_nil, or_false] at hf
  rcases hf with (rfl | hf) | rfl | rfl
  . exact .string 2 e.name
  . cases hparent : e.parent with
    | none => simp [hparent] at hf
    | some parent =>
      simp only [hparent, List.mem_singleton] at hf
      rw [hf]
      exact .string 2 parent
  . exact isPlain_array_map PropertyEntry.isPlain_toJson e.properties
  . exact isPlain_array_map (.string 1) e.methods

end TypeEntry

namespace Manifest

variable {m : Manifest}

theorem ofNode_eq_ok {node : Node} (h : node.Holds m.toJson) : ofNode node = .ok m := by
  rcases h.exists_fields with ⟨start, fields, ending, rfl, hending, hfields⟩
  rcases hfields.exists_cons with ⟨_, value, rest, rfl, htypes, hrest⟩
  have htypes : decodeList decodeEntry value = .ok m.types :=
    decodeList_eq_ok (fun _ _ _ closing he => TypeEntry.decodeEntry_eq_ok he closing) htypes
  rw [hrest.eq_nil]
  simp [ofNode, decodeTypes, noFault, hending, htypes, bind, Except.bind]

theorem ofDocument_eq_ok {d : Document} (h : d.Holds m.toJson) : ofDocument d = .ok m := by
  rw [ofDocument, ofNode_eq_ok h.root, h.trailing]
  rfl

theorem ofText_eq_ok {text : String} (h : (Document.ofText text.toList).Holds m.toJson)
    : ofText text = .ok m := by
  rw [ofText, ofDocument_eq_ok h]
  rfl

theorem isPlain_toJson (m : Manifest) : IsPlain 5 m.toJson := by
  apply IsPlain.object
  simp only [List.mem_singleton, forall_eq]
  exact isPlain_array_map TypeEntry.isPlain_toJson m.types

/-- The JSON of a manifest is read as the manifest, and the text that it is written as is read as this
JSON. So the manifest that a text declares may be written and read any number of times, by whatever
keeps the JSON. -/
theorem round_trip (m : Manifest)
    : (∀ d : Document, d.Holds m.toJson → ofDocument d = .ok m)
        ∧
      (Document.ofText m.toJson.text.toList).Holds m.toJson
        ∧
      ofText m.toJson.text = .ok m
        ∧
      ∀ text written : String, ofText text = .ok m →
        (Document.ofText written.toList).Holds m.toJson →
        ofText written = .ok m ∧ registryOfText written = registryOfText text := by
  have hholds := holds_ofText (isPlain_toJson m) (by decide)
  refine ⟨fun d => ofDocument_eq_ok, hholds, ofText_eq_ok hholds, ?_⟩
  intro text written htext hwritten
  have hread := ofText_eq_ok hwritten
  exact ⟨hread, by rw [registryOfText, registryOfText, hread, htext]⟩

/-- A manifest in which all is written as an array that may be. -/
def notesText : String :=
  "[[[\"Note\",null,[\"title\",\x7b\"name\":\"tag\",\"type\":null\x7d]]]]"

def notes : Manifest where
  types := [{ name := "Note", properties := [.name "title", .typed "tag" none] }]

theorem ofText_notesText : ofText notesText = .ok notes := by
  have hdocument : ofDocument (Document.ofText notesText.toList) = .ok notes := by cbv
  rw [ofText, hdocument]
  rfl

/-- What comes back is written with names throughout. -/
theorem round_trip_notes
    : ofText notesText = .ok notes
        ∧
      notes.toJson.text
        = "\x7b\"types\":[\x7b\"name\":\"Note\",\"properties\":[\"title\",\x7b\"name\":\"tag\"\x7d],"
          ++ "\"methods\":[]\x7d]\x7d"
        ∧
      ofText notes.toJson.text = .ok notes
        ∧
      registryOfText notes.toJson.text = registryOfText notesText := by
  have hholds : (Document.ofText notes.toJson.text.toList).Holds notes.toJson :=
    holds_ofText (isPlain_toJson notes) (by decide)
  rcases round_trip notes with ⟨-, -, hread, hagain⟩
  have hsame := (hagain notesText notes.toJson.text ofText_notesText hholds).right
  exact ⟨ofText_notesText, by decide, hread, hsame⟩

end Manifest

end LazyProxy
