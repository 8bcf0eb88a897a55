import LazyProxy.Json.Reader
import LazyProxy.Json.Writer

/-!
This module contains that JSON values are read back from the text that they are written as. Values
with numbers are left out, and so are those whose arrays and objects enclose each other too deeply.
-/

namespace LazyProxy.Json

mutual

/-- Whether there is no fault in a value, wherever it may stand. -/
def Node.isFaultless : Node → Bool
  | .array _ elems ending => ending.fault?.isNone && Element.areFaultless elems
  | .object _ fields ending => ending.fault?.isNone && Field.areFaultless fields
  | .broken _ => false
  | _ => true

def Element.areFaultless : List Element → Bool
  | [] => true
  | .mk node _ :: es => node.isFaultless && Element.areFaultless es

def Field.areFaultless : List Field → Bool
  | [] => true
  | .mk _ _ value :: fs => value.isFaultless && Field.areFaultless fs

end

/-- A node without faults of the given value. -/
structure Node.Holds (node : Node) (j : Json) : Prop where
  isFaultless : node.isFaultless
  value : node.value = j

/-- Elements without faults of the given values. -/
structure Element.AllHold (elems : List Element) (js : List Json) : Prop where
  areFaultless : Element.areFaultless elems
  values : Element.values elems = js

/-- Fields without faults of the given names and values. -/
structure Field.AllHold (fields : List Field) (js : List (String × Json)) : Prop where
  areFaultless : Field.areFaultless fields
  values : Field.values fields = js

/-- A text without faults that is read as the given value. -/
structure Document.Holds (d : Document) (j : Json) : Prop where
  root : d.root.Holds j
  trailing : d.trailing = none

/-- A value without numbers of which at most `n` arrays and objects enclose each other. -/
inductive IsPlain : Nat → Json → Prop where
  | null (n : Nat) : IsPlain n .null
  | bool (n : Nat) (b : Bool) : IsPlain n (.bool b)
  | string (n : Nat) (s : String) : IsPlain n (.string s)
  | array {n : Nat} {elems : List Json} (h : ∀ e ∈ elems, IsPlain n e) : IsPlain (n + 1) (.array elems)
  | object {n : Nat} {fields : List (String × Json)} (h : ∀ f ∈ fields, IsPlain n f.2)
      : IsPlain (n + 1) (.object fields)

section Holds

variable {node : Node} {ending : Ending}

theorem Element.AllHold.cons {elems : List Element} {j : Json} {js : List Json}
    (h : AllHold elems js) (hnode : node.Holds j) (closing : Closing)
    : AllHold (.mk node closing :: elems) (j :: js) where
  areFaultless := by rw [Element.areFaultless, hnode.isFaultless, h.areFaultless, Bool.and_true]
  values := by rw [Element.values, hnode.value, h.values]

theorem Element.AllHold.exists_cons {elems : List Element} {j : Json} {js : List Json}
    (h : AllHold elems (j :: js))
    : ∃ node closing rest, elems = .mk node closing :: rest ∧ node.Holds j ∧ AllHold rest js := by
  rcases h with ⟨hfaultless, hvalues⟩
  cases elems with
  | nil => contradiction
  | cons e rest =>
    rcases e with ⟨node, closing⟩
    rw [Element.areFaultless, Bool.and_eq_true] at hfaultless
    rw [Element.values, List.cons.injEq] at hvalues
    exact ⟨node, closing, rest, rfl, ⟨hfaultless.left, hvalues.left⟩, hfaultless.right, hvalues.right⟩

theorem Element.AllHold.eq_nil {elems : List Element} (h : AllHold elems []) : elems = [] := by
  cases elems with
  | nil => rfl
  | cons e rest => exact absurd h.values (by rcases e; simp [Element.values])

theorem Field.AllHold.cons {fields : List Field} {j : Json} {js : List (String × Json)}
    (h : AllHold fields js) (name : String) (after : Place) (hnode : node.Holds j)
    : AllHold (.mk name after node :: fields) ((name, j) :: js) where
  areFaultless := by rw [Field.areFaultless, hnode.isFaultless, h.areFaultless, Bool.and_true]
  values := by rw [Field.values, hnode.value, h.values]

theorem Field.AllHold.exists_cons {fields : List Field} {name : String} {j : Json}
    {js : List (String × Json)} (h : AllHold fields ((name, j) :: js))
    : ∃ after node rest, fields = .mk name after node :: rest ∧ node.Holds j ∧ AllHold rest js := by
  rcases h with ⟨hfaultless, hvalues⟩
  cases fields with
  | nil => contradiction
  | cons f rest =>
    rcases f with ⟨name, after, node⟩
    rw [Field.areFaultless, Bool.and_eq_true] at hfaultless
    rw [Field.values, List.cons.injEq, Prod.mk.injEq] at hvalues
    rcases hvalues with ⟨⟨rfl, hvalue⟩, hvalues⟩
    exact ⟨after, node, rest, rfl, ⟨hfaultless.left, hvalue⟩, hfaultless.right, hvalues⟩

theorem Field.AllHold.eq_nil {fields : List Field} (h : AllHold fields []) : fields = [] := by
  cases fields with
  | nil => rfl
  | cons f rest => exact absurd h.values (by rcases f; simp [Field.values])

theorem Element.AllHold.array {elems : List Element} {js : List Json} (h : AllHold elems js)
    (start : Place) (hending : ending.fault? = none)
    : (Node.array start elems ending).Holds (.array js) where
  isFaultless := by rw [Node.isFaultless, hending, h.areFaultless]; rfl
  value := by rw [Node.value, h.values]

theorem Field.AllHold.object {fields : List Field} {js : List (String × Json)}
    (h : AllHold fields js) (start : Place) (hending : ending.fault? = none)
    : (Node.object start fields ending).Holds (.object js) where
  isFaultless := by rw [Node.isFaultless, hending, h.areFaultless]; rfl
  value := by rw [Node.value, h.values]

theorem Node.Holds.exists_string {s : String} (h : node.Holds (.string s))
    : ∃ after, node = .string s after := by
  rcases h with ⟨hfaultless, hvalue⟩
  cases node with
  | string t after =>
    rw [Node.value, Json.string.injEq] at hvalue
    exact ⟨after, by rw [hvalue]⟩
  | _ => simp [Node.value] at hvalue

theorem Node.Holds.exists_elements {js : List Json} (h : node.Holds (.array js))
    : ∃ start elems ending, node = .array start elems ending ∧ ending.fault? = none
        ∧
      Element.AllHold elems js := by
  rcases h with ⟨hfaultless, hvalue⟩
  cases node with
  | array start elems ending =>
    rw [Node.isFaultless, Bool.and_eq_true, Option.isNone_iff_eq_none] at hfaultless
    rw [Node.value, Json.array.injEq] at hvalue
    exact ⟨start, elems, ending, rfl, hfaultless.left, hfaultless.right, hvalue⟩
  | _ => simp [Node.value] at hvalue

theorem Node.Holds.exists_fields {js : List (String × Json)} (h : node.Holds (.object js))
    : ∃ start fields ending, node = .object start fields ending ∧ ending.fault? = none
        ∧
      Field.AllHold fields js := by
  rcases h with ⟨hfaultless, hvalue⟩
  cases node with
  | object start fields ending =>
    rw [Node.isFaultless, Bool.and_eq_true, Option.isNone_iff_eq_none] at hfaultless
    rw [Node.value, Json.object.injEq] at hvalue
    exact ⟨start, fields, ending, rfl, hfaultless.left, hfaultless.right, hvalue⟩
  | _ => simp [Node.value] at hvalue

theorem Node.fault?_eq_none_of_isFaultless (h : node.isFaultless) : node.fault? = none := by
  cases node with
  | array start elems ending =>
    rw [Node.isFaultless, Bool.and_eq_true, Option.isNone_iff_eq_none] at h
    exact h.left
  | object start fields ending =>
    rw [Node.isFaultless, Bool.and_eq_true, Option.isNone_iff_eq_none] at h
    exact h.left
  | broken f => contradiction
  | _ => rfl

end Holds

section Strings

variable {c : Char} {cs rest done : List Char} {n : Nat}

theorem hex?_digitChar
    : ∀ k < 0x20, hex? ['0', '0', Nat.digitChar (k / 16), Nat.digitChar (k % 16)] = some k := by
  decide

theorem readHex_digitChar (h : c.toNat < 0x20)
    : readHex ('0' :: '0' :: Nat.digitChar (c.toNat / 16) :: Nat.digitChar (c.toNat % 16) :: rest)
        =
      .ok (c.toNat, rest) := by
  have hhex := hex?_digitChar _ h
  simp only [readHex, List.take_succ_cons, List.take_zero, List.drop_succ_cons, List.drop_zero,
    List.length_cons, List.length_nil, Nat.zero_add, Nat.reduceAdd, if_true, hhex]

theorem readUnicodeEscape_digitChar (h : c.toNat < 0x20) (rest : List Char)
    : readUnicodeEscape
        ('0' :: '0' :: Nat.digitChar (c.toNat / 16) :: Nat.digitChar (c.toNat % 16) :: rest)
        =
      .ok (c, rest) := by
  have hlow : ¬(0xDC00 ≤ c.toNat ∧ c.toNat ≤ 0xDFFF) := by omega
  have hhigh : ¬(0xD800 ≤ c.toNat ∧ c.toNat ≤ 0xDBFF) := by omega
  rw [readUnicodeEscape, readHex_digitChar h]
  dsimp only [bind, Except.bind]
  rw [if_neg hlow, if_neg hhigh, Char.ofNat_toNat]

/-- A character of a string is read as itself. -/
theorem readChars_escape (c : Char) (n : Nat) (done rest : List Char)
    : readChars (n + 1) done (escape c ++ rest) = readChars n (c :: done) rest := by
  unfold escape
  split
  . next h =>
    rcases h with rfl | rfl
    . rfl
    . rfl
  . next hmark =>
    rw [not_or] at hmark
    split
    . next h =>
      subst h
      rfl
    . split
      . next h =>
        subst h
        rfl
      . split
        . next h =>
          subst h
          rfl
        . split
          . next h =>
            subst h
            rfl
          . split
            . next h =>
              subst h
              rfl
            . split
              . next h =>
                have hread := readUnicodeEscape_digitChar h rest
                rw [List.cons_append, readChars, if_neg (by decide), if_pos rfl]
                simp only [List.cons_append, List.nil_append, readEscape, hread]
              . next h =>
                rw [List.singleton_append, readChars, if_neg hmark.left, if_neg hmark.right,
                  if_neg h]

theorem readChars_flatMap_escape (h : cs.length < n)
    : readChars n done (cs.flatMap escape ++ '"' :: rest)
        =
      .ok (String.ofList (done.reverse ++ cs), rest) := by
  induction cs generalizing n done with
  | nil =>
    rcases Nat.exists_eq_add_of_lt h with ⟨k, rfl⟩
    rw [List.flatMap_nil, List.nil_append, readChars, if_pos rfl, List.append_nil]
  | cons c cs ih =>
    rcases Nat.exists_eq_add_of_lt h with ⟨k, rfl⟩
    rw [List.flatMap_cons, List.append_assoc, readChars_escape, ih (by simp; omega), List.reverse_cons,
      List.append_assoc, List.singleton_append]

theorem one_le_length_escape (c : Char) : 1 ≤ (escape c).length := by
  unfold escape
  repeat' split
  all_goals simp

theorem length_le_length_flatMap_escape (cs : List Char)
    : cs.length ≤ (cs.flatMap escape).length := by
  induction cs with
  | nil => exact Nat.le_refl 0
  | cons c cs ih =>
    have hc := one_le_length_escape c
    rw [List.flatMap_cons, List.length_append, List.length_cons]
    omega

theorem readString_quoted (s : String) (rest : List Char)
    : ∃ cs, quoted s ++ rest = '"' :: cs ∧ readString cs = .ok (s, rest) := by
  refine ⟨s.toList.flatMap escape ++ '"' :: rest, by simp [quoted], ?_⟩
  have hlength := length_le_length_flatMap_escape s.toList
  rw [readString, readChars_flatMap_escape, List.reverse_nil, List.nil_append, String.ofList_toList]
  simp only [List.length_append]
  omega

end Strings

/-- What a value without numbers starts with. -/
def valueStarts : List Char :=
  ['n', 't', 'f', '"', '[', '\x7b']

theorem exists_chars_eq_cons {n : Nat} {j : Json} (h : IsPlain n j)
    : ∃ c cs, j.chars = c :: cs ∧ c ∈ valueStarts := by
  cases h with
  | null => exact ⟨'n', _, rfl, by decide⟩
  | bool n b =>
    cases b with
    | true => exact ⟨'t', _, rfl, by decide⟩
    | false => exact ⟨'f', _, rfl, by decide⟩
  | string => exact ⟨'"', _, rfl, by decide⟩
  | array => exact ⟨'[', _, rfl, by decide⟩
  | object => exact ⟨'\x7b', _, rfl, by decide⟩

/-- A value is read back from its text, whatever follows it. -/
structure ReadsBack (depth : Nat) (j : Json) : Prop where
  start : ∃ c cs, j.chars = c :: cs ∧ c ∈ valueStarts
  read : ∀ n rest, 2 * j.chars.length ≤ n →
    ∃ node, readNode n depth (j.chars ++ rest) = (node, .ok rest) ∧ node.Holds j

section Elements

variable {n depth : Nat} {c : Char} {cs rest : List Char}

theorem readElements_comma (hc : c ∈ valueStarts) (first : Bool)
    : readElements (n + 1) depth first (comma first ++ c :: cs) = readElement n depth (c :: cs) := by
  simp only [valueStarts, List.mem_cons, List.not_mem_nil, or_false] at hc
  rw [readElements]
  cases first with
  | true =>
    rcases hc with rfl | rfl | rfl | rfl | rfl | rfl
    all_goals rfl
  | false =>
    rcases hc with rfl | rfl | rfl | rfl | rfl | rfl
    all_goals rfl

theorem readElements_bracket (first : Bool)
    : readElements (n + 1) depth first (']' :: rest) = ([], .closed ⟨rest, 0⟩, .ok rest) := by
  rw [readElements]
  rfl

theorem one_le_length_elementChars (first : Bool) (es : List Json)
    : 1 ≤ (elementChars first es).length := by
  induction es generalizing first with
  | nil => exact Nat.le_refl 1
  | cons e es ih =>
    rw [elementChars, List.length_append, List.length_append]
    exact Nat.le_add_left_of_le (Nat.le_add_left_of_le (ih false))

theorem readElements_elementChars {es : List Json} (h : ∀ e ∈ es, ReadsBack depth e) (first : Bool)
    (hn : 2 * (elementChars first es).length ≤ n) (rest : List Char)
    : ∃ elems ending, readElements n depth first (elementChars first es ++ rest)
        = (elems, ending, .ok rest)
        ∧
      ending.fault? = none ∧ Element.AllHold elems es := by
  induction es generalizing n first with
  | nil =>
    have hn : 2 ≤ n := hn
    rcases Nat.exists_eq_add_of_le' hn with ⟨k, rfl⟩
    exact ⟨[], .closed ⟨rest, 0⟩, readElements_bracket first, rfl, ⟨rfl, rfl⟩⟩
  | cons e es ih =>
    rw [List.forall_mem_cons] at h
    rcases h with ⟨⟨hstart, hread⟩, hes⟩
    rcases hstart with ⟨c, cs, hchars, hc⟩
    rw [elementChars, List.length_append, List.length_append] at hn
    have hpos : 1 ≤ e.chars.length := by simp [hchars]
    have htail := one_le_length_elementChars false es
    rcases Nat.exists_eq_add_of_le' (show 2 ≤ n by omega) with ⟨k, rfl⟩
    rcases hread k (elementChars false es ++ rest) (by omega) with ⟨node, hnode, hholds⟩
    rcases ih hes (n := k) false (by omega) with ⟨elems, ending, helems, hending, hrest⟩
    refine ⟨.mk node (closingOf (elementChars false es ++ rest)) :: elems, ending, ?_, hending,
      hrest.cons hholds _⟩
    rw [elementChars, List.append_assoc, List.append_assoc, hchars, List.cons_append,
      readElements_comma hc, ← List.cons_append, ← hchars, readElement, hnode]
    dsimp only
    rw [helems]

theorem readFields_comma (first : Bool) (cs : List Char)
    : readFields (n + 1) depth first (comma first ++ '"' :: cs) = readField n depth cs := by
  rw [readFields]
  cases first with
  | true => rfl
  | false => rfl

theorem readFields_brace (first : Bool)
    : readFields (n + 1) depth first ('\x7d' :: rest) = ([], .closed ⟨rest, 0⟩, .ok rest) := by
  rw [readFields]
  rfl

theorem readField_value {value left : List Char} {name : String} {node : Node}
    {fields : List Field} {ending : Ending} {after : Except Fault (List Char)}
    (hname : readString cs = .ok (name, ':' :: value))
    (hvalue : readNode n depth value = (node, .ok left))
    (hfields : readFields n depth false left = (fields, ending, after))
    : readField (n + 1) depth cs
        =
      (.mk name (placeAfterName (':' :: value)) node :: fields, ending, after) := by
  have hcolon : dropGaps (':' :: value) = ':' :: value := rfl
  rw [readField, hname]
  simp only [hcolon, hvalue, hfields]

theorem readFields_fieldChars {fs : List (String × Json)} (h : ∀ f ∈ fs, ReadsBack depth f.2)
    (first : Bool) (hn : 2 * (fieldChars first fs).length ≤ n) (rest : List Char)
    : ∃ fields ending, readFields n depth first (fieldChars first fs ++ rest)
        = (fields, ending, .ok rest)
        ∧
      ending.fault? = none ∧ Field.AllHold fields fs := by
  induction fs generalizing n first with
  | nil =>
    have hn : 2 ≤ n := hn
    rcases Nat.exists_eq_add_of_le' hn with ⟨k, rfl⟩
    exact ⟨[], .closed ⟨rest, 0⟩, readFields_brace first, rfl, ⟨rfl, rfl⟩⟩
  | cons f fs ih =>
    rcases f with ⟨name, value⟩
    rw [List.forall_mem_cons] at h
    rcases h with ⟨⟨-, hread⟩, hfs⟩
    dsimp only at hread
    rw [fieldChars, List.length_append, List.length_append, List.length_cons, List.length_append] at hn
    rcases Nat.exists_eq_add_of_le' (show 2 ≤ n by omega) with ⟨k, rfl⟩
    rcases hread k (fieldChars false fs ++ rest) (by omega) with ⟨node, hnode, hholds⟩
    rcases ih hfs (n := k) false (by omega) with ⟨fields, ending, hfields, hending, hrest⟩
    let written := value.chars ++ (fieldChars false fs ++ rest)
    rcases readString_quoted name (':' :: written) with ⟨cs, hquoted, hstring⟩
    refine ⟨.mk name (placeAfterName (':' :: written)) node :: fields, ending, ?_, hending,
      hrest.cons name _ hholds⟩
    rw [fieldChars, List.append_assoc, List.append_assoc, List.cons_append, List.append_assoc,
      hquoted, readFields_comma]
    exact readField_value hstring hnode hfields

end Elements

section Values

variable {n depth : Nat}

theorem readNode_string {cs rest : List Char} {s : String} (h : readString cs = .ok (s, rest))
    : readNode (n + 1) depth ('"' :: cs) = (.string s ⟨rest, 0⟩, .ok rest) := by
  have hgaps : dropGaps ('"' :: cs) = '"' :: cs := rfl
  rw [readNode, hgaps]
  simp only [h]

theorem readNode_array {cs : List Char} {elems : List Element} {ending : Ending}
    {left : Except Fault (List Char)} (hdepth : 1 < depth)
    (h : readElements n (depth - 1) true cs = (elems, ending, left))
    : readNode (n + 1) depth ('[' :: cs) = (.array ⟨'[' :: cs, 0⟩ elems ending, left) := by
  have hgaps : dropGaps ('[' :: cs) = '[' :: cs := rfl
  rw [readNode, hgaps]
  exact (if_neg (Nat.not_le_of_lt hdepth)).trans (by rw [h])

theorem readNode_object {cs : List Char} {fields : List Field} {ending : Ending}
    {left : Except Fault (List Char)} (hdepth : 1 < depth)
    (h : readFields n (depth - 1) true cs = (fields, ending, left))
    : readNode (n + 1) depth ('\x7b' :: cs) = (.object ⟨'\x7b' :: cs, 0⟩ fields ending, left) := by
  have hgaps : dropGaps ('\x7b' :: cs) = '\x7b' :: cs := rfl
  rw [readNode, hgaps]
  exact (if_neg (Nat.not_le_of_lt hdepth)).trans (by rw [h])

theorem readsBack_of_isPlain {k : Nat} {j : Json} (h : IsPlain k j) (hk : k < depth)
    : ReadsBack depth j := by
  refine ⟨exists_chars_eq_cons h, ?_⟩
  induction h generalizing depth with
  | null =>
    intro n rest hn
    rcases Nat.exists_eq_add_of_le' (Nat.le_trans (by decide : 1 ≤ 8) hn) with ⟨k, rfl⟩
    refine ⟨.null ⟨rest, 0⟩, ?_, rfl, rfl⟩
    rw [readNode]
    rfl
  | bool k b =>
    intro n rest hn
    have hpos : 1 ≤ n := by
      cases b with
      | true => exact Nat.le_trans (by decide) hn
      | false => exact Nat.le_trans (by decide) hn
    rcases Nat.exists_eq_add_of_le' hpos with ⟨k, rfl⟩
    refine ⟨.bool b ⟨rest, 0⟩, ?_, rfl, rfl⟩
    rw [readNode]
    cases b with
    | true => rfl
    | false => rfl
  | string k s =>
    intro n rest hn
    have hpos : 1 ≤ n := by
      simp only [chars, quoted, List.length_cons] at hn
      omega
    rcases Nat.exists_eq_add_of_le' hpos with ⟨k, rfl⟩
    rcases readString_quoted s rest with ⟨cs, hquoted, hstring⟩
    refine ⟨.string s ⟨rest, 0⟩, ?_, rfl, rfl⟩
    rw [chars, hquoted]
    exact readNode_string hstring
  | @array k es h ih =>
    intro n rest hn
    rw [chars, List.length_cons] at hn
    rcases Nat.exists_eq_add_of_le' (show 1 ≤ n by omega) with ⟨m, rfl⟩
    have hes : ∀ e ∈ es, ReadsBack (depth - 1) e :=
      fun e he => ⟨exists_chars_eq_cons (h e he), ih e he (by omega)⟩
    rcases readElements_elementChars hes true (n := m) (by omega) rest with
      ⟨elems, ending, helems, hending, hholds⟩
    exact ⟨.array _ elems ending, readNode_array (by omega) helems, hholds.array _ hending⟩
  | @object k fs h ih =>
    intro n rest hn
    rw [chars, List.length_cons] at hn
    rcases Nat.exists_eq_add_of_le' (show 1 ≤ n by omega) with ⟨m, rfl⟩
    have hfs : ∀ f ∈ fs, ReadsBack (depth - 1) f.2 :=
      fun f hf => ⟨exists_chars_eq_cons (h f hf), ih f hf (by omega)⟩
    rcases readFields_fieldChars hfs true (n := m) (by omega) rest with
      ⟨fields, ending, hfields, hending, hholds⟩
    exact ⟨.object _ fields ending, readNode_object (by omega) hfields, hholds.object _ hending⟩

/-- The text of a value is read as the value. -/
theorem holds_ofText {j : Json} (h : IsPlain n j) (hn : n < nestingLimit)
    : (Document.ofText j.text.toList).Holds j := by
  have hlength : 2 * j.chars.length ≤ 4 * j.chars.length + 4 := by omega
  rcases (readsBack_of_isPlain h hn).read _ [] hlength with ⟨node, hnode, hholds⟩
  rw [List.append_nil] at hnode
  rw [text, String.toList_ofList, Document.ofText, hnode]
  exact ⟨hholds, rfl⟩

end Values

end LazyProxy.Json
