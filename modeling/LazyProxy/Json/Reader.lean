import LazyProxy.Json.Document
import LazyProxy.Json.Number

/-!
Reading text as JSON.
-/

namespace LazyProxy.Json

def isGap (c : Char) : Bool :=
  c == ' ' || c == '\n' || c == '\t' || c == '\r'

def dropGaps (cs : List Char) : List Char :=
  cs.dropWhile isGap

/-- What follows a word. -/
def readWord : List Char → List Char → Except Fault (List Char)
  | [], cs => .ok cs
  | _, [] => .error (.here .endInValue [])
  | e :: es, c :: cs => if c = e then readWord es cs else .error (.next .noWord (c :: cs))

def hexDigit? (c : Char) : Option Nat :=
  if c.isDigit then some (c.toNat - '0'.toNat)
  else if 'a' ≤ c ∧ c ≤ 'f' then some (c.toNat - 'a'.toNat + 10)
  else if 'A' ≤ c ∧ c ≤ 'F' then some (c.toNat - 'A'.toNat + 10)
  else none

/-- The number that four hexadecimal digits write. -/
def hex? (cs : List Char) : Option Nat :=
  (cs.mapM hexDigit?).map fun ds => ds.foldl (fun n d => n * 16 + d) 0

/-- Four hexadecimal digits. Four bytes are taken for them whatever they are. -/
def readHex (cs : List Char) : Reading Nat :=
  let digits := cs.take 4
  match (if digits.length = 4 then hex? digits else none) with
  | some n => .ok (n, cs.drop 4)
  | none =>
    if byteCount digits < 4 then .error (.here .endInString [])
    else .error ⟨.badEscape, ⟨cs, 4⟩⟩

/-- What follows a character in the middle of an escape for two surrogates. -/
def readInPair (expected : Char) : List Char → Except Fault (List Char)
  | [] => .error (.here .endInString [])
  | c :: cs => if c = expected then .ok cs else .error (.next .halfSurrogate (c :: cs))

/-- A character by its number in UTF-16. Characters beyond the first 65536 have two numbers, each in
an escape of its own. -/
def readUnicodeEscape (cs : List Char) : Except Fault (Char × List Char) := do
  let (n, cs) ← readHex cs
  if 0xDC00 ≤ n ∧ n ≤ 0xDFFF then .error (.here .loneSurrogate cs)
  else if 0xD800 ≤ n ∧ n ≤ 0xDBFF then do
    let cs ← readInPair '\\' cs
    let cs ← readInPair 'u' cs
    let (m, cs) ← readHex cs
    if 0xDC00 ≤ m ∧ m ≤ 0xDFFF then
      .ok (Char.ofNat ((n - 0xD800) * 0x400 + (m - 0xDC00) + 0x10000), cs)
    else .error (.here .loneSurrogate cs)
  else .ok (Char.ofNat n, cs)

/-- An escape, from behind its backslash. -/
def readEscape (cs : List Char) : Reading Char :=
  match cs with
  | [] => .error (.here .endInString [])
  | '"' :: rest => .ok ('"', rest)
  | '\\' :: rest => .ok ('\\', rest)
  | '/' :: rest => .ok ('/', rest)
  | 'b' :: rest => .ok ('\x08', rest)
  | 'f' :: rest => .ok ('\x0c', rest)
  | 'n' :: rest => .ok ('\n', rest)
  | 'r' :: rest => .ok ('\r', rest)
  | 't' :: rest => .ok ('\t', rest)
  | 'u' :: rest => readUnicodeEscape rest
  | _ => .error (.next .badEscape cs)

/-- A string from behind its opening quote. `done` holds the characters so far, last first. -/
def readChars : Nat → List Char → List Char → Reading String
  | 0, _, cs => .error (.here .endInString cs)
  | _, _, [] => .error (.here .endInString [])
  | n + 1, done, c :: cs =>
    if c = '"' then .ok (String.ofList done.reverse, cs)
    else if c = '\\' then
      match readEscape cs with
      | .error f => .error f
      | .ok (d, cs) => readChars n (d :: done) cs
    else if c.toNat < 0x20 then .error (.next .controlCharacter (c :: cs))
    else readChars n (c :: done) cs

def readString (cs : List Char) : Reading String :=
  readChars (cs.length + 1) [] cs

/-- What is found if an array has to end here. -/
def closingOf (cs : List Char) : Closing :=
  match dropGaps cs with
  | [] => ⟨some .endInArray, ⟨[], 0⟩⟩
  | ']' :: rest => ⟨none, ⟨rest, 0⟩⟩
  | ',' :: rest =>
    match dropGaps rest with
    | ']' :: rest => ⟨some .trailingComma, ⟨']' :: rest, 0⟩⟩
    | rest => ⟨some .trailingText, ⟨rest, 0⟩⟩
  | rest => ⟨some .trailingText, ⟨rest, 0⟩⟩

/-- The place behind a field's name, and behind the gap and the closing brace that follow it. -/
def placeAfterName (cs : List Char) : Place :=
  match dropGaps cs with
  | '\x7d' :: rest => ⟨rest, 0⟩
  | rest => ⟨rest, 0⟩

/-- The node of a word. -/
def wordNode (rest : List Char) (word : String) (node : Place → Node) :
    Node × Except Fault (List Char) :=
  match readWord word.toList rest with
  | .ok rest => (node ⟨rest, 0⟩, .ok rest)
  | .error f => (.broken f, .error f)

mutual

/-- A value, with what is left of the text or the fault in it. At most `depth - 1` arrays and
objects may enclose each other. -/
def readNode : Nat → Nat → List Char → Node × Except Fault (List Char)
  | 0, _, cs => (.broken (.here .tooDeep cs), .error (.here .tooDeep cs))
  | n + 1, depth, cs =>
    let cs := dropGaps cs
    match cs with
    | [] => (.broken (.here .endInValue []), .error (.here .endInValue []))
    | 'n' :: rest => wordNode rest "ull" .null
    | 't' :: rest => wordNode rest "rue" (.bool true)
    | 'f' :: rest => wordNode rest "alse" (.bool false)
    | '"' :: rest =>
      match readString rest with
      | .ok (s, rest) => (.string s ⟨rest, 0⟩, .ok rest)
      | .error f => (.broken f, .error f)
    | '[' :: rest =>
      if depth ≤ 1 then
        (.array ⟨cs, 0⟩ [] (.faulty (.next .tooDeep cs)), .error (.next .tooDeep cs))
      else
        let (elems, ending, left) := readElements n (depth - 1) true rest
        (.array ⟨cs, 0⟩ elems ending, left)
    | '\x7b' :: rest =>
      if depth ≤ 1 then
        (.object ⟨cs, 0⟩ [] (.faulty (.next .tooDeep cs)), .error (.next .tooDeep cs))
      else
        let (fields, ending, left) := readFields n (depth - 1) true rest
        (.object ⟨cs, 0⟩ fields ending, left)
    | c :: _ =>
      if c = '-' ∨ c.isDigit then
        match readNumber cs with
        | .ok (x, rest) => (.number x ⟨rest, 0⟩, .ok rest)
        | .error f => (.broken f, .error f)
      else (.broken (.next .noValue cs), .error (.next .noValue cs))

/-- The elements of an array up to its bracket. -/
def readElements : Nat → Nat → Bool → List Char → List Element × Ending × Except Fault (List Char)
  | 0, _, _, cs => ([], .faulty (.here .tooDeep cs), .error (.here .tooDeep cs))
  | n + 1, depth, first, cs =>
    let stop (f : Fault) : List Element × Ending × Except Fault (List Char) :=
      ([], .faulty f, .error f)
    match dropGaps cs with
    | [] => stop (.here .endInArray [])
    | ']' :: rest => ([], .closed ⟨rest, 0⟩, .ok rest)
    | c :: rest =>
      if first then readElement n depth (c :: rest)
      else if c = ',' then
        match dropGaps rest with
        | [] => stop (.here .endInValue [])
        | ']' :: rest => stop (.next .trailingComma (']' :: rest))
        | rest => readElement n depth rest
      else stop (.next .noCommaInArray (c :: rest))

/-- One element and those that follow it. -/
def readElement : Nat → Nat → List Char → List Element × Ending × Except Fault (List Char)
  | 0, _, cs => ([], .faulty (.here .tooDeep cs), .error (.here .tooDeep cs))
  | n + 1, depth, cs =>
    match readNode n depth cs with
    | (node, .error f) => ([.mk node ⟨none, f.place⟩], .faulty f, .error f)
    | (node, .ok rest) =>
      let (elems, ending, left) := readElements n depth false rest
      (.mk node (closingOf rest) :: elems, ending, left)

/-- The fields of an object up to its brace. -/
def readFields : Nat → Nat → Bool → List Char → List Field × Ending × Except Fault (List Char)
  | 0, _, _, cs => ([], .faulty (.here .tooDeep cs), .error (.here .tooDeep cs))
  | n + 1, depth, first, cs =>
    let stop (f : Fault) : List Field × Ending × Except Fault (List Char) :=
      ([], .faulty f, .error f)
    match dropGaps cs with
    | [] => stop (.here .endInObject [])
    | '\x7d' :: rest => ([], .closed ⟨rest, 0⟩, .ok rest)
    | c :: rest =>
      if first then
        if c = '"' then readField n depth rest else stop (.next .noKey (c :: rest))
      else if c = ',' then
        match dropGaps rest with
        | [] => stop (.here .endInValue [])
        | '"' :: rest => readField n depth rest
        | '\x7d' :: rest => stop (.next .trailingComma ('\x7d' :: rest))
        | rest => stop (.next .noKey rest)
      else stop (.next .noCommaInObject (c :: rest))

/-- One field, from behind the opening quote of its name, and those that follow it. -/
def readField : Nat → Nat → List Char → List Field × Ending × Except Fault (List Char)
  | 0, _, cs => ([], .faulty (.here .tooDeep cs), .error (.here .tooDeep cs))
  | n + 1, depth, cs =>
    match readString cs with
    | .error f => ([], .faulty f, .error f)
    | .ok (name, rest) =>
      let last (f : Fault) : List Field × Ending × Except Fault (List Char) :=
        ([.mk name (placeAfterName rest) (.broken f)], .faulty f, .error f)
      match dropGaps rest with
      | [] => last (.here .endInObject [])
      | ':' :: value =>
        match readNode n depth value with
        | (node, .error f) => ([.mk name (placeAfterName rest) node], .faulty f, .error f)
        | (node, .ok left) =>
          let (fields, ending, left) := readFields n depth false left
          (.mk name (placeAfterName rest) node :: fields, ending, left)
      | other => last (.next .noColon other)

end

/-- The number of arrays and objects that may enclose each other, plus one. -/
def nestingLimit : Nat := 128

/-- Reads a text as one value. -/
def Document.ofText (text : List Char) : Document :=
  match readNode (4 * text.length + 4) nestingLimit text with
  | (root, .error _) => { root }
  | (root, .ok rest) =>
    match dropGaps rest with
    | [] => { root }
    | rest => { root, trailing := some (.next .trailingText rest) }

end LazyProxy.Json
