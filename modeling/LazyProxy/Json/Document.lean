import LazyProxy.Json.Fault
import LazyProxy.Json.Value

/-!
JSON texts as trees of places. A text with a fault has a tree too: it holds all that could be read
before the fault, and ends with it. So whoever looks through a tree in order finds what is first in
the text, be it a fault or a value of the wrong kind.
-/

namespace LazyProxy.Json

/-- How an array or object ends. -/
inductive Ending where
  /-- With its bracket. -/
  | closed (after : Place)
  /-- Nowhere, because of a fault in it. -/
  | faulty (f : Fault)
deriving DecidableEq, Repr

/-- What is found if an array has to end behind one of its elements. -/
structure Closing where
  /-- Why it does not end there, if it does not. -/
  reason : Option Reason
  /-- The place behind the bracket, or in front of what stands in its place. -/
  place : Place
deriving DecidableEq, Repr

mutual

inductive Node where
  | null (after : Place)
  | bool (b : Bool) (after : Place)
  | number (n : Number) (after : Place)
  | string (s : String) (after : Place)
  | array (start : Place) (elems : List Element) (ending : Ending)
  | object (start : Place) (fields : List Field) (ending : Ending)
  | broken (f : Fault)
deriving Repr

inductive Element where
  | mk (node : Node) (closing : Closing)
deriving Repr

/-- A field with the place behind its name. -/
inductive Field where
  | mk (name : String) (after : Place) (value : Node)
deriving Repr

end

/-- A text read as one value. -/
structure Document where
  root : Node
  /-- What is wrong behind the value. -/
  trailing : Option Fault := none
deriving Repr

namespace Ending

def fault? : Ending → Option Fault
  | closed _ => none
  | faulty f => some f

end Ending

namespace Closing

/-- The fault of going on behind the last element that an array may have. -/
def fault? (c : Closing) : Option Fault :=
  c.reason.map (⟨·, { c.place with skipped := c.place.skipped + 1 }⟩)

end Closing

namespace Node

/-- The fault inside a value, if there is one. -/
def fault? : Node → Option Fault
  | array _ _ ending => ending.fault?
  | object _ _ ending => ending.fault?
  | broken f => some f
  | _ => none

end Node

mutual

/-- The value at a node. -/
def Node.value : Node → Json
  | .null _ => .null
  | .bool b _ => .bool b
  | .number n _ => .number n
  | .string s _ => .string s
  | .array _ elems _ => .array (Element.values elems)
  | .object _ fields _ => .object (Field.values fields)
  | .broken _ => .null

def Element.values : List Element → List Json
  | [] => []
  | .mk node _ :: es => node.value :: Element.values es

def Field.values : List Field → List (String × Json)
  | [] => []
  | .mk name _ value :: fs => (name, value.value) :: Field.values fs

end

end LazyProxy.Json
