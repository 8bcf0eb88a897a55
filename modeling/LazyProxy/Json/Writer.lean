import LazyProxy.Json.Number

/-!
JSON values as text without gaps. In strings only quotes, backslashes and control characters are
escaped.
-/

namespace LazyProxy.Json

/-- A character between the quotes of a string. -/
def escape (c : Char) : List Char :=
  if c = '"' ∨ c = '\\' then ['\\', c]
  else if c = '\x08' then ['\\', 'b']
  else if c = '\t' then ['\\', 't']
  else if c = '\n' then ['\\', 'n']
  else if c = '\x0c' then ['\\', 'f']
  else if c = '\r' then ['\\', 'r']
  else if c.toNat < 0x20 then
    ['\\', 'u', '0', '0', Nat.digitChar (c.toNat / 16), Nat.digitChar (c.toNat % 16)]
  else [c]

def quoted (s : String) : List Char :=
  '"' :: (s.toList.flatMap escape ++ ['"'])

/-- What stands in front of an element or a field. -/
def comma (first : Bool) : List Char :=
  if first then [] else [',']

mutual

/-- A value, character by character. -/
def chars : Json → List Char
  | .null => "null".toList
  | .bool true => "true".toList
  | .bool false => "false".toList
  | .number n => n.text.toList
  | .string s => quoted s
  | .array elems => '[' :: elementChars true elems
  | .object fields => '\x7b' :: fieldChars true fields

/-- Elements and the bracket behind them. -/
def elementChars (first : Bool) : List Json → List Char
  | [] => [']']
  | e :: es => comma first ++ (e.chars ++ elementChars false es)

/-- Fields and the brace behind them. -/
def fieldChars (first : Bool) : List (String × Json) → List Char
  | [] => ['\x7d']
  | (name, value) :: fs => comma first ++ (quoted name ++ ':' :: (value.chars ++ fieldChars false fs))

end

/-- A value as text. -/
def text (j : Json) : String :=
  String.ofList j.chars

/-- Strings may hold anything. -/
example : (Json.object [("a\"", .array [.null, .string "\n\x01é"])]).text
    = "\x7b\"a\\\"\":[null,\"\\n\\u0001é\"]\x7d" := by
  decide

end LazyProxy.Json
