/-!
Cutting a text at separators, and putting pieces together again.
-/

namespace LazyProxy.Text

/-- The pieces between the characters that satisfy `p`. There is always at least one piece. -/
def splitWhen (p : Char → Bool) : List Char → List (List Char)
  | [] => [[]]
  | c :: cs =>
    if p c then [] :: splitWhen p cs
    else
      match splitWhen p cs with
      | w :: ws => (c :: w) :: ws
      | [] => [[c]]

/-- The pieces between double colons, which are found from left to right. -/
def splitColons : List Char → List (List Char)
  | [] => [[]]
  | [c] => [[c]]
  | c :: d :: cs =>
    if c = ':' ∧ d = ':' then [] :: splitColons cs
    else
      match splitColons (d :: cs) with
      | w :: ws => (c :: w) :: ws
      | [] => [[c]]

/-- Whether a double colon occurs. -/
def hasColons : List Char → Bool
  | c :: d :: cs => (c == ':' && d == ':') || hasColons (d :: cs)
  | _ => false

/-- A text without the double colons it starts with. -/
def dropColons : List Char → List Char
  | c :: d :: cs => if c = ':' ∧ d = ':' then dropColons cs else c :: d :: cs
  | cs => cs

/-- A line without the carriage return it ends with. -/
def dropReturn (line : List Char) : List Char :=
  match line.getLast? with
  | some '\r' => line.dropLast
  | _ => line

/-- The lines of a text: each ends at a line feed, which may follow a carriage return. A line feed
at the very end starts no further line, and a carriage return there belongs to the last line. -/
def lines (cs : List Char) : List (List Char) :=
  match (splitWhen (· == '\n') cs).reverse with
  | [] => []
  | [] :: ended => (ended.map dropReturn).reverse
  | last :: ended => (last :: ended.map dropReturn).reverse

/-- Texts with a separator between neighbours. -/
def join (separator : String) (parts : List String) : String :=
  separator.intercalate parts

end LazyProxy.Text
