import LazyProxy.Text.ClusterTable
import LazyProxy.Text.PrintTable

/-!
Texts shown between quotation marks. What cannot be seen is escaped.
-/

namespace LazyProxy.Text

/-- Whether a character shows as it is, apart from its neighbours. -/
def isVisible (c : Char) : Bool :=
  let n := c.toNat
  if n < 0x7F then 0x20 ≤ n
  else
    !PrintTable.invisible.has n &&
      (!ClusterTable.extend.has n || (0x1F3FB ≤ n && n ≤ 0x1F3FF))

/-- A character between quotation marks. -/
def quoteChar (c : Char) : List Char :=
  if c = '\x00' then ['\\', '0']
  else if c = '\t' then ['\\', 't']
  else if c = '\n' then ['\\', 'n']
  else if c = '\r' then ['\\', 'r']
  else if c = '"' ∨ c = '\\' then ['\\', c]
  else if isVisible c then [c]
  else ['\\', 'u', '\x7b'] ++ Nat.toDigits 16 c.toNat ++ ['\x7d']

/-- A text between quotation marks. -/
def quote (s : String) : String :=
  "\"" ++ String.ofList (s.toList.flatMap quoteChar) ++ "\""

end LazyProxy.Text
