import LazyProxy.Text.ClusterTable
import LazyProxy.Text.WidthTable

/-!
How many columns a text takes on a terminal.
-/

namespace LazyProxy.Text

def isWide (c : Char) : Bool :=
  if c.toNat < 0x1100 then false else WidthTable.wide.has c.toNat

def charWidth (c : Char) : Nat :=
  if c.toNat < 0x20 then 0
  else if c.toNat < 0x7F then 1
  else if ClusterTable.control.has c.toNat || ClusterTable.extend.has c.toNat then 0
  else if isWide c then 2
  else 1

def width : List Char → Nat
  | [] => 0
  | c :: cs => charWidth c + width cs

end LazyProxy.Text
