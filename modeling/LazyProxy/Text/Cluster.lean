import LazyProxy.Text.ClusterTable

/-!
User-perceived characters: a text is cut into clusters of a character with the marks attached to
it. Clusters that join two characters without case (Hangul syllables, flags, pictographs) are left
apart here, which changes nothing where only letter case, digits and separators count.
-/

namespace LazyProxy.Text

abbrev Cluster := List Char

def isControl (c : Char) : Bool :=
  ClusterTable.control.has c.toNat

/-- Whether the character attaches to the one before it. -/
def isMark (c : Char) : Bool :=
  if c.toNat < 128 then false
  else ClusterTable.extend.has c.toNat || ClusterTable.spacingMark.has c.toNat || c.toNat == 0x200D

/-- Whether the character attaches to the one after it. -/
def isPrepended (c : Char) : Bool :=
  if c.toNat < 128 then false else ClusterTable.prepended.has c.toNat

/-- Whether no cluster ends between two neighbours. -/
def attaches (c d : Char) : Bool :=
  !isControl c && !isControl d && (isMark d || isPrepended c)

/-- The clusters of a text, in order. -/
def clusters : List Char → List Cluster
  | [] => []
  | c :: cs =>
    match cs, clusters cs with
    | d :: _, k :: ks => if attaches c d then (c :: k) :: ks else [c] :: k :: ks
    | _, ks => [c] :: ks

end LazyProxy.Text
