import LazyProxy.Text.WordTable

/-!
Which characters a word of a programming language is made of.
-/

namespace LazyProxy.Text

/-- A letter of any script, or the underscore. -/
def isWordStart (c : Char) : Bool :=
  if c.toNat < 128 then c.isAlpha || c == '_' else WordTable.start.has c.toNat

/-- A letter, digit or mark of any script, or the underscore. -/
def isWordPart (c : Char) : Bool :=
  if c.toNat < 128 then c.isAlphanum || c == '_' else WordTable.continuation.has c.toNat

end LazyProxy.Text
