import LazyProxy.Text.CaseTable

/-!
Full case mapping of texts. A character may map to several, and a capital sigma at the end of a word
has its own lower case.
-/

namespace LazyProxy.Text

/-- The image of a character outside ASCII, by the tables of one direction. -/
def mapWide (runs : List CaseRun) (expansions : List (Nat × List Nat)) (c : Char) : List Char :=
  match expansions.lookup c.toNat with
  | some ns => ns.map Char.ofNat
  | none => [Char.ofNat ((runs.findSome? (·.map? c.toNat)).getD c.toNat)]

/-- Lower case of one character. -/
def lowerChar (c : Char) : List Char :=
  if c.toNat < 128 then [c.toLower] else mapWide CaseTable.lowerRuns CaseTable.lowerExpansions c

/-- Upper case of one character. -/
def upperChar (c : Char) : List Char :=
  if c.toNat < 128 then [c.toUpper] else mapWide CaseTable.upperRuns CaseTable.upperExpansions c

def isCased (c : Char) : Bool :=
  if c.toNat < 128 then c.isAlpha else CaseTable.cased.has c.toNat

def isCaseIgnorable (c : Char) : Bool :=
  CaseTable.caseIgnorable.has c.toNat

/-- Whether the nearest character that counts for casing has case. -/
def nearestIsCased (cs : List Char) : Bool :=
  match cs.dropWhile isCaseIgnorable with
  | c :: _ => isCased c
  | [] => false

/-- Lower case of a text; `before` is what stands in front of it, nearest character first. -/
def lowerAfter (before : List Char) : List Char → List Char
  | [] => []
  | c :: cs =>
    let image :=
      if c = 'Σ' then
        if nearestIsCased before && !nearestIsCased cs then ['ς'] else ['σ']
      else
        lowerChar c
    image ++ lowerAfter (c :: before) cs

/-- Lower case of a text. -/
def lower (cs : List Char) : List Char :=
  lowerAfter [] cs

/-- Upper case of a text. -/
def upper (cs : List Char) : List Char :=
  cs.flatMap upperChar

end LazyProxy.Text
