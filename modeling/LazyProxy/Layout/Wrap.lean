import LazyProxy.Layout.LineBreak
import LazyProxy.Text.Split
import LazyProxy.Text.Word

/-!
Paragraphs wrapped at a width. Each line takes as many words as fit; a word that fits no line is
cut.
-/

namespace LazyProxy.Layout

/-- A piece of text that stays on one line, with the spaces behind it. -/
structure Word where
  text : List Char
  spaces : Nat := 0
deriving DecidableEq, Repr

namespace Word

def width (w : Word) : Nat :=
  Text.width w.text

/-- A piece of a line as a word: the spaces at its end are set apart. -/
def ofPiece (cs : List Char) : Word :=
  let spaces := (cs.reverse.takeWhile (· == ' ')).length
  ⟨cs.take (cs.length - spaces), spaces⟩

end Word

/-- A line cut wherever it may be broken. A hyphen alone gives no reason to cut. -/
def pieces (last : Option BreakClass) : List Char → List (List Char)
  | [] => []
  | [c] => [[c]]
  | c :: d :: cs =>
    let last := classBehind last c
    match pieces last (d :: cs) with
    | p :: ps => if c ≠ '-' ∧ mayBreak last c d then [c] :: p :: ps else (c :: p) :: ps
    | [] => [[c]]

/-- Whether a word may be cut behind a hyphen between these two characters. -/
def joinsWithHyphen (before after : Char) : Bool :=
  let isPart (c : Char) : Bool := c != '_' && Text.isWordPart c
  isPart before && isPart after

/-- The parts of a word that end with a hyphen between two letters or digits. -/
def hyphenParts (before : Option Char) : List Char → List (List Char)
  | [] => []
  | [c] => [[c]]
  | c :: d :: cs =>
    match hyphenParts (some c) (d :: cs) with
    | p :: ps =>
      if c = '-' ∧ (before.map (joinsWithHyphen · d)).getD false then [c] :: p :: ps
      else (c :: p) :: ps
    | [] => [[c]]

/-- Puts the spaces of a word behind the last of its parts. -/
def spacesBehindLast (spaces : Nat) : List (List Char) → List Word
  | [] => []
  | [p] => [⟨p, spaces⟩]
  | p :: ps => ⟨p, 0⟩ :: spacesBehindLast spaces ps

def Word.hyphenated (w : Word) : List Word :=
  spacesBehindLast w.spaces (hyphenParts none w.text)

/-- The parts of a text that are no wider than `limit`, each as long as possible. `used` is the
width of the part begun. -/
def cutAt (limit used : Nat) : List Char → List (List Char)
  | [] => []
  | [c] => [[c]]
  | c :: d :: cs =>
    let used := used + Text.charWidth c
    if 0 < used ∧ limit < used + Text.charWidth d then [c] :: cutAt limit 0 (d :: cs)
    else
      match cutAt limit used (d :: cs) with
      | p :: ps => (c :: p) :: ps
      | [] => [[c]]

/-- A word in parts that fit a line. -/
def Word.fitted (limit : Nat) (w : Word) : List Word :=
  if limit < w.width then spacesBehindLast w.spaces (cutAt limit 0 w.text) else [w]

/-- The words of a paragraph, none of them wider than a line. An empty word comes first, so that a
long word may leave the first line empty. -/
def wordsOf (limit : Nat) (paragraph : List Char) : List Word :=
  ⟨[], 0⟩ :: (((pieces none paragraph).map Word.ofPiece).flatMap Word.hyphenated).flatMap
    (Word.fitted limit)

/-- Distributes words over lines. `line` holds the words of the line begun, last first, and `used`
is their width with the spaces between them. -/
def fillLines (limit : Nat) (line : List Word) (used : Nat) : List Word → List (List Word)
  | [] => [line.reverse]
  | w :: ws =>
    if limit < used + w.width ∧ !line.isEmpty then
      line.reverse :: fillLines limit [w] (w.width + w.spaces) ws
    else fillLines limit (w :: line) (used + w.width + w.spaces) ws

/-- The text of a line, without the spaces at its end. -/
def lineText : List Word → List Char
  | [] => []
  | [w] => w.text
  | w :: ws => w.text ++ List.replicate w.spaces ' ' ++ lineText ws

/-- The lines of a text whose paragraphs are wrapped at a width. -/
def wrapLines (limit : Nat) (text : List Char) : List (List Char) :=
  (Text.splitWhen (· == '\n') text).flatMap fun paragraph =>
    (fillLines limit [] 0 (wordsOf limit paragraph)).map lineText

/-- Wraps a text for a terminal of the given width. The first line starts with `first` and the
others with `other`, which are equally wide. -/
def wrap (width : Nat) (first other : String) (text : String) : String :=
  let lines := wrapLines (width - Text.width first.toList) text.toList
  match lines with
  | [] => first
  | line :: lines =>
    Text.join "\n" ((first ++ String.ofList line) ::
      lines.map fun l => other ++ String.ofList l)

end LazyProxy.Layout
