/-!
Laying out text in boxes: a box is written on one line if it fits, up to the next place where a line
may end. In a consistent box that does not fit all breaks end a line, in another one only those
behind which the next piece does not fit.
-/

namespace LazyProxy.Layout

/-- The width of a line. -/
def margin : Int := 89

/-- The space that even a deeply indented line has. -/
def leastSpace : Int := 60

/-- A width that fits nowhere. -/
def unbounded : Nat := 65535

/-- A place where a line may end. -/
structure Break where
  /-- The width of the break if the line goes on. -/
  blank : Nat := 0
  /-- Added to the indentation of the next line. -/
  offset : Int := 0
  /-- Written in front of the line's end. -/
  lastChar : Option Char := none
  /-- Whether the line always goes on. -/
  never : Bool := false

inductive Box where
  | text (s : String)
  | brk (b : Break)
  /-- A box whose lines are indented further. One whose body is wider than the limit does not fit.
  -/
  | group (indent : Int) (consistent : Bool) (limit : Option Nat) (body : List Box)

namespace Box

mutual

/-- The width on one line. -/
def width : Box → Nat
  | text s => s.utf8ByteSize
  | brk b => b.blank
  | group _ _ limit body =>
    let w := widthOf body
    match limit with
    | none => w
    | some most => if w > most then w + unbounded else w

def widthOf : List Box → Nat
  | [] => 0
  | b :: bs => width b + widthOf bs

end

/-- The width up to the next break at this level, or up to the one behind the enclosing box, which
`outside` gives. -/
def widthToBreak (outside : Nat) : List Box → Nat
  | [] => outside
  | brk _ :: _ => 0
  | b :: bs => width b + widthToBreak outside bs

end Box

/-- What has been written, and where writing goes on. -/
structure Page where
  written : String := ""
  /-- Space left on the line. -/
  space : Int := margin
  /-- Blanks to be written in front of the next text. -/
  pending : Nat := 0
  indent : Int := 0

namespace Page

def writeBlanks (p : Page) : Page :=
  { p with written := p.written ++ String.ofList (List.replicate p.pending ' '), pending := 0 }

def write (p : Page) (s : String) : Page :=
  let p := p.writeBlanks
  { p with written := p.written ++ s, space := p.space - s.utf8ByteSize }

/-- Goes on in the same line. -/
def skip (p : Page) (b : Break) : Page :=
  { p with pending := p.pending + b.blank, space := p.space - b.blank }

/-- Goes on in a new line. -/
def newLine (p : Page) (b : Break) : Page :=
  let p := match b.lastChar with
    | some c => let p := p.writeBlanks; { p with written := p.written.push c }
    | none => p
  let indent := p.indent + b.offset
  { p with
    written := p.written.push '\n'
    pending := indent.toNat
    space := max (margin - indent) leastSpace }

end Page

/-- How the breaks of a box are treated. -/
inductive Mode where
  | flat
  | consistent
  | filled
deriving DecidableEq

mutual

/-- Writes one box, with `outside` the width of what follows it up to the next break. -/
def renderBox (mode : Mode) (outside : Nat) (p : Page) : Box → Page
  | .text s => p.write s
  | .brk b =>
    let fits := match mode with
      | .flat => true
      | .consistent => false
      | .filled => (b.blank + outside : Int) ≤ p.space
    if b.never || fits then p.skip b else p.newLine b
  | .group indent consistent limit body =>
    if ((Box.group indent consistent limit body).width + outside : Int) ≤ p.space then
      renderBoxes .flat outside p body
    else
      let mode := if consistent then Mode.consistent else Mode.filled
      { renderBoxes mode outside { p with indent := p.indent + indent } body with
        indent := p.indent }

def renderBoxes (mode : Mode) (outside : Nat) (p : Page) : List Box → Page
  | [] => p
  | b :: bs => renderBoxes mode outside (renderBox mode (Box.widthToBreak outside bs) p b) bs

end

/-- The text of boxes that follow each other. -/
def render (boxes : List Box) : String :=
  (renderBoxes .filled 0 {} boxes).written

end LazyProxy.Layout
