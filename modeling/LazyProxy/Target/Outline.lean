/-!
Indented text as a sequence of steps. Blanks for the indentation are written with the first text of
a line, so that empty lines stay empty.
-/

namespace LazyProxy

/-- A step in writing indented text. -/
inductive OutlineStep where
  | write (s : String)
  | line (s : String)
  | newline
  | indent
  | dedent
  | blankLines (count : Nat)
  /-- A line, a body one level deeper, and another line. -/
  | block (opening closing : String) (body : List OutlineStep)

/-- The text written so far, and how it goes on. -/
structure Outline where
  text : String := ""
  level : Nat := 0
  atLineStart : Bool := true
deriving DecidableEq, Repr

namespace Outline

/-- The blanks of a level, with `width` per level. Their number is a machine word of 64 bits, and starts
over at zero beyond the greatest one. A level is reached step by step, and stays far below that. -/
def blanks (width level : Nat) : String :=
  String.ofList (List.replicate (level * width % UInt64.size) ' ')

/-- Adds text to the current line. -/
def write (width : Nat) (o : Outline) (s : String) : Outline :=
  if s = "" then o
  else
    let before := if o.atLineStart then blanks width o.level else ""
    { o with text := o.text ++ before ++ s, atLineStart := false }

def newline (o : Outline) : Outline :=
  { o with text := o.text ++ "\n", atLineStart := true }

def indent (o : Outline) : Outline :=
  { o with level := o.level + 1 }

/-- Goes one level back, if there is one. -/
def dedent (o : Outline) : Outline :=
  { o with level := o.level - 1 }

mutual

/-- Performs one step, with `width` blanks per level. -/
def step (width : Nat) (o : Outline) : OutlineStep → Outline
  | .write s => o.write width s
  | .line s => (o.write width s).newline
  | .newline => o.newline
  | .indent => o.indent
  | .dedent => o.dedent
  | .blankLines count => count.repeat newline o
  | .block opening closing body =>
    ((steps width (o.write width opening).newline.indent body).dedent.write width closing).newline

def steps (width : Nat) (o : Outline) : List OutlineStep → Outline
  | [] => o
  | s :: ss => steps width (step width o s) ss

end

end Outline

/-- The text that steps write. -/
def outlineText (width : Nat) (ss : List OutlineStep) : String :=
  (Outline.steps width {} ss).text

end LazyProxy
