/-!
Places in a text, and what may be wrong with a text that is to be JSON.
-/

namespace LazyProxy.Json

/-- A place in a text: some bytes into what is left of the text. -/
structure Place where
  rest : List Char
  skipped : Nat := 0
deriving DecidableEq, Repr

/-- A line and the number of bytes in front of a place on that line. -/
structure Position where
  line : Nat := 1
  column : Nat := 0
deriving DecidableEq, Repr

/-- The number of bytes of a text in UTF-8. -/
def byteCount (cs : List Char) : Nat :=
  cs.foldl (fun n c => n + c.utf8Size) 0

namespace Position

/-- The position that a number of bytes further on leads to, at most the end of the text. -/
def advance (p : Position) : Nat → List Char → Position
  | 0, _ => p
  | _, [] => p
  | n + 1, c :: cs =>
    if n + 1 < c.utf8Size then { p with column := p.column + (n + 1) }
    else
      let next : Position :=
        if c = '\n' then { line := p.line + 1 } else { p with column := p.column + c.utf8Size }
      next.advance (n + 1 - c.utf8Size) cs

end Position

/-- Where a place of a text is. -/
def Place.position (text : List Char) (p : Place) : Position :=
  ({} : Position).advance (byteCount text - byteCount p.rest + p.skipped) text

inductive Reason where
  | endInValue
  | endInArray
  | endInObject
  | endInString
  | noColon
  | noCommaInArray
  | noCommaInObject
  | noWord
  | noValue
  | noKey
  | badEscape
  | badNumber
  | tooLargeNumber
  | controlCharacter
  | loneSurrogate
  | halfSurrogate
  | trailingComma
  | trailingText
  | tooDeep
deriving DecidableEq, Repr

def Reason.message : Reason → String
  | endInValue => "EOF while parsing a value"
  | endInArray => "EOF while parsing a list"
  | endInObject => "EOF while parsing an object"
  | endInString => "EOF while parsing a string"
  | noColon => "expected `:`"
  | noCommaInArray => "expected `,` or `]`"
  | noCommaInObject => "expected `,` or `\x7d`"
  | noWord => "expected ident"
  | noValue => "expected value"
  | noKey => "key must be a string"
  | badEscape => "invalid escape"
  | badNumber => "invalid number"
  | tooLargeNumber => "number out of range"
  | controlCharacter => "control character (\\u0000-\\u001F) found while parsing a string"
  | loneSurrogate => "lone leading surrogate in hex escape"
  | halfSurrogate => "unexpected end of hex escape"
  | trailingComma => "trailing comma"
  | trailingText => "trailing characters"
  | tooDeep => "recursion limit exceeded"

structure Fault where
  reason : Reason
  place : Place
deriving DecidableEq, Repr

namespace Fault

/-- A fault found before the first character of what is left. -/
def here (r : Reason) (rest : List Char) : Fault :=
  ⟨r, ⟨rest, 0⟩⟩

/-- A fault found at the next byte. -/
def next (r : Reason) (rest : List Char) : Fault :=
  ⟨r, ⟨rest, 1⟩⟩

end Fault

end LazyProxy.Json
