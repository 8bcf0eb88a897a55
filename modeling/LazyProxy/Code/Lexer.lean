import LazyProxy.Code.Quoted
import LazyProxy.Code.Token
import LazyProxy.Text.Blank

/-!
Reading text as tokens of Rust source. Comments are left out, except that documentation comments
become attributes.
-/

namespace LazyProxy.Code

open Text

/-- A bracket or a token that is none. -/
inductive Lexeme where
  | opening (d : Delimiter)
  | closing (d : Delimiter)
  | token (t : Token)

/-- White space between tokens: blanks and the two marks that set the direction of writing. -/
def isGap (c : Char) : Bool :=
  isBlank c || c.toNat == 0x200E || c.toNat == 0x200F

/-- The rest of a line, with its line feed. -/
def dropLine (cs : List Char) : List Char :=
  cs.dropWhile (· != '\n')

/-- What follows a block comment whose `depth` open parts are closed. Comments nest. -/
def dropComment? (depth : Nat) : List Char → Option (List Char)
  | [] => none
  | [_] => none
  | c :: d :: cs =>
    if c == '/' && d == '*' then dropComment? (depth + 1) cs
    else if c == '*' && d == '/' then
      if depth ≤ 1 then some cs else dropComment? (depth - 1) cs
    else dropComment? depth (d :: cs)

/-- Whether every carriage return stands before a line feed. -/
def returnsEndLines : List Char → Bool
  | [] => true
  | '\r' :: cs => cs.head? == some '\n' && returnsEndLines cs
  | _ :: cs => returnsEndLines cs

/-- A character of a documentation comment as a string literal writes it. -/
def escapeInString (c : Char) : List Char :=
  if c == '"' || c == '\\' then ['\\', c]
  else if c == '\n' then ['\\', 'n']
  else if c == '\r' then ['\\', 'r']
  else [c]

/-- The attribute that a documentation comment stands for. -/
def docAttribute (inner : Bool) (comment : List Char) : List Lexeme :=
  let value := "\"" ++ String.ofList (comment.flatMap escapeInString) ++ "\""
  let content := [Token.word "doc", .punct '=' false, .literal .string value]
  (if inner then [.token (.punct '#' false), .token (.punct '!' false)]
    else [.token (.punct '#' false)]) ++ [.token (.group .bracket content)]

/-- Reads a documentation comment to the end of its line. -/
def readDocLine? (inner : Bool) (cs : List Char) : Option (List Lexeme × List Char) :=
  let line := cs.takeWhile (· != '\n')
  let line := if (dropLine cs).isEmpty || line.getLast? != some '\r' then line else line.dropLast
  if returnsEndLines line then some (docAttribute inner line, dropLine cs) else none

/-- Reads a documentation comment in block form. -/
def readDocBlock? (inner : Bool) (cs : List Char) : Option (List Lexeme × List Char) := do
  let rest ← dropComment? 0 cs
  let comment := (cs.take (cs.length - rest.length - 2)).drop 3
  if returnsEndLines comment then some (docAttribute inner comment, rest) else none

/-- Reads a comment: what it stands for, and what follows it. -/
def readComment? (cs : List Char) : Option (List Lexeme × List Char) :=
  match cs with
  | '/' :: '/' :: '!' :: rest => readDocLine? true rest
  | '/' :: '/' :: '/' :: '/' :: rest => some ([], dropLine rest)
  | '/' :: '/' :: '/' :: rest => readDocLine? false rest
  | '/' :: '/' :: rest => some ([], dropLine rest)
  | '/' :: '*' :: '*' :: '/' :: rest => some ([], rest)
  | '/' :: '*' :: '!' :: _ => readDocBlock? true cs
  | '/' :: '*' :: '*' :: '*' :: _ => (dropComment? 0 cs).map ([], ·)
  | '/' :: '*' :: '*' :: _ => readDocBlock? false cs
  | _ => (dropComment? 0 cs).map ([], ·)

def startsComment : List Char → Bool
  | '/' :: '/' :: _ => true
  | '/' :: '*' :: _ => true
  | _ => false

/-- What follows a literal, and the literal's kind. -/
def dropLiteral? (cs : List Char) : Option (LiteralKind × List Char) :=
  let quoted (kind : LiteralKind) (r : Option (List Char × List Char)) :=
    r.map fun v => (kind, dropSuffix v.2)
  let number :=
    ((dropFloat? cs).map (LiteralKind.float, ·)).or ((dropInteger? cs).map (LiteralKind.integer, ·))
  match cs with
  | '"' :: r => quoted .string (readQuoted .text [] .none r)
  | 'r' :: r => quoted .string (readHashed .text r)
  | 'b' :: '"' :: r => quoted .byteString (readQuoted .bytes [] .none r)
  | 'b' :: 'r' :: r => quoted .byteString (readHashed .bytes r)
  | 'c' :: '"' :: r => quoted .cString (readQuoted .terminated [] .none r)
  | 'c' :: 'r' :: r => quoted .cString (readHashed .terminated r)
  | 'b' :: '\'' :: r => (readCharacter true r).map fun v => (.byte, dropSuffix v.2)
  | '\'' :: r => (readCharacter false r).map fun v => (.char, dropSuffix v.2)
  | _ => number

/-- The characters that operators are made of. -/
def isPunct (c : Char) : Bool :=
  "~!@#$%^&*-=+|;:,<.>/?'".toList.contains c

/-- Whether an operator character starts the text. -/
def startsPunct (cs : List Char) : Bool :=
  !startsComment cs && (cs.head?.map isPunct).getD false

/-- Reads an identifier, raw or not. -/
def readIdent? (cs : List Char) : Option (Ident × List Char) :=
  match cs with
  | 'r' :: '#' :: r => do
    let rest ← dropWord? r
    let name := String.ofList (r.take (r.length - rest.length))
    if ["_", "super", "self", "Self", "crate"].contains name then none
    else some (⟨name, true⟩, rest)
  | _ => do
    let rest ← dropWord? cs
    some (⟨String.ofList (cs.take (cs.length - rest.length)), false⟩, rest)

/-- The beginnings of quoted literals that are no identifiers even where the literal is broken. -/
def quotedStarts : List String :=
  ["r\"", "r#\"", "r##", "b\"", "b'", "br\"", "br#", "c\"", "cr\"", "cr#"]

/-- Reads a lifetime from behind its apostrophe. -/
def readLifetime? (cs : List Char) : Option (Ident × List Char) := do
  let (i, rest) ← readIdent? cs
  if rest.head? == some '\'' || (rest.head? == some '#' && !i.raw) then none
  else some (i, rest)

/-- Reads one token that is no bracket. -/
def readToken? (cs : List Char) : Option (Token × List Char) :=
  match dropLiteral? cs with
  | some (kind, rest) =>
    some (.literal kind (String.ofList (cs.take (cs.length - rest.length))), rest)
  | none =>
    if startsPunct cs then
      match cs with
      | '\'' :: r => (readLifetime? r).map fun (i, rest) => (.lifetime i, rest)
      | c :: r => some (.punct c (startsPunct r), r)
      | [] => none
    else if quotedStarts.any fun s => s.toList.isPrefixOf cs then none
    else (readIdent? cs).map fun (i, rest) => (.ident i, rest)

/-- Reads what stands at the start of the text: a gap, a comment, a bracket or another token. -/
def readLexeme? (cs : List Char) : Option (List Lexeme × List Char) :=
  match cs with
  | [] => none
  | c :: r =>
    if isGap c then some ([], r)
    else if startsComment cs then readComment? cs
    else
      match Delimiter.ofOpening? c, Delimiter.ofClosing? c with
      | some d, _ => some ([.opening d], r)
      | none, some d => some ([.closing d], r)
      | none, none => (readToken? cs).map fun (t, rest) => ([.token t], rest)

/-- The lexemes of a text. -/
def lexemes? (cs : List Char) : Option (List Lexeme) :=
  if cs.isEmpty then some []
  else
    match readLexeme? cs with
    | none => none
    | some (ls, rest) =>
      if _h : rest.length < cs.length then (lexemes? rest).map (ls ++ ·) else none
termination_by cs.length
decreasing_by exact _h

/-- Puts what stands between brackets into groups. `enclosing` holds the brackets still open,
innermost first, each with the tokens in front of it; tokens are kept last first. -/
def nest? (enclosing : List (Delimiter × List Token)) (done : List Token) :
    List Lexeme → Option (List Token)
  | [] => if enclosing.isEmpty then some done.reverse else none
  | .opening d :: ls => nest? ((d, done) :: enclosing) [] ls
  | .closing d :: ls =>
    match enclosing with
    | [] => none
    | (e, before) :: outer =>
      if d = e then nest? outer (.group d done.reverse :: before) ls else none
  | .token t :: ls => nest? enclosing (t :: done) ls

/-- The tokens of a text, if it can be cut into tokens and its brackets match. -/
def tokens? (text : String) : Option (List Token) :=
  let cs := match text.toList with
    | '\ufeff' :: cs => cs
    | cs => cs
  (lexemes? cs).bind (nest? [] [])

/-- The value of a string literal, given as written. -/
def stringValue? (written : String) : Option String :=
  match written.toList with
  | '"' :: r => (readQuoted .text [] .none r).map fun v => String.ofList v.1
  | 'r' :: r => (readHashed .text r).map fun v => String.ofList v.1
  | _ => none

end LazyProxy.Code
