/-!
Tokens of Rust source as trees: what stands between two brackets is one token.
-/

namespace LazyProxy.Code

inductive Delimiter where
  | paren
  | bracket
  | brace
deriving DecidableEq, Repr

namespace Delimiter

def opening : Delimiter → Char
  | paren => '('
  | bracket => '['
  | brace => '\x7b'

def closing : Delimiter → Char
  | paren => ')'
  | bracket => ']'
  | brace => '\x7d'

def ofOpening? (c : Char) : Option Delimiter :=
  [paren, bracket, brace].find? (·.opening == c)

def ofClosing? (c : Char) : Option Delimiter :=
  [paren, bracket, brace].find? (·.closing == c)

end Delimiter

inductive LiteralKind where
  | string
  | byteString
  | cString
  | byte
  | char
  | integer
  | float
deriving DecidableEq, Repr

/-- A name. In the raw form, written `r#…`, a reserved word is a name like any other. -/
structure Ident where
  name : String
  raw : Bool := false
deriving DecidableEq, Repr, Inhabited

/-- The identifier as written. -/
def Ident.text (i : Ident) : String :=
  if i.raw then "r#" ++ i.name else i.name

inductive Token where
  | ident (i : Ident)
  /-- A lifetime, without its apostrophe. -/
  | lifetime (i : Ident)
  /-- A punctuation character. It is joint if another one follows it directly. -/
  | punct (c : Char) (joint : Bool)
  /-- A literal as written. -/
  | literal (kind : LiteralKind) (text : String)
  | group (d : Delimiter) (body : List Token)
deriving Repr, Inhabited

namespace Token

/-- A word that is not in the raw form. -/
def word (name : String) : Token :=
  .ident ⟨name, false⟩

/-- An operator of several characters. -/
def operator (text : String) : List Token :=
  match text.toList.reverse with
  | [] => []
  | last :: before => before.reverse.map (.punct · true) ++ [.punct last false]

mutual

/-- How many tokens there are, at any depth. -/
def count : Token → Nat
  | .group _ body => countAll body + 1
  | _ => 1

def countAll : List Token → Nat
  | [] => 0
  | t :: ts => count t + countAll ts

end

mutual

/-- A token as text that is read as the same token again. -/
def text : Token → String
  | .ident i => i.text
  | .lifetime i => "'" ++ i.text
  | .punct c _ => c.toString
  | .literal _ text => text
  | .group d body => d.opening.toString ++ textOf body ++ d.closing.toString

/-- Tokens as text: a blank follows each one that is not joint. -/
def textOf : List Token → String
  | [] => ""
  | t :: ts => text t ++ (match t with | .punct _ true => "" | _ => " ") ++ textOf ts

end

end Token

end LazyProxy.Code
