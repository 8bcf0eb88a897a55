/-!
Identifiers that both target languages accept, and the words that Rust reserves.
-/

namespace LazyProxy

/-- What an identifier may start with. -/
def isIdentifierStart (c : Char) : Bool :=
  c.isAlpha || c == '_'

/-- What an identifier may go on with. -/
def isIdentifierPart (c : Char) : Bool :=
  c.isAlphanum || c == '_'

/-- Whether a name is a letter or underscore followed by letters, digits and underscores, all ASCII.
PHP and Rust both accept this shape, so nothing else may reach generated source. -/
def isIdentifier (name : String) : Bool :=
  match name.toList with
  | [] => false
  | c :: cs => isIdentifierStart c && cs.all isIdentifierPart

/-- Words that a Rust item, field or parameter can only be called in the raw form `r#…`. -/
def rustKeywords : List String :=
  ["as", "break", "const", "continue", "crate", "else", "enum", "extern", "false", "fn", "for",
    "if", "impl", "in", "let", "loop", "match", "mod", "move", "mut", "pub", "ref", "return",
    "static", "struct", "super", "trait", "true", "type", "unsafe", "use", "where", "while",
    "async", "await", "dyn", "abstract", "become", "box", "do", "final", "macro", "override",
    "priv", "typeof", "unsized", "virtual", "yield", "try", "gen"]

/-- Words that have no raw form. -/
def unrawableKeywords : List String :=
  ["self", "Self", "super", "crate", "_"]

def isRustKeyword (name : String) : Bool :=
  rustKeywords.contains name

def isUnrawable (name : String) : Bool :=
  unrawableKeywords.contains name

end LazyProxy
