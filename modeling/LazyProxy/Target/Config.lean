/-!
Target languages, and what may be set about the proxies written in them.
-/

namespace LazyProxy

inductive Target where
  | php
  | rust
deriving DecidableEq, Repr

namespace Target

def name : Target → String
  | php => "php"
  | rust => "rust"

def all : List Target :=
  [php, rust]

def ofName? (s : String) : Option Target :=
  all.find? (·.name == s)

/-- The extension of generated files. -/
def fileExtension : Target → String
  | php => "php"
  | rust => "rs"

/-- What stands between the segments of a name. -/
def separator : Target → String
  | php => "\\"
  | rust => "::"

/-- The segment that proxies are put in unless another one is set. -/
def defaultSegment : Target → String
  | php => "_Proxy"
  | rust => "_proxy"

/-- What proxies implement unless something else is set. -/
def defaultMarker : Target → String
  | php => "Docproxy\\Mapping\\Proxy\\ProxyInterface"
  | rust => "::docproxy::ProxyInterface"

end Target

/-- What generated files start with unless another text is set. -/
def defaultBanner : String :=
  "DO NOT EDIT THIS FILE - IT WAS CREATED BY THE DOCPROXY PROXY FACTORY."

structure Config where
  target : Target := .php
  /-- The segment below a document's namespace that proxies are put in. -/
  segment : Option String := none
  /-- The name of the interface or trait that proxies implement. -/
  marker : Option String := none
  /-- Whether the document's name is a further segment. -/
  withName : Bool := false
  /-- Text for the top of every file. An empty one is left out. -/
  banner : String := defaultBanner
  /-- Blanks per level of indentation in PHP. -/
  indent : Nat := 4
deriving DecidableEq, Repr

namespace Config

def effectiveSegment (c : Config) : String :=
  c.segment.getD c.target.defaultSegment

def effectiveMarker (c : Config) : String :=
  c.marker.getD c.target.defaultMarker

end Config

end LazyProxy
