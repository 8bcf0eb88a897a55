import LazyProxy.Text.Blank
import LazyProxy.Text.Split

/-!
Names of accessors: the words of a property's name, each with a capital, after `get` or `set`.
-/

namespace LazyProxy

open Text

/-- What separates the words of a property's name. -/
def isWordSeparator (c : Char) : Bool :=
  c == '_' || c == '-' || isBlank c

/-- A word with its first letter in upper case, if that letter is ASCII. -/
def capitalize : List Char → List Char
  | [] => []
  | c :: cs => c.toUpper :: cs

/-- The words of a property's name joined with capitals: `published_at` becomes `PublishedAt`. All
letters but the first of each word are kept as they are. -/
def classify (property : String) : String :=
  String.ofList ((splitWhen isWordSeparator property.toList).flatMap capitalize)

def getterName (property : String) : String :=
  "get" ++ classify property

def setterName (property : String) : String :=
  "set" ++ classify property

/-- A name with its ASCII letters in lower case: the form in which method names are compared. -/
def foldCase (name : String) : String :=
  String.ofList (name.toList.map Char.toLower)

end LazyProxy
