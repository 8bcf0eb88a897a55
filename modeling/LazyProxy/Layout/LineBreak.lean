import LazyProxy.Text.Cluster
import LazyProxy.Text.Width

/-!
Where a line of text may be broken: the pair rules of the Unicode line breaking algorithm for the
characters of ASCII. Other characters count as letters, and wide ones as ideographs. Marks belong to
the character before them.
-/

namespace LazyProxy.Layout

/-- Classes of characters with the same rules. -/
inductive BreakClass where
  | space
  | letter
  | digit
  | ideograph
  | opening
  | closing
  | closingParenthesis
  | quotation
  | exclamation
  | infixSign
  | slash
  | hyphen
  | breakAfter
  | numberPrefix
  | numberSuffix
deriving DecidableEq, Repr

def breakClass (c : Char) : BreakClass :=
  if c = ' ' then .space
  else if c.isDigit then .digit
  else if c = '(' ∨ c = '[' ∨ c = '\x7b' then .opening
  else if c = '\x7d' then .closing
  else if c = ')' ∨ c = ']' then .closingParenthesis
  else if c = '"' ∨ c = '\'' then .quotation
  else if c = '!' ∨ c = '?' then .exclamation
  else if c = ',' ∨ c = '.' ∨ c = ':' ∨ c = ';' then .infixSign
  else if c = '/' then .slash
  else if c = '-' then .hyphen
  else if c = '|' ∨ c = '\t' then .breakAfter
  else if c = '$' ∨ c = '+' ∨ c = '\\' then .numberPrefix
  else if c = '%' then .numberSuffix
  else if Text.isWide c then .ideograph
  else .letter

/-- Whether nothing may be broken in front of a class, even behind spaces. -/
def BreakClass.sticksBack : BreakClass → Bool
  | .closing | .closingParenthesis | .exclamation | .infixSign | .slash => true
  | _ => false

/-- Whether a line may be broken between neighbours, none of which is a space. -/
def breaksBetween (before after : BreakClass) : Bool :=
  if after.sticksBack || before == .opening then false
  else if before == .quotation || after == .quotation then false
  else
    match before, after with
    | _, .breakAfter | _, .hyphen => false
    | .letter, .letter | .letter, .digit | .digit, .letter | .digit, .digit => false
    | .numberPrefix, .ideograph | .ideograph, .numberSuffix => false
    | .numberPrefix, .letter | .numberSuffix, .letter => false
    | .letter, .numberPrefix | .letter, .numberSuffix => false
    | .closing, .numberPrefix | .closing, .numberSuffix => false
    | .closingParenthesis, .numberPrefix | .closingParenthesis, .numberSuffix => false
    | .digit, .numberPrefix | .digit, .numberSuffix => false
    | .numberSuffix, .opening | .numberPrefix, .opening => false
    | .numberSuffix, .digit | .numberPrefix, .digit => false
    | .hyphen, .digit | .infixSign, .digit | .slash, .digit => false
    | .infixSign, .letter => false
    | .letter, .opening | .digit, .opening => false
    | .closingParenthesis, .letter | .closingParenthesis, .digit => false
    | _, _ => true

/-- Whether a line may be broken behind spaces that follow a class. -/
def breaksBehindSpaces (before after : BreakClass) : Bool :=
  !after.sticksBack && before != .opening && !(before == .quotation && after == .opening)

/-- The character that joins pictographs. -/
def isJoiner (c : Char) : Bool :=
  c.toNat == 0x200D

/-- The class that counts behind a character, if `last` counts in front of it. Spaces and marks leave
it as it is. -/
def classBehind (last : Option BreakClass) (c : Char) : Option BreakClass :=
  if c = ' ' ∨ Text.isMark c then last else some (breakClass c)

/-- Whether a line may be broken between two characters. `last` is the class that counts behind the
first one. -/
def mayBreak (last : Option BreakClass) (c d : Char) : Bool :=
  if d = ' ' ∨ Text.isMark d ∨ isJoiner c then false
  else
    match last with
    | none => c = ' ' && !(breakClass d).sticksBack
    | some k =>
      if c = ' ' then breaksBehindSpaces k (breakClass d) else breaksBetween k (breakClass d)

end LazyProxy.Layout
