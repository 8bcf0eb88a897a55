import LazyProxy.Text.Word

/-!
Numbers in Rust source: digits in one of four bases, a fraction, an exponent, a suffix.
-/

namespace LazyProxy.Code

open Text

/-- What follows a word at the start of the text, if there is one. -/
def dropWord? : List Char → Option (List Char)
  | [] => none
  | c :: cs => if isWordStart c then some (cs.dropWhile isWordPart) else none

/-- What follows the suffix of a literal, which may be missing. -/
def dropSuffix (cs : List Char) : List Char :=
  (dropWord? cs).getD cs

/-- What follows a number's suffix, unless the number runs on into something that is no suffix. -/
def dropNumberSuffix? (cs : List Char) : Option (List Char) :=
  match dropSuffix cs with
  | [] => some []
  | c :: rest => if isWordPart c then none else some (c :: rest)

/-- The value of a digit of bases up to sixteen. -/
def digitValue? (c : Char) : Option Nat :=
  if c.isDigit then some (c.toNat - '0'.toNat)
  else if 'a' ≤ c && c ≤ 'f' then some (c.toNat - 'a'.toNat + 10)
  else if 'A' ≤ c && c ≤ 'F' then some (c.toNat - 'A'.toNat + 10)
  else none

/-- What follows the digits of an integer. A decimal digit above the base is an error, and so is an
underscore in front of a decimal number. -/
def dropDigits? (base : Nat) (empty : Bool) : List Char → Option (List Char)
  | [] => if empty then none else some []
  | c :: cs =>
    if c == '_' then
      if empty && base == 10 then none else dropDigits? base empty cs
    else
      match digitValue? c with
      | some v =>
        if v < base then dropDigits? base false cs
        else if c.isDigit || empty then none
        else some (c :: cs)
      | none => if empty then none else some (c :: cs)

/-- What follows an integer literal. -/
def dropInteger? (cs : List Char) : Option (List Char) :=
  let digits :=
    match cs with
    | '0' :: 'x' :: r => dropDigits? 16 true r
    | '0' :: 'o' :: r => dropDigits? 8 true r
    | '0' :: 'b' :: r => dropDigits? 2 true r
    | _ => dropDigits? 10 true cs
  digits.bind dropNumberSuffix?

def isDigitOrUnderscore (c : Char) : Bool :=
  c.isDigit || c == '_'

/-- What follows the value of an exponent, if there is one. -/
def dropExponent? (cs : List Char) : Option (List Char) :=
  let unsigned :=
    match cs.dropWhile (· == '_') with
    | '+' :: r | '-' :: r => r
    | r => r
  match unsigned.dropWhile (· == '_') with
  | c :: r => if c.isDigit then some (r.dropWhile isDigitOrUnderscore) else none
  | [] => none

def isExponentMark (c : Char) : Bool :=
  c == 'e' || c == 'E'

/-- What follows the digits of a number with a fraction or an exponent. A dot that a word or another
dot follows is no decimal point. -/
def dropDecimal? : List Char → Option (List Char)
  | [] => none
  | c :: cs =>
    if !c.isDigit then none
    else
      match cs.dropWhile isDigitOrUnderscore with
      | '.' :: r =>
        if (r.head?.map fun d => d == '.' || isWordStart d).getD false then none
        else
          match r.dropWhile isDigitOrUnderscore with
          | m :: e =>
            if isExponentMark m then some ((dropExponent? e).getD (m :: e)) else some (m :: e)
          | [] => some []
      | m :: e => if isExponentMark m then dropExponent? e else none
      | [] => none

/-- What follows a float literal. -/
def dropFloat? (cs : List Char) : Option (List Char) :=
  (dropDecimal? cs).bind dropNumberSuffix?

end LazyProxy.Code
