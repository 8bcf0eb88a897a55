import LazyProxy.Json.Fault
import LazyProxy.Json.Value

/-!
Reading numbers. The digits are taken into a significand as long as it fits 64 bits; what goes
beyond only counts for the exponent.
-/

namespace LazyProxy.Json

/-- A result with what is left of the text. -/
abbrev Reading (α : Type) := Except Fault (α × List Char)

def digit? (c : Char) : Option Nat :=
  if c.isDigit then some (c.toNat - '0'.toNat) else none

/-- The text without the digits it starts with. -/
def dropDigits (cs : List Char) : List Char :=
  cs.dropWhile Char.isDigit

/-- Whether a significand still fits 64 bits. -/
def fits (significand : Nat) : Bool :=
  significand < Nat.pow 2 64

def exponentLimit : Nat := Nat.pow 2 31 - 1

/-- `m * 10 ^ e`, by one multiplication or division with a power of ten that has been rounded
itself. Very small numbers take more than one division. There is none if the number is too large. -/
def decimal? : Nat → Binary64 → Int → Option Binary64
  | 0, x, _ => some x
  | n + 1, x, e =>
    if e.natAbs ≤ 308 then do
      let power ← Binary64.ofNat? (Nat.pow 10 e.natAbs)
      if 0 ≤ e then x.mul? power else x.div? power
    else if x.mantissa = 0 then some x
    else if 0 ≤ e then none
    else do
      let power ← Binary64.ofNat? (Nat.pow 10 308)
      let y ← x.div? power
      decimal? n y (e + 308)

/-- The number with a significand and an exponent of ten. -/
def float (negative : Bool) (significand : Nat) (e : Int) (rest : List Char) : Reading Number :=
  match (Binary64.ofNat? significand).bind fun x => decimal? 8 x e with
  | some x => .ok (.float negative x, rest)
  | none => .error (.here .tooLargeNumber rest)

/-- The digits of an exponent behind its first one. Beyond the limit all that counts is whether the
number is zero. -/
def readExponentDigits (negative : Bool) (significand : Nat) (start : Int) (negativeExponent : Bool)
    (exponent : Nat) : List Char → Reading Number
  | [] =>
    float negative significand (if negativeExponent then start - exponent else start + exponent) []
  | c :: cs =>
    match digit? c with
    | none =>
      float negative significand (if negativeExponent then start - exponent else start + exponent)
        (c :: cs)
    | some d =>
      let more := exponent * 10 + d
      if more ≤ exponentLimit then
        readExponentDigits negative significand start negativeExponent more cs
      else if significand ≠ 0 ∧ !negativeExponent then .error (.here .tooLargeNumber cs)
      else .ok (.float negative .zero, dropDigits cs)

/-- An exponent, from behind its letter. -/
def readExponent (negative : Bool) (significand : Nat) (start : Int) (cs : List Char) :
    Reading Number :=
  let (negativeExponent, cs) := match cs with
    | '+' :: cs => (false, cs)
    | '-' :: cs => (true, cs)
    | cs => (false, cs)
  match cs with
  | [] => .error (.here .endInValue [])
  | c :: rest =>
    match digit? c with
    | some d => readExponentDigits negative significand start negativeExponent d rest
    | none => .error (.next .badNumber cs)

/-- What may follow the digits of a number: an exponent or nothing. -/
def readAfterDigits (negative : Bool) (significand : Nat) (e : Int) (cs : List Char) :
    Reading Number :=
  match cs with
  | 'e' :: rest => readExponent negative significand e rest
  | 'E' :: rest => readExponent negative significand e rest
  | _ => float negative significand e cs

/-- The digits behind a decimal point. `some` tells whether there has been one already. -/
def readFraction (negative : Bool) (significand : Nat) (e : Int) (some : Bool) :
    List Char → Reading Number
  | [] =>
    if some then float negative significand e [] else .error (.here .endInValue [])
  | c :: cs =>
    match digit? c with
    | none =>
      if some then readAfterDigits negative significand e (c :: cs)
      else .error (.next .badNumber (c :: cs))
    | Option.some d =>
      let more := significand * 10 + d
      if fits more then readFraction negative more (e - 1) true cs
      else readAfterDigits negative significand e (dropDigits cs)

/-- A number whose digits up to here do not fit 64 bits. -/
def readLong (negative : Bool) (significand : Nat) (cs : List Char) : Reading Number :=
  let rest := dropDigits cs
  let e : Int := cs.length - rest.length
  match rest with
  | '.' :: rest => readFraction negative significand e false rest
  | _ => readAfterDigits negative significand e rest

/-- What follows the digits of a number that fit 64 bits. -/
def readRest (negative : Bool) (significand : Nat) (cs : List Char) : Reading Number :=
  match cs with
  | '.' :: rest => readFraction negative significand 0 false rest
  | 'e' :: rest => readExponent negative significand 0 rest
  | 'E' :: rest => readExponent negative significand 0 rest
  | _ =>
    if !negative then .ok (.integer significand, cs)
    else if 0 < significand ∧ significand ≤ Nat.pow 2 63 then .ok (.integer (-significand), cs)
    else float negative significand 0 cs

/-- The digits of a number behind its first one. -/
def readDigits (negative : Bool) (significand : Nat) : List Char → Reading Number
  | [] => readRest negative significand []
  | c :: cs =>
    match digit? c with
    | none => readRest negative significand (c :: cs)
    | some d =>
      let more := significand * 10 + d
      if fits more then readDigits negative more cs else readLong negative significand (c :: cs)

/-- A number without its sign. Only zero may start with a zero. -/
def readMagnitude (negative : Bool) (cs : List Char) : Reading Number :=
  match cs with
  | [] => .error (.here .endInValue [])
  | c :: rest =>
    match digit? c with
    | none => .error (.next .badNumber cs)
    | some 0 =>
      match rest with
      | d :: _ => if d.isDigit then .error (.next .badNumber rest) else readRest negative 0 rest
      | [] => readRest negative 0 []
    | some d => readDigits negative d rest

def readNumber (cs : List Char) : Reading Number :=
  match cs with
  | '-' :: rest => readMagnitude true rest
  | _ => readMagnitude false cs

/-- The number as it is shown. -/
def Number.text : Number → String
  | .integer n => toString n
  | .float negative x => (if negative then "-" else "") ++ x.text

end LazyProxy.Json
