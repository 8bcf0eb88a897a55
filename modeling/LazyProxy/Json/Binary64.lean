/-!
Binary floating-point numbers of 64 bits, computed with exactly: rounding, multiplication and
division, and the shortest decimal that is read as the same number.
-/

namespace LazyProxy

/-- The number `mantissa * 2 ^ exponent`, without a sign. -/
structure Binary64 where
  mantissa : Nat
  exponent : Int
deriving DecidableEq, Repr, Inhabited

namespace Binary64

def leastExponent : Int := -1074

def greatestExponent : Int := 971

def zero : Binary64 := ⟨0, leastExponent⟩

/-- A quotient rounded to the nearest natural number, halves to the even one. -/
def roundDiv (a b : Nat) : Nat :=
  let q := a / b
  let r := a % b
  if b < 2 * r || (2 * r == b && q % 2 == 1) then q + 1 else q

/-- The fraction `a / b` times a power of two. -/
def scale (a b : Nat) (exponent : Int) : Nat × Nat :=
  if 0 ≤ exponent then (a * Nat.pow 2 exponent.toNat, b) else (a, b * Nat.pow 2 (-exponent).toNat)

/-- The number nearest to the fraction `a / b`. There is none if the fraction is too large. -/
def ofRatio? (a b : Nat) : Option Binary64 :=
  if a = 0 then some zero
  else
    let low := max leastExponent ((a.log2 : Int) - b.log2 - 53)
    let (c, d) := scale a b (-low)
    let (exponent, mantissa) :=
      if c / d < Nat.pow 2 53 then (low, roundDiv c d) else (low + 1, roundDiv c (2 * d))
    let (exponent, mantissa) :=
      if mantissa = Nat.pow 2 53 then (exponent + 1, Nat.pow 2 52) else (exponent, mantissa)
    if greatestExponent < exponent then none else some ⟨mantissa, exponent⟩

def ofNat? (n : Nat) : Option Binary64 :=
  ofRatio? n 1

def mul? (x y : Binary64) : Option Binary64 :=
  let (a, b) := scale (x.mantissa * y.mantissa) 1 (x.exponent + y.exponent)
  ofRatio? a b

/-- The quotient of two numbers, the second of which is not zero. -/
def div? (x y : Binary64) : Option Binary64 :=
  let (a, b) := scale x.mantissa y.mantissa (x.exponent - y.exponent)
  ofRatio? a b

/-- Four times the mantissa, and the same for the ends of the interval that is rounded to it. -/
def bounds (x : Binary64) : Nat × Nat × Nat :=
  let m := 4 * x.mantissa
  let below := if x.mantissa = Nat.pow 2 52 ∧ leastExponent < x.exponent then 1 else 2
  (m - below, m, m + 2)

/-- The multiple of a power of ten that is nearest to the number among those read as the number. -/
def onGrid? (x : Binary64) (exponent : Int) : Option Nat :=
  let (a, b) := scale 1 1 (x.exponent - 2)
  let (a, b) :=
    if 0 ≤ exponent then (a, b * Nat.pow 10 exponent.toNat)
    else (a * Nat.pow 10 (-exponent).toNat, b)
  let (low, value, high) := x.bounds
  let inside (n : Nat) : Bool :=
    if x.mantissa % 2 = 0 then low * a ≤ n * b && n * b ≤ high * a
    else low * a < n * b && n * b < high * a
  let n := value * a / b
  let distance := value * a - n * b
  let upward := (n + 1) * b - value * a
  match inside n, inside (n + 1) with
  | true, true =>
    some (if distance < upward || (distance == upward && n % 2 == 0) then n else n + 1)
  | true, false => some n
  | false, true => some (n + 1)
  | false, false => none

/-- The first power of ten at or below `10 ^ exponent` with a multiple that is read as the number,
and that multiple. -/
def firstOnGrid (x : Binary64) : Nat → Int → Nat × Int
  | 0, exponent => (0, exponent)
  | n + 1, exponent =>
    match x.onGrid? exponent with
    | some m => (m, exponent)
    | none => x.firstOnGrid n (exponent - 1)

/-- The decimal `m * 10 ^ e` with the fewest digits that is read as the number. -/
def shortest (x : Binary64) : Nat × Int :=
  x.firstOnGrid 650 309

/-- An exponent of ten with its sign and at least two digits. -/
def exponentText (e : Int) : String :=
  let digits := (Nat.toDigits 10 e.natAbs)
  "e" ++ (if e < 0 then "-" else "+") ++
    String.ofList (if digits.length < 2 then '0' :: digits else digits)

/-- The number with the fewest digits, always with a decimal point or an exponent. Numbers from
`10 ^ 16` on and those below `10 ^ -5` have an exponent. -/
def text (x : Binary64) : String :=
  if x.mantissa = 0 then "0.0"
  else
    let (m, e) := x.shortest
    let digits := Nat.toDigits 10 m
    let point : Int := digits.length + e
    if 0 ≤ e ∧ point ≤ 16 then
      String.ofList (digits ++ List.replicate e.toNat '0') ++ ".0"
    else if 0 < point ∧ point ≤ 16 then
      String.ofList (digits.take point.toNat ++ '.' :: digits.drop point.toNat)
    else if -5 < point ∧ point ≤ 0 then
      "0." ++ String.ofList (List.replicate (-point).toNat '0' ++ digits)
    else
      String.ofList (digits.take 1 ++ if digits.length = 1 then [] else '.' :: digits.drop 1) ++
        exponentText (point - 1)

end Binary64

end LazyProxy
