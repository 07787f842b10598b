/-!
# Binary floating-point numbers of 64 bits

A finite number is `± significand · 2 ^ exponent` with a significand below `2 ^ 53`. Numbers read
from a decimal are in the normal form of the format: the significand has 53 bits, or the exponent is
the least one. All arithmetic here is exact, on natural numbers.
-/

namespace GridRobot

/-- A number of the 64-bit binary format. -/
inductive Binary64 where
  | nan
  | infinite (negative : Bool)
  | finite (negative : Bool) (significand : Nat) (exponent : Int)
deriving DecidableEq, Repr, Inhabited

namespace Binary64

/-- The exponent of the smallest positive number. -/
def leastExponent : Int := -1074

/-- The largest exponent of a finite number. -/
def greatestExponent : Int := 971

/-- The least significand with 53 bits. -/
def leastSignificand : Nat := 0x10000000000000

/-- Zero, with its sign. -/
def zero (negative : Bool) : Binary64 := finite negative 0 leastExponent

/-- Both zeros, and nothing else. -/
def isZero : Binary64 → Bool
  | finite _ m _ => m == 0
  | _ => false

/-- The quotient rounded to the nearest natural number, a half to the even one. -/
def roundQuotient (num den : Nat) : Nat :=
  let q := num / den
  let twice := 2 * (num % den)
  if twice < den then q
  else if den < twice then q + 1
  else if q % 2 = 0 then q else q + 1

/-- `num · 2 ^ shift` as a fraction of natural numbers. -/
def scaled (num den : Nat) (shift : Int) : Nat × Nat :=
  if 0 ≤ shift then (num * Nat.pow 2 shift.toNat, den)
  else (num, den * Nat.pow 2 (-shift).toNat)

/-- The number nearest to the positive fraction `num / den`, a half to the even significand. -/
def ofFraction (negative : Bool) (num den : Nat) : Binary64 :=
  let low : Int := (Nat.log2 num : Int) - (Nat.log2 den : Int) - 53
  -- the quotient by `2 ^ low` has 53 or 54 bits
  let (n, d) := scaled num den (-low)
  let tight := if n / d < 2 * leastSignificand then low else low + 1
  let exponent := max tight leastExponent
  let (n, d) := scaled num den (-exponent)
  let m := roundQuotient n d
  let (m, exponent) :=
    if m = 2 * leastSignificand then (leastSignificand, exponent + 1) else (m, exponent)
  if exponent ≤ greatestExponent then finite negative m exponent else infinite negative

/-- The number nearest to `± digits · 10 ^ exponent`. Decimals far beyond the range are settled by
their number of digits, so that no huge power is formed. -/
def ofDecimal (negative : Bool) (digits : Nat) (exponent : Int) : Binary64 :=
  let top := exponent + ((Nat.toDigits 10 digits).length : Int)
  if digits = 0 then zero negative
  else if 310 < top then infinite negative
  else if top < -330 then zero negative
  else if 0 ≤ exponent then ofFraction negative (digits * Nat.pow 10 exponent.toNat) 1
  else ofFraction negative digits (Nat.pow 10 (-exponent).toNat)

/-! ## Sums -/

/-- The number with the other sign. -/
def negate : Binary64 → Binary64
  | nan => nan
  | infinite negative => infinite !negative
  | finite negative m e => finite (!negative) m e

/-- A finite number as a fraction: the numerator, and the power of two below it. -/
def fraction? : Binary64 → Option (Int × Nat)
  | finite negative m e =>
    let n : Int := m * Nat.pow 2 e.toNat
    some (if negative then -n else n, (-e).toNat)
  | _ => none

/-- The number nearest to `num / 2 ^ places`. -/
def ofDyadic (num : Int) (places : Nat) : Binary64 :=
  if num = 0 then zero false else ofFraction (num < 0) num.natAbs (Nat.pow 2 places)

/-- The number nearest to an integer. -/
def ofInt (n : Int) : Binary64 := ofDyadic n 0

/-- The sum, rounded. Zeros keep their sign if they agree on it. -/
def add : Binary64 → Binary64 → Binary64
  | nan, _ => nan
  | _, nan => nan
  | infinite a, infinite b => if a = b then infinite a else nan
  | infinite a, _ => infinite a
  | _, infinite b => infinite b
  | finite a m e, finite b n f =>
    if m = 0 && n = 0 then zero (a && b)
    else
      -- both as fractions over the same power of two
      let low := min e f
      let sum : Int := (if a then -1 else 1) * (m * Nat.pow 2 (e - low).toNat : Nat)
        + (if b then -1 else 1) * (n * Nat.pow 2 (f - low).toNat : Nat)
      ofDyadic (sum * Nat.pow 2 low.toNat) (-low).toNat

/-- The integer that a number is equal to, if there is one. -/
def toInt? : Binary64 → Option Int
  | finite negative m e =>
    let unit := Nat.pow 2 e.natAbs
    let n? := if 0 ≤ e then some (m * unit) else if m % unit = 0 then some (m / unit) else none
    n?.map (fun n => if negative then -(n : Int) else (n : Int))
  | _ => none

end Binary64

end GridRobot
