import GridRobot.Number.Binary64

/-!
# The shortest decimal of a number

The decimal text of a number has the fewest digits that read back as the same number; of the
decimals with that many digits it is the nearest one. The candidates on a decimal grid are the two
neighbours of the number, tested against the interval of reals that round to it.
-/

namespace GridRobot.Shortest

/-- The reals that round to a positive number, as fractions over one denominator: the number
itself, the least and the greatest of them, and whether these two ends belong to the interval. -/
structure Interval where
  value : Nat
  low : Nat
  high : Nat
  denominator : Nat
  closed : Bool
deriving Repr

/-- The interval of `significand · 2 ^ exponent`, counted in quarters of the last place. The gap
below a power of two is half as wide as the gap above. -/
def interval (significand : Nat) (exponent : Int) : Interval :=
  let narrow := significand = Binary64.leastSignificand ∧ Binary64.leastExponent < exponent
  let unit := exponent - 2
  let scale := if 0 ≤ unit then Nat.pow 2 unit.toNat else 1
  { value := 4 * significand * scale
    low := (4 * significand - (if narrow then 1 else 2)) * scale
    high := (4 * significand + 2) * scale
    denominator := if 0 ≤ unit then 1 else Nat.pow 2 (-unit).toNat
    closed := significand % 2 = 0 }

/-- Does `digits · 10 ^ place` lie in the interval? -/
def Interval.holds (i : Interval) (digits : Nat) (place : Int) : Bool :=
  let up := if 0 ≤ place then Nat.pow 10 place.toNat else 1
  let down := if 0 ≤ place then 1 else Nat.pow 10 (-place).toNat
  let point := digits * up * i.denominator
  let low := i.low * down
  let high := i.high * down
  if i.closed then low ≤ point && point ≤ high else low < point && point < high

/-- Is `10 ^ place` at most the value? -/
def Interval.reaches (i : Interval) (place : Int) : Bool :=
  if 0 ≤ place then Nat.pow 10 place.toNat * i.denominator ≤ i.value
  else i.denominator ≤ i.value * Nat.pow 10 (-place).toNat

/-- Move a place up while the value reaches the next one. -/
def Interval.climb (i : Interval) : Nat → Int → Int
  | 0, place => place
  | n + 1, place => if i.reaches (place + 1) then i.climb n (place + 1) else place

/-- The place of the leading digit: an estimate from the binary length, then at most four steps up.
-/
def Interval.leading (i : Interval) : Int :=
  let bits : Int := (Nat.log2 i.value : Int) - (Nat.log2 i.denominator : Int)
  i.climb 4 (bits * 30103 / 100000 - 2)

/-- The value divided by `10 ^ place`: quotient, remainder and divisor. -/
def Interval.split (i : Interval) (place : Int) : Nat × Nat × Nat :=
  let num := if 0 ≤ place then i.value else i.value * Nat.pow 10 (-place).toNat
  let den := if 0 ≤ place then Nat.pow 10 place.toNat * i.denominator else i.denominator
  (num / den, num % den, den)

/-- The neighbour of the value on the grid of `10 ^ place` that lies in the interval; of two, the
nearer, and the even one of two equally near. -/
def Interval.onGrid (i : Interval) (place : Int) : Option Nat :=
  let (q, r, d) := i.split place
  let below := i.holds q place && 0 < q
  let above := i.holds (q + 1) place
  if below && above then
    some (if 2 * r < d then q else if d < 2 * r then q + 1 else if q % 2 = 0 then q else q + 1)
  else if below then some q
  else if above then some (q + 1)
  else none

/-- Try grids of growing fineness, from `place` down. -/
def Interval.search (i : Interval) : Nat → Int → Nat × Int
  | 0, place => ((i.split place).1, place)
  | n + 1, place =>
    match i.onGrid place with
    | some q => (q, place)
    | none => i.search n (place - 1)

/-- Drop trailing zeros of the digits, raising the place. -/
def trim : Nat → Nat → Int → Nat × Int
  | 0, digits, place => (digits, place)
  | n + 1, digits, place =>
    if digits % 10 = 0 ∧ digits ≠ 0 then trim n (digits / 10) (place + 1) else (digits, place)

/-- The shortest decimal `digits · 10 ^ place` of a positive number. -/
def decimal (significand : Nat) (exponent : Int) : Nat × Int :=
  let i := interval significand exponent
  let (digits, place) := i.search 17 i.leading
  trim 20 digits place

end GridRobot.Shortest
