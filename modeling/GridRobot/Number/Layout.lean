import GridRobot.Number.Shortest

/-!
# How numbers are written

The digits of a number come from `Shortest`; where the point stands and when an exponent is written
are the decisions of a layout.
-/

namespace GridRobot

/-- The decisions of a decimal layout. -/
structure NumberLayout where
  /-- The least place of a leading digit that is written without an exponent. -/
  least : Int
  /-- The least place of a leading digit above which an exponent is written again. -/
  beyond : Int
  /-- The least number of exponent digits. -/
  exponentWidth : Nat
  /-- The text of a number that is none. -/
  nan : String
  /-- The text of an infinite number, without its sign. -/
  infinity : String
deriving Repr

namespace NumberLayout

/-- Numbers shown to the player: positional from `0.0001` up to sixteen digits before the point. -/
def shown : NumberLayout := ⟨-4, 16, 2, "nan", "inf"⟩

/-- Numbers in program text: as they are shown, but for the names of the special ones. -/
def source : NumberLayout := ⟨-4, 16, 2, "NaN", "Infinity"⟩

/-- The decimal digits of a natural number. -/
def digits (n : Nat) : List Char := Nat.toDigits 10 n

/-- Digits before the point and after it, for a leading digit at `lead`. -/
def positional (ds : List Char) (lead : Int) : List Char :=
  if lead < 0 then
    '0' :: '.' :: (List.replicate (-lead - 1).toNat '0' ++ ds)
  else
    let whole := lead.toNat + 1
    let rest := ds.drop whole
    ds.take whole ++ List.replicate (whole - ds.length) '0' ++
      '.' :: (if rest.isEmpty then ['0'] else rest)

/-- One digit, the others after a point, and the exponent with its sign. -/
def scientific (layout : NumberLayout) (ds : List Char) (lead : Int) : List Char :=
  let fraction := ds.drop 1
  let size := digits lead.natAbs
  ds.take 1 ++ (if fraction.isEmpty then [] else '.' :: fraction) ++
    ['e', if lead < 0 then '-' else '+'] ++
    List.replicate (layout.exponentWidth - size.length) '0' ++ size

/-- The text of a positive number. -/
def magnitude (layout : NumberLayout) (significand : Nat) (exponent : Int) : List Char :=
  if significand = 0 then ['0', '.', '0']
  else
    let (n, place) := Shortest.decimal significand exponent
    let ds := digits n
    let lead := place + (ds.length : Int) - 1
    if layout.least ≤ lead ∧ lead < layout.beyond then positional ds lead
    else layout.scientific ds lead

/-- The text of a number. -/
def write (layout : NumberLayout) : Binary64 → List Char
  | .nan => layout.nan.toList
  | .infinite negative => (if negative then ['-'] else []) ++ layout.infinity.toList
  | .finite negative m e => (if negative then ['-'] else []) ++ layout.magnitude m e

end NumberLayout

end GridRobot
