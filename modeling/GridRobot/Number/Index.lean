/-!
# Indices

An index is an integer of 64 bits with a sign. Larger numbers are no indices of anything.
-/

namespace GridRobot.Index

/-- The number of indices on either side of zero. -/
def bound : Int := 0x8000000000000000

/-- Is the integer an index? -/
def fits (n : Int) : Bool := -bound ≤ n && n < bound

/-- The message that an integer is no index. -/
def tooLarge : String := "cannot fit 'int' into an index-sized integer"

end GridRobot.Index
