/-!
# Integers that can be written

A text takes integers up to a number of digits, be it read or written. A message that would have to
tell a longer one is never told: whoever wants to tell it stops with a message about the limit
instead.
-/

namespace GridRobot.Numeral

/-- The most digits of an integer in a text. -/
def maxDigits : Nat := 4300

/-- Can the integer be written? -/
def fits (n : Int) : Bool := (Nat.toDigits 10 n.natAbs).length ≤ maxDigits

/-- The message that an integer is too long. -/
def tooLong : String :=
  "Exceeds the limit (4300 digits) for integer string conversion; " ++
    "use sys.set_int_max_str_digits() to increase the limit"

end GridRobot.Numeral
