/-!
# Numbers in bytes

A list of bytes is a number in base 256, the greatest byte first.
-/

namespace GridRobot.Bytes

/-- The number of some bytes, the greatest first. -/
def number (bytes : List UInt8) : Nat := bytes.foldl (fun n b => 256 * n + b.toNat) 0

/-- The lowest bytes of a number, as many as asked for, the greatest first. -/
def ofNumber : (count n : Nat) → List UInt8
  | 0, _ => []
  | count + 1, n => ofNumber count (n / 256) ++ [UInt8.ofNat n]

@[simp]
theorem length_ofNumber (count n : Nat) : (ofNumber count n).length = count := by
  induction count generalizing n with
  | zero => rfl
  | succ count ih => simp [ofNumber, ih]

/-- One more byte at the end. -/
theorem number_append_singleton (bytes : List UInt8) (b : UInt8) :
    number (bytes ++ [b]) = 256 * number bytes + b.toNat := by
  simp [number]

/-- The bytes of a number that is small enough give it back. -/
theorem number_ofNumber (count n : Nat) (h : n < Nat.pow 256 count) :
    number (ofNumber count n) = n := by
  induction count generalizing n with
  | zero =>
    have : n = 0 := by simpa using h
    subst this
    rfl
  | succ count ih =>
    have small : n / 256 < Nat.pow 256 count := by
      refine Nat.div_lt_of_lt_mul ?_
      simpa [Nat.pow_succ, Nat.mul_comm] using h
    rw [ofNumber, number_append_singleton, ih _ small, UInt8.toNat_ofNat']
    omega

end GridRobot.Bytes
