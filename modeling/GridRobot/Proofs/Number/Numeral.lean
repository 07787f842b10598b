import GridRobot.Number.Numeral
import Mathlib.Algebra.Order.Ring.Int
import Mathlib.Data.Nat.Digits.Defs
import Mathlib.Tactic.Positivity

/-!
# Which integers can be written

An integer can be written if it lies below a power of ten, whatever its sign.

* `Numeral.fits_iff`: what is written has no more digits than a text takes;
* `Numeral.fits_tooBig`: the power of ten itself cannot be written any more.
-/

namespace GridRobot.Numeral

/-- An integer is written with a sign if it is negative, and then with its digits. -/
theorem toList_toString (n : Int) :
    (toString n).toList = (if n < 0 then ['-'] else []) ++ Nat.toDigits 10 n.natAbs := by
  cases n with
  | ofNat n => exact Nat.toList_repr
  | negSucc n =>
    show ("-" ++ Nat.repr (n + 1)).toList = _
    rw [String.toList_append, Nat.toList_repr, if_pos (Int.negSucc_lt_zero n)]
    rfl

/-- A written integer has a digit. -/
theorem exists_digit (n : Int) : ∃ c ∈ (toString n).toList, c.isDigit = true := by
  obtain ⟨c, hc⟩ := List.exists_mem_of_ne_nil _ (Nat.toDigits_ne_nil (n := n.natAbs) (b := 10))
  refine ⟨c, ?_, Nat.isDigit_of_mem_toDigits (by decide) (by decide) hc⟩
  rw [toList_toString]
  exact List.mem_append_right _ hc

/-- An integer can be written exactly if it is less than ten to the number of digits. -/
theorem fits_iff {n : Int} : fits n = true ↔ n.natAbs < 10 ^ maxDigits := by
  rw [fits, decide_eq_true_iff, Nat.length_toDigits_le_iff (by decide) (by decide)]

/-- The sign does not count. -/
theorem fits_neg (n : Int) : fits (-n) = fits n := by
  rw [fits, fits, Int.natAbs_neg]

/-- The least number that cannot be written. -/
def tooBig : Int := 10 ^ maxDigits

theorem tooBig_pos : 0 < tooBig := by
  rw [tooBig]
  positivity

/-- It is a power of ten. -/
theorem natAbs_tooBig : tooBig.natAbs = 10 ^ maxDigits := by
  have habs (k : Nat) : ((10 : Int) ^ k).natAbs = 10 ^ k := Int.natAbs_pow 10 k
  rw [tooBig, habs]

/-- Whatever can be written is less. -/
theorem lt_tooBig {n : Int} (h : fits n = true) : n < tooBig := by
  rw [fits_iff, ← natAbs_tooBig] at h
  have hpos := tooBig_pos
  omega

/-- It has one digit more than a text takes. -/
theorem length_tooBig : (Nat.toDigits 10 tooBig.natAbs).length = maxDigits + 1 := by
  rw [natAbs_tooBig]
  apply Nat.le_antisymm
  · rw [Nat.length_toDigits_le_iff (by decide) (Nat.succ_pos _)]
    exact Nat.pow_lt_pow_right (by decide) (Nat.lt_succ_self _)
  · apply Nat.lt_of_not_le
    rw [Nat.length_toDigits_le_iff (by decide) (by decide)]
    exact Nat.lt_irrefl _

@[simp] theorem fits_tooBig : fits tooBig = false := by
  rw [fits, length_tooBig, decide_eq_false_iff_not]
  exact Nat.not_succ_le_self _

end GridRobot.Numeral
