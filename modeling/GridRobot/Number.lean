import GridRobot.Number.Layout
import GridRobot.Number.Numeral

/-!
# Numbers

A number is an integer, a truth value that counts as one or zero, or a real. Numbers of different
kinds are compared exactly, by their place on the line, where the real that stands for no number has
no place. A sum is a real as soon as one of its parts is.
-/

namespace GridRobot

/-- An integer, a truth value or a real. -/
inductive Number where
  | int (n : Int)
  | truth (b : Bool)
  | real (x : Binary64)
deriving DecidableEq, Repr, Inhabited

namespace Number

instance : Coe Int Number := ⟨int⟩

instance (n : Nat) : OfNat Number n := ⟨int n⟩

/-- The text of a number. -/
def text : Number → String
  | int n => toString n
  | truth true => "True"
  | truth false => "False"
  | real x => String.ofList (NumberLayout.shown.write x)

/-- Can the number be written? -/
def isWritable : Number → Bool
  | int n => Numeral.fits n
  | _ => true

/-! ## Place on the line -/

/-- The side of all fractions on which a number lies: below them, among them or above them. -/
def side? : Number → Option Int
  | real .nan => none
  | real (.infinite negative) => some (if negative then -1 else 1)
  | _ => some 0

/-- A finite number as a fraction: the numerator, and the power of two below it. -/
def fraction : Number → Int × Nat
  | int n => (n, 0)
  | truth b => (b.toInt, 0)
  | real x => x.fraction?.getD (0, 0)

/-- The numerators of two numbers over one denominator. -/
def numerators (a b : Number) : Int × Int :=
  let (m, p) := a.fraction
  let (n, q) := b.fraction
  (m * Nat.pow 2 q, n * Nat.pow 2 p)

/-- Are the numbers equal? -/
def same : Number → Number → Bool
  | int m, int n => m = n
  | a, b =>
    match a.side?, b.side? with
    | some i, some j => i = j && (i ≠ 0 || (numerators a b).1 = (numerators a b).2)
    | _, _ => false

/-- Is the first number smaller? -/
def below : Number → Number → Bool
  | int m, int n => m < n
  | a, b =>
    match a.side?, b.side? with
    | some i, some j =>
      i < j || (i = 0 && j = 0 && (numerators a b).1 < (numerators a b).2)
    | _, _ => false

/-- Is the first number smaller or equal? -/
def atMost (a b : Number) : Bool := a.below b || a.same b

/-- Is the number neither zero nor false? -/
def isTruthy : Number → Bool
  | int n => n ≠ 0
  | truth b => b
  | real x => !x.isZero

/-- The least integer that is not smaller. -/
def ceiling? : Number → Option Int
  | int n => some n
  | truth b => some b.toInt
  | real x => x.fraction?.map (fun (n, p) => -Int.fdiv (-n) (Nat.pow 2 p))

/-- How many natural numbers are smaller, if they can be counted. -/
def count? (n : Number) : Option Nat :=
  match n.ceiling? with
  | some c => some c.toNat
  | none => if Number.below 0 n then none else some 0

/-! ## Sums -/

/-- The integer of an integer or a truth value. -/
def whole? : Number → Option Int
  | int n => some n
  | truth b => some b.toInt
  | real _ => none

/-- The real nearest to a number. -/
def toReal : Number → Binary64
  | int n => .ofInt n
  | truth b => .ofInt b.toInt
  | real x => x

/-- The sum of two numbers. -/
def add (a b : Number) : Number :=
  match a.whole?, b.whole? with
  | some m, some n => int (m + n)
  | _, _ => real (a.toReal.add b.toReal)

/-- The number with the other sign. -/
def negate : Number → Number
  | int n => int (-n)
  | truth b => int (-b.toInt)
  | real x => real x.negate

/-- The difference of two numbers. -/
def sub (a b : Number) : Number := a.add b.negate

/-! ## Integers -/

@[simp] theorem text_int (n : Int) : (int n).text = toString n := rfl

@[simp] theorem isWritable_int (n : Int) : (int n).isWritable = Numeral.fits n := rfl

@[simp] theorem same_int (m n : Int) : (int m).same (int n) = decide (m = n) := rfl

@[simp] theorem below_int (m n : Int) : (int m).below (int n) = decide (m < n) := rfl

@[simp] theorem atMost_int (m n : Int) : (int m).atMost (int n) = decide (m ≤ n) := by
  simp only [atMost, below_int, same_int, ← Bool.decide_or, decide_eq_decide]
  omega

@[simp] theorem isTruthy_int (n : Int) : (int n).isTruthy = decide (n ≠ 0) := rfl

@[simp] theorem count?_int (n : Int) : (int n).count? = some n.toNat := rfl

@[simp] theorem add_int (m n : Int) : (int m).add (int n) = int (m + n) := rfl

@[simp] theorem sub_int (m n : Int) : (int m).sub (int n) = int (m - n) := rfl

end Number

end GridRobot
