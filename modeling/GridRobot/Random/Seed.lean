import GridRobot.Random.Digest
import GridRobot.Text.Encoding
import GridRobot.Value

/-!
# Seeds

Layouts are drawn from an integer. A real stands for its remainder modulo a prime, where a division
by two is as good as any other, and a text for its bytes with their digest behind them. Lists and
records are no seeds, and a text without bytes is none either.
-/

namespace GridRobot

/-- Why a value is no seed. -/
inductive SeedFault where
  | notASeed
  | noBytes (f : EncodingFault)
deriving DecidableEq, Repr

/-- The wording of a fault. -/
def SeedFault.message : SeedFault → String
  | notASeed => "The only supported seed types are: None,\nint, float, str, bytes, and bytearray."
  | noBytes f => f.message

namespace Seed

/-- The prime modulo which reals are told apart. -/
def modulus : Nat := 0x1fffffffffffffff

/-- The remainder of a number; two to the power of 61 leaves one. -/
def remainder (significand : Nat) (exponent : Int) : Nat :=
  significand * Nat.pow 2 (exponent % 61).toNat % modulus

/-- The integer of 64 bits for a negative number with the given remainder. One is taken for two. -/
def negated (n : Nat) : Nat :=
  if n = 0 then 0 else 0x10000000000000000 - (if n = 1 then 2 else n)

/-- The integer for a real. -/
def ofReal : Binary64 → Nat
  | .nan => 0
  | .infinite negative => if negative then negated 314159 else 314159
  | .finite negative m e => if negative then negated (remainder m e) else remainder m e

/-- The integer for the bytes of a text. -/
def ofBytes (bytes : List UInt8) : Nat := Bytes.number (bytes ++ Digest.digest bytes)

/-- The integer for a value; null leaves it open. -/
def ofValue : Value → Except SeedFault (Option Int)
  | .null => .ok none
  | .int n => .ok (some n)
  | .bool b => .ok (some b.toInt)
  | .real x => .ok (some (ofReal x))
  | .text t => (t.bytes.map (fun bytes => some (ofBytes bytes : Int))).mapError .noBytes
  | .list _ | .record _ => .error .notASeed

end Seed

end GridRobot
