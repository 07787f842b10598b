import GridRobot.Number.Bytes

/-!
# A digest of 512 bits

The digest of some bytes is made from eight words of 64 bits. The bytes are filled up to blocks of
sixteen words. Every block is stretched to eighty words, which are mixed into the eight words one
after the other. The constants are the first bits of the fractions of roots of the first primes:
square roots to begin with, and cube roots to mix in.
-/

namespace GridRobot.Digest

/-! ## Constants -/

/-- Is the number prime? -/
def isPrime (n : Nat) : Bool := 2 ≤ n && (List.range n).all (fun d => d < 2 || n % d != 0)

/-- The first eighty primes. -/
def primes : List Nat := (List.range 410).filter isPrime

/-- The greatest number at or above `low` and below `low + 2 ^ bits` whose power is at most `n`. -/
def root (power n : Nat) : (bits low : Nat) → Nat
  | 0, low => low
  | bits + 1, low =>
    let middle := low + Nat.pow 2 bits
    root power n bits (if Nat.pow middle power ≤ n then middle else low)

/-- The first 64 bits of the fraction of a root. -/
def rootFraction (power n : Nat) : UInt64 :=
  UInt64.ofNat (root power (n * Nat.pow 2 (64 * power)) 72 0)

/-- The words that are mixed in, one a round. -/
def roundWords : List UInt64 := primes.map (rootFraction 3)

/-! ## Mixing -/

/-- The eight words from which the digest is made. -/
structure State where
  a : UInt64
  b : UInt64
  c : UInt64
  d : UInt64
  e : UInt64
  f : UInt64
  g : UInt64
  h : UInt64
deriving DecidableEq, Repr

namespace State

/-- The words in order. -/
def words (s : State) : List UInt64 := [s.a, s.b, s.c, s.d, s.e, s.f, s.g, s.h]

/-- The words to begin with. -/
def initial : State :=
  let word (i : Nat) := rootFraction 2 (primes.getD i 0)
  ⟨word 0, word 1, word 2, word 3, word 4, word 5, word 6, word 7⟩

/-- The words of two states added one by one. -/
def add (s t : State) : State :=
  ⟨s.a + t.a, s.b + t.b, s.c + t.c, s.d + t.d, s.e + t.e, s.f + t.f, s.g + t.g, s.h + t.h⟩

end State

/-- A word turned to the right. -/
def turn (x : UInt64) (n : UInt64) : UInt64 := (x >>> n) ||| (x <<< (64 - n))

/-- Mix a word into the state. -/
def mix (s : State) (word : UInt64) : State :=
  let choice := (s.e &&& s.f) ^^^ (~~~s.e &&& s.g)
  let majority := (s.a &&& s.b) ^^^ (s.a &&& s.c) ^^^ (s.b &&& s.c)
  let first := s.h + (turn s.e 14 ^^^ turn s.e 18 ^^^ turn s.e 41) + choice + word
  let second := (turn s.a 28 ^^^ turn s.a 34 ^^^ turn s.a 39) + majority
  ⟨first + second, s.a, s.b, s.c, s.d + first, s.e, s.f, s.g⟩

/-- The word that follows sixteen words, given with the last one first. -/
def nextWord (before : List UInt64) : UInt64 :=
  let back (i : Nat) := before.getD (i - 1) 0
  let near := turn (back 2) 19 ^^^ turn (back 2) 61 ^^^ (back 2 >>> 6)
  let far := turn (back 15) 1 ^^^ turn (back 15) 8 ^^^ (back 15 >>> 7)
  near + back 7 + far + back 16

/-- More words behind some words, given with the last one first. -/
def stretch : (count : Nat) → List UInt64 → List UInt64
  | 0, before => before
  | count + 1, before => stretch count (nextWord before :: before)

/-- Mix a block of sixteen words into the state. -/
def absorb (s : State) (block : List UInt64) : State :=
  let words := (stretch 64 block.reverse).reverse
  s.add ((roundWords.zipWith (· + ·) words).foldl mix s)

/-! ## Bytes -/

/-- The words of some bytes, eight bytes a word. -/
def wordsOf (bytes : List UInt8) : List UInt64 :=
  (List.range (bytes.length / 8)).map (fun i =>
    UInt64.ofNat (Bytes.number ((bytes.drop (8 * i)).take 8)))

/-- The bytes filled up to whole blocks: a byte that marks the end, zeros, and the number of bits in
sixteen bytes. -/
def fill (bytes : List UInt8) : List UInt8 :=
  let zeros := (128 - (bytes.length + 17) % 128) % 128
  bytes ++ 0x80 :: List.replicate zeros 0 ++ Bytes.ofNumber 16 (8 * bytes.length)

/-- The digest of some bytes. -/
def digest (bytes : List UInt8) : List UInt8 :=
  let words := wordsOf (fill bytes)
  let blocks := (List.range (words.length / 16)).map (fun i => (words.drop (16 * i)).take 16)
  (blocks.foldl absorb .initial).words.flatMap (fun w => Bytes.ofNumber 8 w.toNat)

end GridRobot.Digest
