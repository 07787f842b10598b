import GridRobot.Random.Source

/-!
# The twister

The Mersenne twister on words of 32 bits: 624 words of state, each block of 624 outputs made from
the block before it and tempered one by one. The state is seeded from a list of words. A number
below a bound is drawn from the top bits of outputs, as many bits as the bound has, until one is
small enough.
-/

namespace GridRobot

/-- The state of a twister. -/
structure Twister where
  /-- The current block of words. -/
  words : Array UInt32
  /-- The number of words of the block that have been used. -/
  used : Nat

namespace Twister

/-- The number of words in the state. -/
def size : Nat := 624

/-- The distance of the words that are mixed. -/
def shift : Nat := 397

/-! ## Seeding -/

/-- The block that is grown from a single word. -/
def grow (seed : UInt32) : Array UInt32 :=
  (List.range (size - 1)).foldl
    (fun words i =>
      let last := words.getD i 0
      words.push ((1812433253 : UInt32) * (last ^^^ (last >>> 30)) + UInt32.ofNat (i + 1)))
    #[seed]

/-- A step through the block wraps around, and takes the last word along to the front. -/
def advance (words : Array UInt32) (i : Nat) : Array UInt32 × Nat :=
  if i + 1 < size then (words, i + 1)
  else (words.setIfInBounds 0 (words.getD (size - 1) 0), 1)

/-- Mix the words of a key into a block. -/
def absorb (key : Array UInt32) : (steps : Nat) → Array UInt32 → (i j : Nat) → Array UInt32 × Nat
  | 0, words, i, _ => (words, i)
  | steps + 1, words, i, j =>
    let before := words.getD (i - 1) 0
    let mixed := (words.getD i 0 ^^^ ((before ^^^ (before >>> 30)) * 1664525)) + key.getD j 0 +
      UInt32.ofNat j
    let (words, i) := advance (words.setIfInBounds i mixed) i
    absorb key steps words i (if j + 1 < key.size then j + 1 else 0)

/-- Mix a block once more, without a key. -/
def settle : (steps : Nat) → Array UInt32 → (i : Nat) → Array UInt32
  | 0, words, _ => words
  | steps + 1, words, i =>
    let before := words.getD (i - 1) 0
    let mixed := (words.getD i 0 ^^^ ((before ^^^ (before >>> 30)) * 1566083941)) - UInt32.ofNat i
    let (words, i) := advance (words.setIfInBounds i mixed) i
    settle steps words i

/-- A twister seeded with the words of a key. -/
def ofKey (key : Array UInt32) : Twister :=
  let (words, i) := absorb key (max size key.size) (grow 19650218) 1 0
  ⟨(settle (size - 1) words i).setIfInBounds 0 0x80000000, size⟩

/-- The words of a number, the lowest first; at most `count` of them. -/
def wordsOf : (count n : Nat) → List UInt32
  | 0, _ => []
  | count + 1, n =>
    UInt32.ofNat n :: if n < 0x100000000 then [] else wordsOf count (n / 0x100000000)

/-- A twister seeded with an integer, whose sign does not matter. -/
def ofSeed (seed : Int) : Twister :=
  let n := seed.natAbs
  ofKey (wordsOf (n.log2 / 32 + 1) n).toArray

/-! ## Outputs -/

/-- Two words that stand side by side, mixed. -/
def twist (a b : UInt32) : UInt32 :=
  let y := (a &&& 0x80000000) ||| (b &&& 0x7fffffff)
  (y >>> 1) ^^^ (if y &&& 1 = 0 then 0 else 0x9908b0df)

/-- The block after a block. -/
def nextBlock (words : Array UInt32) : Array UInt32 :=
  (List.range size).foldl
    (fun words i =>
      let mixed := twist (words.getD i 0) (words.getD ((i + 1) % size) 0)
      words.setIfInBounds i (words.getD ((i + shift) % size) 0 ^^^ mixed))
    words

/-- The output that is made from a word. -/
def temper (y : UInt32) : UInt32 :=
  let y := y ^^^ (y >>> 11)
  let y := y ^^^ ((y <<< 7) &&& 0x9d2c5680)
  let y := y ^^^ ((y <<< 15) &&& 0xefc60000)
  y ^^^ (y >>> 18)

/-- The next output. -/
def next (t : Twister) : UInt32 × Twister :=
  let t := if t.used < size then t else ⟨nextBlock t.words, 0⟩
  (temper (t.words.getD t.used 0), { t with used := t.used + 1 })

/-- The top bits of the next output. -/
def bits (count : Nat) (t : Twister) : Nat × Twister :=
  let (y, t) := t.next
  (y.toNat >>> (32 - count), t)

/-! ## Draws -/

/-- Draw until a number is below the bound, at most so many times. -/
def below (bound : Nat) : (draws : Nat) → Twister → Option (Fin bound) × Twister
  | 0, t => (none, t)
  | draws + 1, t =>
    let (n, t) := t.bits (bound.log2 + 1)
    if h : n < bound then (some ⟨n, h⟩, t) else below bound draws t

/-- The draws of a twister, each of them followed so far. Half of the numbers at least are small
enough. -/
def source (draws : Nat) : DrawSource Twister where
  roll bound t := below bound draws t

end Twister

end GridRobot
