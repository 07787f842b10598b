import GridRobot.Number.Bytes
import GridRobot.Text

/-!
# Bodies

The bytes of a body are a text in one of five encodings: characters of one to four bytes, or units
of two or four bytes with the least or the greatest byte first. A text of the service begins with
plain characters, so the zeros among its first bytes tell which one it is. Units may hold halves of
characters: two of them make a character only if the units have two bytes.
-/

namespace GridRobot.Http.Body

/-- The order of the bytes of a unit. -/
inductive ByteOrder where
  | greatestFirst
  | leastFirst
deriving DecidableEq, Repr

/-- How a text is written in bytes. -/
inductive Encoding where
  | utf8
  | pairs (order : ByteOrder)
  | quads (order : ByteOrder)
deriving DecidableEq, Repr

/-- The encoding that the zeros among the first bytes tell. -/
def encodingOf : List UInt8 → Encoding
  | [a, b] =>
    if a = 0 then .pairs .greatestFirst else if b = 0 then .pairs .leastFirst else .utf8
  | a :: b :: c :: d :: _ =>
    if a = 0 then if b = 0 then .quads .greatestFirst else .pairs .greatestFirst
    else if b = 0 then
      if c = 0 && d = 0 then .quads .leastFirst else .pairs .leastFirst
    else .utf8
  | _ => .utf8

/-- The number of a unit. -/
def unit (order : ByteOrder) (bytes : List UInt8) : Nat :=
  match order with
  | .greatestFirst => Bytes.number bytes
  | .leastFirst => Bytes.number bytes.reverse

/-- The units of two bytes; none if a byte is left over. -/
def pairs? (order : ByteOrder) : List UInt8 → Option (List Nat)
  | [] => some []
  | [_] => none
  | a :: b :: rest => (pairs? order rest).map (unit order [a, b] :: ·)

/-- The units of four bytes; none if bytes are left over. -/
def quads? (order : ByteOrder) : List UInt8 → Option (List Nat)
  | [] => some []
  | a :: b :: c :: d :: rest => (quads? order rest).map (unit order [a, b, c, d] :: ·)
  | _ => none

/-- The glyphs of units of two bytes: a high and a low unit side by side make one character. -/
def joinPairs : List Nat → List Glyph
  | high :: low :: rest =>
    if 0xd800 ≤ high && high < 0xdc00 && 0xdc00 ≤ low && low < 0xe000 then
      .ofCode (0x10000 + (high - 0xd800) * 0x400 + (low - 0xdc00)) :: joinPairs rest
    else .ofCode high :: joinPairs (low :: rest)
  | [n] => [.ofCode n]
  | [] => []

/-- A text without the mark that may stand in front of it. -/
def unmarked (body : String) : Text :=
  match body.toList with
  | c :: cs => ⟨Glyph.ofChars (if c.toNat = 0xfeff then cs else c :: cs)⟩
  | [] => body

/-- The text whose bytes are those of the given body; none if they are no text. -/
def decode? (body : String) : Option Text :=
  let bytes := body.toUTF8.toList
  match encodingOf bytes with
  | .utf8 => some (unmarked body)
  | .pairs order => (pairs? order bytes).map (fun units => ⟨joinPairs units⟩)
  | .quads order =>
    (quads? order bytes).bind (fun units =>
      if units.all (· < 0x110000) then some ⟨units.map .ofCode⟩ else none)

end GridRobot.Http.Body
