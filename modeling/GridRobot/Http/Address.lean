import GridRobot.Text.Utf8

/-!
# Addresses

The address of a request is a path and, after a question mark, a query of names and values. A
percent sign with two hexadecimal digits stands for a byte. In a query only these bytes are put
together to characters; a character that is not plain stands there for its bytes one by one.
-/

namespace GridRobot.Http

/-- A path and a query, both decoded. -/
structure Address where
  path : String
  query : List (String × String)
deriving DecidableEq, Repr

namespace Address

/-- The value of a hexadecimal digit. -/
def hexValue? (b : UInt8) : Option UInt8 :=
  if 0x30 ≤ b && b ≤ 0x39 then some (b - 0x30)
  else if 0x41 ≤ b && b ≤ 0x46 then some (b - 0x37)
  else if 0x61 ≤ b && b ≤ 0x66 then some (b - 0x57)
  else none

/-- The bytes that percent signs stand for. -/
def unescape : List UInt8 → List UInt8
  | 0x25 :: a :: b :: rest =>
    match hexValue? a, hexValue? b with
    | some a, some b => (a * 16 + b) :: unescape rest
    | _, _ => 0x25 :: unescape (a :: b :: rest)
  | b :: rest => b :: unescape rest
  | [] => []

/-- The text that a part of an address stands for. -/
def decode (s : String) : String := Utf8.decode (unescape s.toUTF8.toList)

/-- What stands in front of a character, and what stands after it if it occurs. -/
def cut (sep : Char) (cs : List Char) : List Char × Option (List Char) :=
  match cs.dropWhile (· != sep) with
  | [] => (cs, none)
  | _ :: rest => (cs.takeWhile (· != sep), some rest)

/-- The characters with the numbers of the bytes of a character. -/
def bytewise (c : Char) : List Char :=
  (String.singleton c).toUTF8.toList.map (fun b => Char.ofNat b.toNat)

/-- Read a part of a query, given the bytes of the plain characters just before it, last one first.
-/
def decodeRuns : (run : List UInt8) → List Char → List Char
  | run, [] => Utf8.decodeFrom none (unescape run.reverse)
  | run, c :: cs =>
    if c.toNat < 0x80 then decodeRuns (c.toNat.toUInt8 :: run) cs
    else Utf8.decodeFrom none (unescape run.reverse) ++ bytewise c ++ decodeRuns [] cs

/-- A name or value of a query, in which a plus sign stands for a blank. -/
def decodeField (cs : List Char) : String :=
  String.ofList (decodeRuns [] (cs.map (fun c => if c = '+' then ' ' else c)))

/-- The names and values of a query; a name without a value has an empty one. -/
def readQuery (s : String) : List (String × String) :=
  ((s.splitOn "&").filter (fun part => !part.isEmpty)).map (fun part =>
    let (name, value) := cut '=' part.toList
    (decodeField name, decodeField (value.getD [])))

/-- Read the address of a request. -/
def read (s : String) : Address :=
  let (path, query) := cut '?' s.toList
  ⟨decode (String.ofList path), readQuery (String.ofList (query.getD []))⟩

/-- The value of a name in the query; the last one counts. -/
def param? (a : Address) (name : String) : Option String := a.query.reverse.lookup name

end Address

end GridRobot.Http
