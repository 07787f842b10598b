import GridRobot.Number.Index
import GridRobot.Value

/-!
# Values as program text

Reading and writing values in the usual braces-and-brackets notation. The reader accepts the plain
notation and the three special numbers, and says where and why it stops otherwise; a place is given
by the number of glyphs left, so that no function here counts positions. A number is read as far
as it goes. Lists and records may be nested up to a limit. The writer is plain or indented, and
writes all other than the printable plain characters as escapes.
-/

namespace GridRobot

/-- Why a text is not a value. -/
inductive SourceProblem where
  | byteOrderMark
  | expectedValue
  | expectedName
  | expectedColon
  | expectedComma
  | unterminatedText
  | controlCharacter
  | badEscape
  | badCodePoint
  | extraText
  | tooManyDigits (count : Nat)
  | listTooDeep
  | recordTooDeep
deriving DecidableEq, Repr

namespace SourceProblem

/-- The wording of a problem. -/
def message : SourceProblem → String
  | byteOrderMark => "Unexpected UTF-8 BOM (decode using utf-8-sig)"
  | expectedValue => "Expecting value"
  | expectedName => "Expecting property name enclosed in double quotes"
  | expectedColon => "Expecting ':' delimiter"
  | expectedComma => "Expecting ',' delimiter"
  | unterminatedText => "Unterminated string starting at"
  | controlCharacter => "Invalid control character at"
  | badEscape => "Invalid \\escape"
  | badCodePoint => "Invalid \\uXXXX escape"
  | extraText => "Extra data"
  | tooManyDigits count =>
    "Exceeds the limit (4300 digits) for integer string conversion: " ++
      s!"value has {count} digits; use sys.set_int_max_str_digits() to increase the limit"
  | listTooDeep =>
    "maximum recursion depth exceeded while decoding a JSON array from a unicode string"
  | recordTooDeep =>
    "maximum recursion depth exceeded while decoding a JSON object from a unicode string"

/-- Is the text at fault, and not a limit of the reader? -/
def isMalformed : SourceProblem → Bool
  | tooManyDigits _ | listTooDeep | recordTooDeep => false
  | _ => true

end SourceProblem

/-- A problem and the number of glyphs left where it was found. -/
structure SourceFailure where
  problem : SourceProblem
  left : Nat
deriving DecidableEq, Repr

namespace Source

/-- What a reading step gives: a result and the glyphs after it. -/
abbrev Step (α : Type) := Except SourceFailure (α × List Glyph)

/-- Stop with a problem in front of the given glyphs. -/
def stop {α : Type} (problem : SourceProblem) (rest : List Glyph) : Except SourceFailure α :=
  .error ⟨problem, rest.length⟩

/-! ## Blanks and digits -/

/-- The white space of the notation. -/
def isSpace : Glyph → Bool
  | .char c => c == ' ' || c == '\t' || c == '\n' || c == '\r'
  | .half _ => false

/-- The text after leading white space. -/
def skip (cs : List Glyph) : List Glyph := cs.dropWhile isSpace

/-- One of the ten plain digits. -/
def isDigit : Glyph → Bool
  | .char c => '0' ≤ c && c ≤ '9'
  | .half _ => false

/-- The number spelled by plain digits. -/
def natural (ds : List Glyph) : Nat :=
  ds.foldl (fun n d => 10 * n + (d.code - '0'.toNat)) 0

/-- The value of a digit in base sixteen. -/
def hexValue? : Glyph → Option Nat
  | .char c =>
    if '0' ≤ c ∧ c ≤ '9' then some (c.toNat - '0'.toNat)
    else if 'a' ≤ c ∧ c ≤ 'f' then some (c.toNat - 'a'.toNat + 10)
    else if 'A' ≤ c ∧ c ≤ 'F' then some (c.toNat - 'A'.toNat + 10)
    else none
  | .half _ => none

/-- The number spelled by four digits in base sixteen. -/
def hexFour? : List Glyph → Option Nat
  | [a, b, c, d] => do
    let a ← hexValue? a
    let b ← hexValue? b
    let c ← hexValue? c
    let d ← hexValue? d
    some (((a * 16 + b) * 16 + c) * 16 + d)
  | _ => none

/-! ## Texts -/

/-- The first half of a character written as two code units. -/
def isHighUnit (n : Nat) : Bool := 0xd800 ≤ n && n < 0xdc00

/-- The second half of a character written as two code units. -/
def isLowUnit (n : Nat) : Bool := 0xdc00 ≤ n && n < 0xe000

/-- The glyph of a high and a low unit. -/
def joinUnits (high low : Nat) : Glyph :=
  .ofCode (0x10000 + (high - 0xd800) * 0x400 + (low - 0xdc00))

/-- The escape that follows a backslash and a `u`, given what stands after the `u`. Four digits
count only if some glyph follows them, and a second unit is looked for only if more text than
the unit itself is there. A unit that finds no second one stands alone. -/
def unitEscape (cs : List Glyph) : Step Glyph :=
  match hexFour? (cs.take 4) with
  | none => .error ⟨.badCodePoint, cs.length + 1⟩
  | some unit =>
    let rest := cs.drop 4
    if rest.isEmpty then .error ⟨.badCodePoint, cs.length + 1⟩
    else match rest with
      | .char '\\' :: .char 'u' :: more =>
        if isHighUnit unit && 4 < more.length then
          match hexFour? (more.take 4) with
          | none => .error ⟨.badCodePoint, more.length + 1⟩
          | some second =>
            if isLowUnit second then .ok (joinUnits unit second, more.drop 4)
            else .ok (.ofCode unit, rest)
        else .ok (.ofCode unit, rest)
      | _ => .ok (.ofCode unit, rest)

/-- The character of a one-letter escape. -/
def letterEscape? : Glyph → Option Char
  | .char '"' => some '"'
  | .char '\\' => some '\\'
  | .char '/' => some '/'
  | .char 'b' => some '\x08'
  | .char 'f' => some '\x0c'
  | .char 'n' => some '\n'
  | .char 'r' => some '\r'
  | .char 't' => some '\t'
  | _ => none

/-- The rest of a text after its opening quote, its glyphs so far last one first. `opening` is the
text from the opening quote on; the reader takes at most one step for each of its glyphs. -/
def readText (opening : List Glyph) : (steps : List Glyph) → List Glyph → List Glyph → Step Text
  | [], _, _ => stop .unterminatedText opening
  | _ :: _, _, [] => stop .unterminatedText opening
  | _ :: steps, seen, c :: cs =>
    if c = .char '"' then .ok (⟨seen.reverse⟩, cs)
    else if c.code < 0x20 then stop .controlCharacter (c :: cs)
    else if c = .char '\\' then
      match cs with
      | [] => stop .unterminatedText opening
      | .char 'u' :: rest =>
        match unitEscape rest with
        | .ok (d, rest) => readText opening steps (d :: seen) rest
        | .error e => .error e
      | e :: rest =>
        match letterEscape? e with
        | some d => readText opening steps (.char d :: seen) rest
        | none => stop .badEscape (c :: cs)
    else readText opening steps (c :: seen) cs

/-- A text, given what stands after its opening quote. -/
def text (cs : List Glyph) : Step Text :=
  readText (.char '"' :: cs) (.char '"' :: cs) [] cs

/-! ## Numbers -/

/-- The digits after a point, if at least one is there. -/
def fraction : List Glyph → List Glyph × List Glyph
  | .char '.' :: cs =>
    let ds := cs.takeWhile isDigit
    if ds.isEmpty then ([], .char '.' :: cs) else (ds, cs.dropWhile isDigit)
  | cs => ([], cs)

/-- The exponent with its sign, if at least one digit is there. -/
def exponent : List Glyph → Option Int × List Glyph
  | [] => (none, [])
  | e :: cs =>
    if e = .char 'e' ∨ e = .char 'E' then
      let (negative, body) := match cs with
        | .char '-' :: body => (true, body)
        | .char '+' :: body => (false, body)
        | body => (false, body)
      let ds := body.takeWhile isDigit
      if ds.isEmpty then (none, e :: cs)
      else
        let n := natural ds
        (some (if negative then -(n : Int) else (n : Int)), body.dropWhile isDigit)
    else (none, e :: cs)

/-- The leading digits of a number: a zero alone, or digits that start with another one. -/
def whole : List Glyph → List Glyph × List Glyph
  | .char '0' :: cs => ([.char '0'], cs)
  | cs => (cs.takeWhile isDigit, cs.dropWhile isDigit)

/-- A number without its sign. A point or an exponent makes it a floating-point number. -/
def magnitude (negative : Bool) (cs : List Glyph) :
    Option (Except SourceProblem Value × List Glyph) :=
  let (ds, rest) := whole cs
  if ds.isEmpty then none
  else
    let (fs, rest) := fraction rest
    let (e?, rest) := exponent rest
    if fs.isEmpty && e?.isNone then
      if 4300 < ds.length then some (.error (.tooManyDigits ds.length), rest)
      else
        let n := natural ds
        some (.ok (.int (if negative then -(n : Int) else (n : Int))), rest)
    else
      let e := e?.getD 0 - (fs.length : Int)
      some (.ok (.real (.ofDecimal negative (natural (ds ++ fs)) e)), rest)

/-- A number. -/
def number (cs : List Glyph) : Step Value :=
  let found := match cs with
    | .char '-' :: rest => magnitude true rest
    | _ => magnitude false cs
  match found with
  | some (.ok v, rest) => .ok (v, rest)
  | some (.error problem, _) => stop problem cs
  | none => stop .expectedValue cs

/-! ## Values -/

/-- The words of the notation. -/
def words : List (Text × Value) := [
  ("null", .null), ("true", .bool true), ("false", .bool false), ("NaN", .real .nan),
  ("Infinity", .real (.infinite false)), ("-Infinity", .real (.infinite true))]

/-- What stands after a word, if the text starts with it. -/
def after? : List Glyph → List Glyph → Option (List Glyph)
  | [], cs => some cs
  | _ :: _, [] => none
  | w :: ws, c :: cs => if w = c then after? ws cs else none

/-- The word that a text starts with. -/
def word? (cs : List Glyph) : Option (Value × List Glyph) :=
  words.findSome? (fun (w, v) => (after? w.glyphs cs).map (fun rest => (v, rest)))

mutual
/-- A value at the start of a text, with room for so many levels of lists and records. -/
def value : (fuel room : Nat) → List Glyph → Step Value
  | 0, _, cs => stop .expectedValue cs
  | fuel + 1, room, cs =>
    match cs with
    | .char '"' :: rest => (text rest).map (fun (t, rest) => (.text t, rest))
    | .char '[' :: rest =>
      match room with
      | 0 => stop .listTooDeep cs
      | room + 1 =>
        match skip rest with
        | .char ']' :: rest => .ok (.list [], rest)
        | rest => (items fuel room rest).map (fun (vs, rest) => (.list vs, rest))
    | .char '\x7b' :: rest =>
      match room with
      | 0 => stop .recordTooDeep cs
      | room + 1 =>
        match skip rest with
        | .char '\x7d' :: rest => .ok (.record [], rest)
        | rest => (fields fuel room [] rest).map (fun (fs, rest) => (.record fs, rest))
    | cs =>
      match word? cs with
      | some found => .ok found
      | none => number cs

/-- The items of a list up to its closing bracket. -/
def items : (fuel room : Nat) → List Glyph → Step (List Value)
  | 0, _, cs => stop .expectedValue cs
  | fuel + 1, room, cs =>
    match value fuel room cs with
    | .error e => .error e
    | .ok (v, rest) =>
      match skip rest with
      | .char ']' :: rest => .ok ([v], rest)
      | .char ',' :: rest => (items fuel room (skip rest)).map (fun (vs, rest) => (v :: vs, rest))
      | rest => stop .expectedComma rest

/-- The fields of a record up to its closing brace, added to those already read. -/
def fields : (fuel room : Nat) → List (Text × Value) → List Glyph → Step (List (Text × Value))
  | 0, _, _, cs => stop .expectedName cs
  | fuel + 1, room, seen, cs =>
    match cs with
    | .char '"' :: rest =>
      match text rest with
      | .error e => .error e
      | .ok (key, rest) =>
        match skip rest with
        | .char ':' :: rest =>
          match value fuel room (skip rest) with
          | .error e => .error e
          | .ok (v, rest) =>
            match skip rest with
            | .char '\x7d' :: rest => .ok (Value.setField key v seen, rest)
            | .char ',' :: rest => fields fuel room (Value.setField key v seen) (skip rest)
            | rest => stop .expectedComma rest
        | rest => stop .expectedColon rest
    | cs => stop .expectedName cs
end

/-- The mark that some programs put in front of a text. -/
def byteOrderMark : Glyph := .char (Char.ofNat 0xfeff)

/-- The value of a whole text, with white space around it, with room for so many levels of lists and
records. Each level and each part takes at most two steps for every glyph, which bounds the reader.
-/
def document (room : Nat) (cs : List Glyph) : Except SourceFailure Value :=
  if cs.head? = some byteOrderMark then stop .byteOrderMark cs
  else
    match value (2 * cs.length + 2) room (skip cs) with
    | .error e => .error e
    | .ok (v, rest) =>
      match skip rest with
      | [] => .ok v
      | rest => stop .extraText rest

/-! ## Places -/

/-- A place in a text: glyphs before it, line and column. -/
structure Place where
  offset : Nat
  line : Nat
  column : Nat
deriving DecidableEq, Repr

/-- The place in front of the last `left` glyphs. Lines and columns count from one. -/
def place (cs : List Glyph) (left : Nat) : Place :=
  let offset := cs.length - left
  let before := cs.take offset
  { offset := offset
    line := before.count (.char '\n') + 1
    column := (before.reverse.takeWhile (· ≠ .char '\n')).length + 1 }

end Source

/-- A problem and its place. -/
structure SourceError where
  problem : SourceProblem
  place : Source.Place
deriving DecidableEq, Repr

/-- The wording of an error with its place. -/
def SourceError.message (e : SourceError) : String :=
  let problem := e.problem.message
  let place := e.place
  s!"{problem}: line {place.line} column {place.column} (char {place.offset})"

namespace Value

/-- The value that a text spells, if its lists and records are not nested deeper than allowed. -/
def parse (nesting : Nat) (t : Text) : Except SourceError Value :=
  match Source.document nesting t.glyphs with
  | .ok v => .ok v
  | .error e => .error ⟨e.problem, Source.place t.glyphs e.left⟩

/-! ## Writing -/

/-- The escape of one code unit. -/
def writeUnit (n : Nat) : List Char := '\\' :: 'u' :: Quoted.hex 4 n

/-- One character of a text. -/
def writeChar (c : Char) : List Char :=
  if c = '"' then ['\\', '"']
  else if c = '\\' then ['\\', '\\']
  else if c = '\n' then ['\\', 'n']
  else if c = '\r' then ['\\', 'r']
  else if c = '\t' then ['\\', 't']
  else if c = '\x0c' then ['\\', 'f']
  else if c = '\x08' then ['\\', 'b']
  else if 0x20 ≤ c.toNat ∧ c.toNat < 0x7f then [c]
  else if c.toNat < 0x10000 then writeUnit c.toNat
  else
    let n := c.toNat - 0x10000
    writeUnit (0xd800 + n / 0x400) ++ writeUnit (0xdc00 + n % 0x400)

/-- One glyph of a text. -/
def writeGlyph : Glyph → List Char
  | .char c => writeChar c
  | .half index => writeUnit (Glyph.half index).code

/-- A text in double quotes. -/
def writeText (t : Text) : List Glyph :=
  Glyph.ofChars ('"' :: (t.glyphs.flatMap writeGlyph ++ ['"']))

/-- How the parts of a value are set: all on one line, or each on its own with an indent for every
level. -/
inductive Style where
  | plain
  | indented (unit : List Glyph)
deriving DecidableEq, Repr

/-- Why a value is no indent. -/
inductive IndentFault where
  | notACount (v : Value)
  | tooLarge
deriving DecidableEq, Repr

/-- The wording of a fault. -/
def IndentFault.message : IndentFault → String
  | notACount v => s!"can't multiply sequence by non-int of type '{v.typeName}'"
  | tooLarge => Index.tooLarge

/-- The style that an indent stands for: none is plain, a text is put as it is, and a number is so
many blanks. -/
def Style.ofIndent (indent : Value) : Except IndentFault Style :=
  match indent with
  | .null => .ok .plain
  | .text t => .ok (.indented t.glyphs)
  | .int n =>
    if Index.fits n then .ok (.indented (List.replicate n.toNat (.char ' '))) else .error .tooLarge
  | .bool b => .ok (.indented (List.replicate b.toNat (.char ' ')))
  | v => .error (.notACount v)

/-- What stands in front of each part at the given level. -/
def Style.lead : Style → Nat → List Glyph
  | .plain, _ => []
  | .indented unit, level => .char '\n' :: (List.replicate level unit).flatten

/-- What stands between two parts at the given level. -/
def Style.separator (style : Style) (level : Nat) : List Glyph :=
  match style with
  | .plain => Glyph.ofChars [',', ' ']
  | .indented _ => .char ',' :: style.lead level

/-- What stands between a key and its value. -/
def colon : List Glyph := Glyph.ofChars [':', ' ']

mutual
/-- The glyphs of a value at the given level. -/
def write (style : Style) (level : Nat) : Value → List Glyph
  | .null => Glyph.ofChars "null".toList
  | .bool true => Glyph.ofChars "true".toList
  | .bool false => Glyph.ofChars "false".toList
  | .int n => Glyph.ofChars (toString n).toList
  | .real x => Glyph.ofChars (NumberLayout.source.write x)
  | .text t => writeText t
  | .list [] => Glyph.ofChars ['[', ']']
  | .list (v :: vs) =>
    .char '[' :: (style.lead (level + 1) ++ write style (level + 1) v ++
      writeItems style (level + 1) vs ++
      style.lead level ++ [.char ']'])
  | .record [] => Glyph.ofChars ['\x7b', '\x7d']
  | .record ((k, v) :: fs) =>
    .char '\x7b' :: (style.lead (level + 1) ++ writeText k ++ colon ++
      write style (level + 1) v ++ writeFields style (level + 1) fs ++ style.lead level ++
      [.char '\x7d'])

/-- The items of a list after the first one. -/
def writeItems (style : Style) (level : Nat) : List Value → List Glyph
  | [] => []
  | v :: vs => style.separator level ++ write style level v ++ writeItems style level vs

/-- The fields of a record after the first one. -/
def writeFields (style : Style) (level : Nat) : List (Text × Value) → List Glyph
  | [] => []
  | (k, v) :: fs =>
    style.separator level ++ writeText k ++ colon ++ write style level v ++
      writeFields style level fs
end

/-- The text of a value. -/
def render (style : Style) (v : Value) : Text := ⟨v.write style 0⟩

end Value

end GridRobot
