import GridRobot.Number.Numeral
import GridRobot.Text.Digits

/-!
# Integers written by people

On the command line an integer may have blanks around it, a sign, digits of every script, and single
underscores between its digits.

In a request it is first read as it stands: a minus sign and digits without a leading zero. If it is
none, it is tidied up and read again. Tidying up drops the blanks around it, a plus sign, leading
zeros with the underscores among them, a fraction of zeros, and single underscores between digits.
An integer may have so many digits only; that it has more is told only if it was read as it stands.
-/

namespace GridRobot

/-- White space that may stand around an integer. -/
def isBlank (c : Char) : Bool :=
  let n := c.toNat
  (9 ≤ n && n ≤ 13) || n == 0x20 || n == 0x85 || n == 0xa0 || n == 0x1680 ||
    (0x2000 ≤ n && n ≤ 0x200a) || n == 0x2028 || n == 0x2029 || n == 0x202f || n == 0x205f ||
    n == 0x3000

namespace IntegerText

/-- The text without the blanks around it. -/
def strip (cs : List Char) : List Char :=
  ((cs.dropWhile isBlank).reverse.dropWhile isBlank).reverse

/-- A sign and what follows it. -/
def splitSign : List Char → Bool × List Char
  | '-' :: cs => (true, cs)
  | '+' :: cs => (false, cs)
  | cs => (false, cs)

/-- The integer with a sign and a magnitude. -/
def signed (negative : Bool) (n : Nat) : Int := if negative then -(n : Int) else (n : Int)

/-! ## Arguments -/

/-- Digits with single underscores between them, to the end: the digit values, last one first. The
flag says whether a digit came just before. -/
def digits : Bool → List Nat → List Char → Option (List Nat)
  | after, seen, [] => if after then some seen else none
  | after, seen, c :: cs =>
    match Digits.value? c with
    | some d => digits true (d :: seen) cs
    | none => if after && c == '_' then digits false seen cs else none

/-- The number of a list of digit values, last one first. -/
def number (ds : List Nat) : Nat :=
  ds.foldr (fun d n => 10 * n + d) 0

/-- The integer that an argument spells. -/
def readArgument? (s : String) : Option Int :=
  let (negative, cs) := splitSign (strip s.toList)
  match digits false [] cs with
  | none => none
  | some ds => if Numeral.maxDigits < ds.length then none else some (signed negative (number ds))

/-! ## Requests -/

/-- How reading an integer can end. -/
inductive Reading where
  | value (n : Int)
  | malformed
  | tooLong
deriving DecidableEq, Repr

/-- One of the nine digits that a number may begin with. -/
def isLeading (c : Char) : Bool := '1' ≤ c && c ≤ '9'

/-- Read an integer as it stands. Too many digits are noticed before what follows them. -/
def readPlain (cs : List Char) : Reading :=
  let (negative, ds) : Bool × List Char := match cs with
    | '-' :: ds => (true, ds)
    | ds => (false, ds)
  if ds = ['0'] then .value 0
  else if (ds.head?.map isLeading).getD false then
    let run := ds.takeWhile (fun c => (Digits.plain? c).isSome)
    if Numeral.maxDigits < run.length then .tooLong
    else if run.length < ds.length then .malformed
    else .value (signed negative (number (run.filterMap Digits.plain?).reverse))
  else .malformed

/-- What follows leading zeros and the underscores among them, the last of which is given. At the
end of the text, and in front of a point, that one stays. -/
def afterZero (last : Char) : List Char → Option (List Char)
  | [] => some [last]
  | c :: cs =>
    if c = '0' ∨ c = '_' then afterZero c cs
    else if isLeading c ∨ c = '-' then some (c :: cs)
    else if c = '.' then some (last :: c :: cs)
    else none

/-- A text without leading zeros; none if it does not begin like a number. -/
def dropZeros : List Char → Option (List Char)
  | [] => none
  | c :: cs =>
    if c = '0' then afterZero c cs
    else if isLeading c ∨ c = '-' then some (c :: cs)
    else none

/-- A text without a fraction of zeros. -/
def dropFraction (cs : List Char) : List Char :=
  match cs.dropWhile (· != '.') with
  | _ :: '0' :: zeros => if zeros.all (· == '0') then cs.takeWhile (· != '.') else cs
  | _ => cs

/-- Do two underscores stand side by side? -/
def hasDouble : List Char → Bool
  | '_' :: '_' :: _ => true
  | _ :: cs => hasDouble cs
  | [] => false

/-- A text without underscores, if they stand one by one between other characters. -/
def dropUnderscores (cs : List Char) : List Char :=
  if cs.head? = some '_' || cs.getLast? = some '_' || hasDouble cs then cs
  else cs.filter (· != '_')

/-- The text tidied up behind its sign. -/
def tidyTail (cs : List Char) : Option (List Char) :=
  (dropZeros cs).map (fun cs => dropUnderscores (dropFraction cs))

/-- The text tidied up. -/
def tidy (cs : List Char) : Option (List Char) :=
  match strip cs with
  | '-' :: cs => (tidyTail cs).map ('-' :: ·)
  | '+' :: '-' :: _ => none
  | '+' :: cs => tidyTail cs
  | cs => tidyTail cs

/-- Read an integer after tidying it up: what is then no integer is malformed, whatever the reason.
-/
def readTidy (cs : List Char) : Reading :=
  match (tidy cs).map readPlain with
  | some (.value n) => .value n
  | _ => .malformed

/-- Read an integer from a request. -/
def readRequest (s : String) : Reading :=
  match readPlain s.toList with
  | .malformed => readTidy s.toList
  | reading => reading

end IntegerText

end GridRobot
