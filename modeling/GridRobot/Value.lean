import GridRobot.Number
import GridRobot.Text.Quoted

/-!
# Values

Settings of blocks, program records and requests hold values of no fixed shape: null, truth values,
integers, floating-point numbers, texts, lists and records. A record keeps its fields in the order
in which their keys first appeared, each key once.

Lists and records are no keys: they cannot be looked up in a table.
-/

namespace GridRobot

/-- A value of a record format. -/
inductive Value where
  | null
  | bool (b : Bool)
  | int (n : Int)
  | real (x : Binary64)
  | text (t : Text)
  | list (items : List Value)
  | record (fields : List (Text × Value))
deriving Repr, Inhabited

namespace Value

/-! ## Equality -/

mutual
/-- Equality of values is decidable. -/
def decEq : (a b : Value) → Decidable (a = b)
  | .null, .null => isTrue rfl
  | .bool a, .bool b => decidable_of_iff (a = b) (by simp)
  | .int a, .int b => decidable_of_iff (a = b) (by simp)
  | .real a, .real b => decidable_of_iff (a = b) (by simp)
  | .text a, .text b => decidable_of_iff (a = b) (by simp)
  | .list a, .list b => @decidable_of_iff _ (a = b) (by simp) (decEqList a b)
  | .record a, .record b => @decidable_of_iff _ (a = b) (by simp) (decEqFields a b)
  | .null, .bool _ | .null, .int _ | .null, .real _ | .null, .text _ | .null, .list _
  | .null, .record _ => isFalse nofun
  | .bool _, .null | .bool _, .int _ | .bool _, .real _ | .bool _, .text _ | .bool _, .list _
  | .bool _, .record _ => isFalse nofun
  | .int _, .null | .int _, .bool _ | .int _, .real _ | .int _, .text _ | .int _, .list _
  | .int _, .record _ => isFalse nofun
  | .real _, .null | .real _, .bool _ | .real _, .int _ | .real _, .text _ | .real _, .list _
  | .real _, .record _ => isFalse nofun
  | .text _, .null | .text _, .bool _ | .text _, .int _ | .text _, .real _ | .text _, .list _
  | .text _, .record _ => isFalse nofun
  | .list _, .null | .list _, .bool _ | .list _, .int _ | .list _, .real _ | .list _, .text _
  | .list _, .record _ => isFalse nofun
  | .record _, .null | .record _, .bool _ | .record _, .int _ | .record _, .real _
  | .record _, .text _ | .record _, .list _ => isFalse nofun

/-- Equality of lists of values is decidable. -/
def decEqList : (a b : List Value) → Decidable (a = b)
  | [], [] => isTrue rfl
  | [], _ :: _ | _ :: _, [] => isFalse nofun
  | v :: vs, w :: ws =>
    match decEq v w, decEqList vs ws with
    | isTrue h, isTrue h' => isTrue (h ▸ h' ▸ rfl)
    | isFalse h, _ => isFalse (fun e => h (List.cons.inj e).1)
    | _, isFalse h => isFalse (fun e => h (List.cons.inj e).2)

/-- Equality of fields is decidable. -/
def decEqFields : (a b : List (Text × Value)) → Decidable (a = b)
  | [], [] => isTrue rfl
  | [], _ :: _ | _ :: _, [] => isFalse nofun
  | (k, v) :: fs, (l, w) :: gs =>
    if hk : k = l then
      match decEq v w, decEqFields fs gs with
      | isTrue h, isTrue h' => isTrue (hk ▸ h ▸ h' ▸ rfl)
      | isFalse h, _ => isFalse (fun e => h (Prod.mk.inj (List.cons.inj e).1).2)
      | _, isFalse h => isFalse (fun e => h (List.cons.inj e).2)
    else isFalse (fun e => hk (Prod.mk.inj (List.cons.inj e).1).1)
end

instance : DecidableEq Value := decEq

/-! ## Fields -/

/-- Set a field: a key that is there keeps its place and takes the new value. -/
def setField (key : Text) (value : Value) : List (Text × Value) → List (Text × Value)
  | [] => [(key, value)]
  | (k, v) :: rest => if k = key then (k, value) :: rest else (k, v) :: setField key value rest

/-- The field of a record with the given key. -/
def field? (key : String) : Value → Option Value
  | .record fields => fields.lookup (Text.ofString key)
  | _ => none

/-! ## Truth and kind -/

/-- Null, false, every zero and everything empty count as false. -/
def isTruthy : Value → Bool
  | .null => false
  | .bool b => b
  | .int n => n ≠ 0
  | .real x => !x.isZero
  | .text t => !t.isEmpty
  | .list items => !items.isEmpty
  | .record fields => !fields.isEmpty

/-- The name of the kind of a value, for messages. -/
def typeName : Value → String
  | .null => "NoneType"
  | .bool _ => "bool"
  | .int _ => "int"
  | .real _ => "float"
  | .text _ => "str"
  | .list _ => "list"
  | .record _ => "dict"

/-- The number of repetitions that a value stands for: truth values count as one and zero, and a
negative count is none. -/
def count? : Value → Option Nat
  | .int n => some n.toNat
  | .bool b => some b.toNat
  | _ => none

/-- Can the value be looked up in a table? -/
def isKey : Value → Bool
  | .list _ | .record _ => false
  | _ => true

/-- The number that a value is. -/
def number? : Value → Option Number
  | .int n => some (.int n)
  | .bool b => some (.truth b)
  | .real x => some (.real x)
  | _ => none

/-- The value of a number. -/
def ofNumber : Number → Value
  | .int n => .int n
  | .truth b => .bool b
  | .real x => .real x

@[simp] theorem number?_ofNumber (n : Number) : (ofNumber n).number? = some n := by
  cases n <;> rfl

/-- Do the values find the same entry of a table? -/
def sameKey (a b : Value) : Bool :=
  match a.number?, b.number? with
  | some m, some n => m.same n
  | _, _ => a = b

/-- The integer that a value equals as a number. -/
def equalInt? : Value → Option Int
  | .int n => some n
  | .bool b => some b.toInt
  | .real x => x.toInt?
  | _ => none

/-- A list of texts. -/
def texts (ss : List String) : Value := .list (ss.map (fun (s : String) => .text s))

/-! ## Text of a value in messages -/

/-- Texts joined by a comma and a blank. -/
def joinComma : List (List Char) → List Char
  | [] => []
  | [x] => x
  | x :: xs => x ++ [',', ' '] ++ joinComma xs

mutual
/-- The text of a value in a message, with texts in quotes. -/
def quotedChars : Value → List Char
  | .null => "None".toList
  | .bool true => "True".toList
  | .bool false => "False".toList
  | .int n => (toString n).toList
  | .real x => NumberLayout.shown.write x
  | .text t => Quoted.encode t
  | .list items => '[' :: (joinComma (quotedItems items) ++ [']'])
  | .record fields => '\x7b' :: (joinComma (quotedFields fields) ++ ['\x7d'])

/-- The items of a list in a message. -/
def quotedItems : List Value → List (List Char)
  | [] => []
  | v :: vs => quotedChars v :: quotedItems vs

/-- The fields of a record in a message. -/
def quotedFields : List (Text × Value) → List (List Char)
  | [] => []
  | (k, v) :: fs => (Quoted.encode k ++ [':', ' '] ++ quotedChars v) :: quotedFields fs
end

mutual
/-- Can the value be written? Every integer in it must not be too long. -/
def isWritable : Value → Bool
  | .int n => Numeral.fits n
  | .list items => areWritable items
  | .record fields => fieldsWritable fields
  | .null => true
  | .bool _ => true
  | .real _ => true
  | .text _ => true

/-- Can all items be written? -/
def areWritable : List Value → Bool
  | [] => true
  | v :: vs => v.isWritable && areWritable vs

/-- Can all fields be written? -/
def fieldsWritable : List (Text × Value) → Bool
  | [] => true
  | (_, v) :: fs => v.isWritable && fieldsWritable fs
end

/-- The text of a value in a message, with texts in quotes. -/
def quoted (v : Value) : String := String.ofList v.quotedChars

/-- The text of a value by itself: a text stands as it is. -/
def display : Value → Text
  | .text t => t
  | v => v.quoted

@[simp] theorem display_text (t : Text) : (Value.text t).display = t := rfl

/-- The message that a value is no key. -/
def notAKey (v : Value) : String := s!"unhashable type: '{v.typeName}'"

/-- The message that values have no order. -/
def notOrdered (sign : String) (a b : Value) : String :=
  s!"'{sign}' not supported between instances of '{a.typeName}' and '{b.typeName}'"

/-- Do the values have an order? Numbers have one, and so do texts and lists among their like. -/
def isOrdered : Value → Value → Bool
  | .text _, .text _ => true
  | .list _, .list _ => true
  | a, b => a.number?.isSome && b.number?.isSome

/-- The message that values cannot be added. Texts and lists could be joined with their like. -/
def notAddable (a b : Value) : String :=
  match a with
  | .text _ | .list _ =>
    s!"can only concatenate {a.typeName} (not \"{b.typeName}\") to {a.typeName}"
  | _ => s!"unsupported operand type(s) for +: '{a.typeName}' and '{b.typeName}'"

end Value

end GridRobot
