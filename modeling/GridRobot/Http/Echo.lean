import GridRobot.Value

/-!
# What a report can show

A report about a request shows what was found in it. It cannot show everything: a text that holds
half of a character, and what is nested too deep, cannot be written in it. Fields of records whose
key begins with a certain mark are left out of reports, so they do not matter.
-/

namespace GridRobot.Http.Echo

/-- The deepest level of what is written in a reply. -/
def maxDepth : Nat := 255

/-- The level at which a report begins to show what was found. -/
def firstDepth : Nat := 3

/-- The beginning of the keys of fields that are left out of reports. -/
def hiddenMark : String := "_sa"

mutual
/-- Can the value be shown, with room for so many levels? -/
def fits : (room : Nat) → Value → Bool
  | 0, _ => false
  | _ + 1, .text t => t.isWhole
  | room + 1, .list items => fitsAll room items
  | room + 1, .record fields => fitsFields room fields
  | _ + 1, _ => true

/-- Can all items be shown? -/
def fitsAll (room : Nat) : List Value → Bool
  | [] => true
  | v :: vs => fits room v && fitsAll room vs

/-- Can all fields be shown that are not left out? -/
def fitsFields (room : Nat) : List (Text × Value) → Bool
  | [] => true
  | (k, v) :: fs => (k.startsWith hiddenMark || (k.isWhole && fits room v)) && fitsFields room fs
end

/-- Can the value be shown in a report? -/
def canShow (v : Value) : Bool := fits (maxDepth + 1 - firstDepth) v

end GridRobot.Http.Echo
