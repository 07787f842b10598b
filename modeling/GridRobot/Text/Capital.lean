/-!
# Capital letters

Names of blocks and conditions are matched in capitals. The names are spelled with plain Latin
letters, so a character matters only if its capital form is made of these: the plain small letters,
and the few letters and ligatures listed here. Every other character stays as it is, and a text that
holds one is no name.
-/

namespace GridRobot.Capital

/-- The capital form of a character, as far as it is made of plain Latin letters. -/
def ofChar (c : Char) : List Char :=
  if 'a' ≤ c ∧ c ≤ 'z' then [c.toUpper]
  else match c with
    | 'ı' => ['I']
    | 'ſ' => ['S']
    | 'ß' => ['S', 'S']
    | 'ﬀ' => ['F', 'F']
    | 'ﬁ' => ['F', 'I']
    | 'ﬂ' => ['F', 'L']
    | 'ﬃ' => ['F', 'F', 'I']
    | 'ﬄ' => ['F', 'F', 'L']
    | 'ﬅ' => ['S', 'T']
    | 'ﬆ' => ['S', 'T']
    | _ => [c]

/-- The capital form of a text. -/
def ofText (s : String) : String :=
  String.ofList (s.toList.flatMap ofChar)

end GridRobot.Capital
