import GridRobot.Text.Digits
import GridRobot.Text.Integer
import GridRobot.Text.Quoted

/-!
# Reading arguments

A grammar lists the flags of a program and the operand that it takes: a file, or a command with a
grammar of its own. Every argument is first sorted by itself:

* an argument that starts with a dash is a flag, unless it is a single dash, a negative number, or
  holds a blank; it may name a flag in full, by a beginning that fits one flag only, or by a short
  flag with its value right behind it;
* two dashes end the flags: all that follows is plain;
* everything else is plain.

Then flags and operands are taken from left to right. What nobody takes is left over. Two dashes
attached to a flag as its value are dropped: the flag was given, and has no value.
-/

namespace GridRobot.CommandLine

/-- What a flag does. -/
inductive FlagKind where
  | help
  | switch
  | text
  | integer
deriving DecidableEq, Repr

/-- A flag. -/
structure Flag where
  /-- The names of the flag, with their dashes. -/
  names : List String
  kind : FlagKind
  /-- The key under which its value is kept. -/
  key : String
  required : Bool := false
deriving DecidableEq, Repr

namespace Flag

/-- How a flag is called in messages. -/
def label (f : Flag) : String := String.intercalate "/" f.names

/-- Does the flag take a value? -/
def takesValue (f : Flag) : Bool :=
  match f.kind with
  | .text | .integer => true
  | .help | .switch => false

end Flag

/-- What a program takes besides its flags. -/
inductive Operand where
  | file (key : String)
  | command (key : String) (choices : List String)
deriving DecidableEq, Repr

/-- The arguments that a program understands. -/
structure Grammar where
  /-- The name of the program, with the command that it runs. -/
  program : String
  flags : List Flag
  operand : Option Operand := none
  /-- The text that tells the arguments. -/
  help : String
deriving DecidableEq, Repr

/-- Why reading stops. -/
inductive Stop where
  /-- Help was asked for. -/
  | help (text : String)
  /-- An argument is wrong. -/
  | usage (program : String) (message : Text)
deriving DecidableEq, Repr

/-- The line that tells that an argument is wrong. -/
def Stop.usageLine (program : String) (message : Text) : Text := s!"{program}: error: " ++ message

/-- The value of a flag or an operand. -/
inductive Argument where
  | on
  | text (t : Text)
  | integer (n : Int)
  /-- A value was given and dropped. -/
  | dropped
deriving DecidableEq, Repr

/-- What was given for a flag: a value, or one that was dropped. -/
inductive Given (α : Type) where
  | value (a : α)
  | dropped
deriving DecidableEq, Repr

/-! ## Sorting arguments -/

/-- What a single argument is. -/
inductive Tag where
  /-- A flag by one of its names, maybe with a text attached. -/
  | flag (f : Flag) (name : Text) (attached : Option Text)
  /-- It looks like a flag and is none. -/
  | unknown
  /-- Two dashes. -/
  | dashes
  | plain
deriving DecidableEq, Repr

/-- An argument that has been sorted. -/
structure Word where
  text : Text
  tag : Tag
deriving DecidableEq, Repr

namespace Word

/-- Does the word look like a flag? -/
def isFlag (w : Word) : Bool :=
  match w.tag with
  | .flag .. | .unknown => true
  | .dashes | .plain => false

/-- Is the word plain? -/
def isPlain (w : Word) : Bool := w.tag = .plain

end Word

namespace Grammar

/-- The text that ends the flags. -/
def dashes : Text := "--"

/-- All names of flags with their flags, in order. -/
def names (g : Grammar) : List (Text × Flag) :=
  g.flags.flatMap (fun f => f.names.map (fun name => (.ofString name, f)))

/-- The flag with a name. -/
def flag? (g : Grammar) (name : Text) : Option Flag := g.names.lookup name

/-- What stands in front of the first equals sign, and what stands behind it. -/
def splitEquals (t : Text) : Option (Text × Text) :=
  match t.glyphs.dropWhile (· != .char '=') with
  | [] => none
  | _ :: value => some (⟨t.glyphs.takeWhile (· != .char '=')⟩, ⟨value⟩)

/-- Is the glyph a digit of some script? -/
def isDigit : Glyph → Bool
  | .char c => (Digits.value? c).isSome
  | .half _ => false

/-- Is every glyph a digit, and is there one? -/
def areDigits (gs : List Glyph) : Bool := !gs.isEmpty && gs.all isDigit

/-- Does the text after a dash make a negative number? A line feed at the end does not count. -/
def isNumber (gs : List Glyph) : Bool :=
  let gs := if gs.getLast? = some (.char '\n') then gs.dropLast else gs
  match gs.dropWhile (· != .char '.') with
  | [] => areDigits gs
  | _ :: fraction =>
    let whole := gs.takeWhile (· != .char '.')
    (whole.isEmpty || areDigits whole) && areDigits fraction

/-- The flags that the beginning of a long name fits, each with the text attached. -/
def byBeginning (g : Grammar) (text : Text) : List (Flag × Text × Option Text) :=
  let (start, attached) := match splitEquals text with
    | some (start, value) => (start, some value)
    | none => (text, none)
  g.names.filterMap (fun (name, f) =>
    if start.glyphs.isPrefixOf name.glyphs then some (f, name, attached) else none)

/-- The flags that a text with a single dash fits: a short flag with its value right behind it, or
the beginning of a name. -/
def byShortName (g : Grammar) (text : Text) : List (Flag × Text × Option Text) :=
  let short : Text := ⟨text.glyphs.take 2⟩
  let value : Text := ⟨text.glyphs.drop 2⟩
  g.names.filterMap (fun (name, f) =>
    if name = short then some (f, name, some value)
    else if text.glyphs.isPrefixOf name.glyphs then some (f, name, none)
    else none)

/-- Sort an argument that starts with a dash and does not name a flag in full. -/
def sortDashed (g : Grammar) (text : Text) (rest : List Glyph) : Except Stop Tag :=
  let fits := if rest.head? = some (.char '-') then g.byBeginning text else g.byShortName text
  match fits with
  | [(f, name, attached)] => .ok (.flag f name attached)
  | [] => if isNumber rest || text.glyphs.contains (.char ' ') then .ok .plain else .ok .unknown
  | fits =>
    let could := Text.intercalate ", " (fits.map (fun (_, name, _) => name))
    .error (.usage g.program ("ambiguous option: " ++ text ++ " could match " ++ could))

/-- Sort an argument. -/
def sort (g : Grammar) (text : Text) : Except Stop Tag :=
  match text.glyphs with
  | .char '-' :: rest =>
    match g.flag? text with
    | some f => .ok (.flag f text none)
    | none =>
      if rest.isEmpty then .ok .plain
      else
        match splitEquals text with
        | some (name, value) =>
          match g.flag? name with
          | some f => .ok (.flag f name (some value))
          | none => g.sortDashed text rest
        | none => g.sortDashed text rest
  | _ => .ok .plain

/-- Sort all arguments; after two dashes all are plain. -/
def sortAll (g : Grammar) : List Text → Except Stop (List Word)
  | [] => .ok []
  | text :: rest =>
    if text = dashes then .ok (⟨text, .dashes⟩ :: rest.map (⟨·, .plain⟩))
    else
      match g.sort text with
      | .error s => .error s
      | .ok tag => (sortAll g rest).map (⟨text, tag⟩ :: ·)

end Grammar

/-! ## Taking arguments -/

/-- What has been taken so far. -/
structure Taken where
  /-- The values by their keys, newest first. -/
  values : List (String × Argument) := []
  /-- What nobody took. -/
  extras : List Text := []
  /-- What the command left over. -/
  inner : List Text := []
deriving DecidableEq, Repr

namespace Taken

/-- Keep a value. -/
def keep (t : Taken) (key : String) (a : Argument) : Taken :=
  { t with values := (key, a) :: t.values }

/-- Is there a value for the key? -/
def has (t : Taken) (key : String) : Bool := (t.values.lookup key).isSome

/-- The text given under a key. -/
def text? (t : Taken) (key : String) : Option (Given Text) :=
  match t.values.lookup key with
  | some (.text s) => some (.value s)
  | some .dropped => some .dropped
  | _ => none

/-- The integer given under a key. -/
def integer? (t : Taken) (key : String) : Option (Given Int) :=
  match t.values.lookup key with
  | some (.integer n) => some (.value n)
  | some .dropped => some .dropped
  | _ => none

/-- The text of an operand, which is never dropped. -/
def operand? (t : Taken) (key : String) : Option Text :=
  match t.values.lookup key with
  | some (.text s) => some s
  | _ => none

end Taken

/-- A text in the quotes of messages. -/
def quote (t : Text) : String := String.ofList (Quoted.encode t)

namespace Grammar

/-- A complaint about a flag or an operand. -/
def complain (g : Grammar) (label message : String) : Stop :=
  .usage g.program s!"argument {label}: {message}"

/-- The value that a text stands for. Two dashes are dropped. -/
def valueOf (g : Grammar) (f : Flag) (text : Text) : Except Stop Argument :=
  if text = dashes then .ok .dropped
  else
    match f.kind with
    | .integer =>
      match text.toString?.bind IntegerText.readArgument? with
      | some n => .ok (.integer n)
      | none => .error (g.complain f.label s!"invalid int value: {quote text}")
    | _ => .ok (.text text)

/-- Do what a flag says, with its value if it takes one. -/
def obey (g : Grammar) (t : Taken) (f : Flag) (value : Text) : Except Stop Taken :=
  match f.kind with
  | .help => .error (.help g.help)
  | .switch => .ok (t.keep f.key .on)
  | .text | .integer => (g.valueOf f value).map (t.keep f.key)

/-- Do what several flags say, one after the other. -/
def obeyAll (g : Grammar) (t : Taken) : List (Flag × Text) → Except Stop Taken
  | [] => .ok t
  | (f, value) :: rest =>
    match g.obey t f value with
    | .error s => .error s
    | .ok t => obeyAll g t rest

/-- The value of a flag from the words behind it, and the words then left. -/
def valueBehind (g : Grammar) (f : Flag) (words : List Word) : Except Stop (Text × List Word) :=
  if !f.takesValue then .ok ("", words)
  else
    match words with
    | w :: rest =>
      if w.isPlain then .ok (w.text, rest) else .error (g.complain f.label "expected one argument")
    | [] => .error (g.complain f.label "expected one argument")

/-- The complaint about a text attached to a flag that takes none. -/
def ignored (g : Grammar) (f : Flag) (given : List Glyph) : Stop :=
  let given := quote ⟨given⟩
  g.complain f.label s!"ignored explicit argument {given}"

/-- The flags of one argument, each with its value, and the words that are then left. -/
abbrev Expansion := List (Flag × Text) × List Word

/-- The flags of an argument that starts with a short flag without a value and has a text attached:
every glyph of the text is a short flag again, and one that takes a value takes the rest, or a
word behind if there is no rest. -/
def expand (g : Grammar) (words : List Word) (before : List (Flag × Text)) (f : Flag) :
    (attached : List Glyph) → Except Stop Expansion
  | [] => .error (g.ignored f [])
  | c :: rest =>
    let before := before ++ [(f, ⟨[]⟩)]
    match g.flag? ⟨[.char '-', c]⟩ with
    | none => .error (g.ignored f (c :: rest))
    | some next =>
      if rest.isEmpty then
        (g.valueBehind next words).map (fun (value, words) => (before ++ [(next, value)], words))
      else if next.takesValue then .ok (before ++ [(next, ⟨rest⟩)], words)
      else expand g words before next rest

/-- The flags of an argument, given the words behind it. -/
def expansion (g : Grammar) (f : Flag) (name : Text) (attached : Option Text)
    (words : List Word) : Except Stop Expansion :=
  match attached with
  | none => (g.valueBehind f words).map (fun (value, words) => ([(f, value)], words))
  | some text =>
    if f.takesValue then .ok ([(f, text)], words)
    else if (name.glyphs.drop 1).head? = some (.char '-') then .error (g.ignored f text.glyphs)
    else g.expand words [] f text.glyphs

/-- Take a flag and what belongs to it. -/
def takeFlag (g : Grammar) (t : Taken) (f : Flag) (name : Text) (attached : Option Text)
    (words : List Word) : Except Stop (Taken × List Word) :=
  match g.expansion f name attached words with
  | .error s => .error s
  | .ok (flags, words) => (g.obeyAll t flags).map (·, words)

/-- How a command reads the arguments behind it. -/
abbrev Reader := String → List Text → Except Stop Taken

/-- Take the operand from the front of the words, if there is one to take: a file takes a plain word
and two dashes on either side of it, a command takes all. -/
def takeOperand (g : Grammar) (reader : Reader) (t : Taken) (words : List Word) :
    Option (Except Stop (Taken × List Word)) :=
  let front := words.takeWhile (·.tag = .dashes)
  match g.operand, words.dropWhile (·.tag = .dashes) with
  | some (.file key), w :: rest =>
    if w.isPlain && !t.has key then
      some (.ok (t.keep key (.text w.text), rest.dropWhile (·.tag = .dashes)))
    else none
  | some (.command key choices), w :: rest =>
    if w.isPlain && !t.has key then
      let name := ((front.map (·.text)).head?).getD w.text
      match choices.find? (fun (choice : String) => choice = name) with
      | some choice =>
        some (match reader choice (rest.map (·.text)) with
          | .error s => .error s
          | .ok inner => .ok ({ t with
              values := inner.values ++ (key, .text choice) :: t.values
              inner := inner.extras ++ inner.inner }, []))
      | none =>
        let could := String.intercalate ", " (choices.map (fun (choice : String) => quote choice))
        some (.error (g.complain key s!"invalid choice: {quote name} (choose from {could})"))
    else none
  | _, _ => none

/-- Take flags and operands from left to right. Every round takes a word at least, so as many rounds
as there are words suffice. -/
def takeAll (g : Grammar) (reader : Reader) : (rounds : Nat) → Taken → List Word → Except Stop Taken
  | 0, t, words => .ok { t with extras := t.extras ++ words.map (·.text) }
  | _, t, [] => .ok t
  | rounds + 1, t, w :: rest =>
    match w.tag with
    | .flag f name attached =>
      match g.takeFlag t f name attached rest with
      | .error s => .error s
      | .ok (t, words) => takeAll g reader rounds t words
    | .unknown => takeAll g reader rounds { t with extras := t.extras ++ [w.text] } rest
    | .dashes | .plain =>
      match g.takeOperand reader t (w :: rest) with
      | some (.error s) => .error s
      | some (.ok (t, words)) => takeAll g reader rounds t words
      | none =>
        let words := w :: rest
        let skipped := words.takeWhile (fun w => !w.isFlag)
        takeAll g reader rounds { t with extras := t.extras ++ skipped.map (·.text) }
          (words.dropWhile (fun w => !w.isFlag))

/-- What is required, by key and label. -/
def requirements (g : Grammar) : List (String × String) :=
  (match g.operand with
    | some (.file key) => [(key, key)]
    | _ => []) ++
  (g.flags.filter (·.required)).map (fun f => (f.key, f.label))

/-- Read the arguments of a program. -/
def read (g : Grammar) (reader : Reader) (args : List Text) : Except Stop Taken :=
  match g.sortAll args with
  | .error s => .error s
  | .ok words =>
    match g.takeAll reader words.length {} words with
    | .error s => .error s
    | .ok t =>
      let missing := (g.requirements.filter (fun (key, _) => !t.has key)).map (·.2)
      if missing.isEmpty then .ok t
      else
        let list := String.intercalate ", " missing
        .error (.usage g.program s!"the following arguments are required: {list}")

end Grammar

end GridRobot.CommandLine
