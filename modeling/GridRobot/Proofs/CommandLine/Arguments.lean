import GridRobot.CommandLine.Command
import GridRobot.Proofs.Value.Token
import Mathlib.Data.List.TakeWhile

/-!
# Plain command lines

The command that runs a program can be spelled in many ways. The plain one names the file, the level
and the seed, each number as a decimal. Negative numbers look like flags, and yet no flag begins
like one; and a number may have so many digits only.

* `IntegerText.readArgument?_toString`: a decimal is read back, unless it has too many digits;
* `CommandLine.Grammar.sort_toString`: a decimal is never taken for a flag;
* `CommandLine.readCommand_run`: what the plain arguments of a run are read as.
-/

namespace GridRobot

/-! ## Decimals -/

namespace IntegerText

variable {n : Nat} {c : Char}

theorem bounds_of_mem_toDigits (h : c ∈ Nat.toDigits 10 n) : 48 ≤ c.toNat ∧ c.toNat ≤ 57 := by
  have hdigit := Nat.isDigit_of_mem_toDigits (by decide) (by decide) h
  simpa [Char.isDigit, UInt32.le_iff_toNat_le] using hdigit

/-- A digit of a decimal has the value that one expects. -/
theorem value?_of_mem_toDigits (h : c ∈ Nat.toDigits 10 n) :
    Digits.value? c = some (c.toNat - '0'.toNat) := by
  obtain ⟨hlow, hhigh⟩ := bounds_of_mem_toDigits h
  have hfirst : (decide (0x30 ≤ c.toNat) && decide (c.toNat < 0x30 + 10)) = true := by
    rw [Bool.and_eq_true, decide_eq_true_eq, decide_eq_true_eq]
    omega
  have hfind : Digits.zeros.find? (fun z => z ≤ c.toNat && c.toNat < z + 10) = some 0x30 :=
    List.find?_cons_of_pos hfirst
  rw [Digits.value?, hfind]
  rfl

theorem isBlank_of_mem_toDigits (h : c ∈ Nat.toDigits 10 n) : isBlank c = false := by
  obtain ⟨hlow, hhigh⟩ := bounds_of_mem_toDigits h
  simp only [isBlank, Bool.or_eq_false_iff, Bool.and_eq_false_iff, decide_eq_false_iff_not,
    beq_eq_false_iff_ne]
  omega

/-- A text without blanks is not shortened. -/
theorem strip_of_forall {cs : List Char} (h : ∀ c ∈ cs, isBlank c = false) : strip cs = cs := by
  have hdrop (ds : List Char) (hds : ∀ c ∈ ds, isBlank c = false) : ds.dropWhile isBlank = ds := by
    cases ds with
    | nil => rfl
    | cons d ds => rw [List.dropWhile_cons, hds d List.mem_cons_self, if_neg Bool.false_ne_true]
  have hback : ∀ c ∈ cs.reverse, isBlank c = false := by
    intro c hc
    exact h c (List.mem_reverse.1 hc)
  rw [strip, hdrop cs h, hdrop _ hback, List.reverse_reverse]

/-- Digits are taken up to the end of the text. -/
theorem digits_eq {v : Char → Nat} {cs : List Char} (h : ∀ c ∈ cs, Digits.value? c = some (v c))
    (seen : List Nat) : digits true seen cs = some ((cs.map v).reverse ++ seen) := by
  induction cs generalizing seen with
  | nil => rfl
  | cons c cs ih =>
    rw [digits, h c List.mem_cons_self]
    dsimp only
    rw [ih (fun d hd => h d (List.mem_cons_of_mem c hd))]
    simp

/-- The digits of a decimal are all taken, the last one first. -/
theorem digits_toDigits (n : Nat) :
    digits false [] (Nat.toDigits 10 n) =
      some ((Nat.toDigits 10 n).map (fun c => c.toNat - '0'.toNat)).reverse := by
  have hvalue (c : Char) (hc : c ∈ Nat.toDigits 10 n) := value?_of_mem_toDigits hc
  obtain ⟨c, cs, hcs⟩ := List.exists_cons_of_ne_nil (Nat.toDigits_ne_nil (n := n) (b := 10))
  rw [hcs] at hvalue ⊢
  rw [digits, hvalue c List.mem_cons_self]
  dsimp only
  rw [digits_eq (fun d hd => hvalue d (List.mem_cons_of_mem c hd))]
  simp

/-- The digits of a number make that number. -/
theorem number_toDigits (n : Nat) :
    number ((Nat.toDigits 10 n).map (fun c => c.toNat - '0'.toNat)).reverse = n := by
  rw [number, List.foldr_reverse, List.foldl_map]
  exact Nat.ofDigitChars_toDigits (by decide) (by decide)

/-- A decimal has a sign exactly if its number is negative. -/
theorem splitSign_toString (n : Int) :
    splitSign (toString n).toList = (decide (n < 0), Nat.toDigits 10 n.natAbs) := by
  rw [Numeral.toList_toString]
  by_cases hneg : n < 0
  · rw [if_pos hneg, decide_eq_true hneg]
    rfl
  · rw [if_neg hneg, decide_eq_false hneg, List.nil_append]
    -- no digit is a sign
    obtain ⟨c, cs, hcs⟩ :=
      List.exists_cons_of_ne_nil (Nat.toDigits_ne_nil (n := n.natAbs) (b := 10))
    have hc : c ∈ Nat.toDigits 10 n.natAbs := hcs ▸ List.mem_cons_self
    obtain ⟨hlow, -⟩ := bounds_of_mem_toDigits hc
    rw [hcs]
    unfold splitSign
    split
    · next heq =>
      cases heq
      exact absurd hlow (by decide)
    · next heq =>
      cases heq
      exact absurd hlow (by decide)
    · rfl

/-- A decimal is read back, unless it has too many digits. -/
theorem readArgument?_toString (n : Int) :
    readArgument? (toString n) = if Numeral.fits n then some n else none := by
  have hblank : ∀ c ∈ (toString n).toList, isBlank c = false := by
    intro c hc
    rw [Numeral.toList_toString, List.mem_append] at hc
    rcases hc with hsign | hdigit
    · split at hsign
      · cases List.mem_singleton.1 hsign
        rfl
      · cases hsign
    · exact isBlank_of_mem_toDigits hdigit
  have hvalue : signed (decide (n < 0)) n.natAbs = n := by
    unfold signed
    split
    · next hneg =>
      have := of_decide_eq_true hneg
      omega
    · next hpos =>
      have : ¬ n < 0 := fun h => hpos (decide_eq_true h)
      omega
  rw [readArgument?, strip_of_forall hblank, splitSign_toString]
  dsimp only
  rw [digits_toDigits]
  dsimp only
  rw [number_toDigits, hvalue, List.length_reverse, List.length_map]
  -- only the number of digits can stand in the way now
  by_cases hfits : Numeral.fits n = true
  · rw [if_pos hfits, if_neg (Nat.not_lt.2 (of_decide_eq_true hfits))]
  · rw [if_neg hfits, if_pos (Nat.not_le.1 (fun h => hfits (decide_eq_true h)))]

end IntegerText

namespace CommandLine

/-! ## Sorting -/

namespace Grammar

variable {g : Grammar}

/-- What does not begin with a dash is plain. -/
theorem sort_of_head (g : Grammar) {t : Text} (h : t.glyphs.head? ≠ some (.char '-')) :
    g.sort t = .ok .plain := by
  unfold sort
  split
  · next rest heq =>
    rw [heq] at h
    exact absurd rfl h
  · rfl

/-- No name of a flag has a digit behind its first dash. -/
def NoDigits (g : Grammar) : Prop :=
  ∀ name ∈ g.names, ∀ c ∈ (name.1.glyphs.drop 1).head?, isDigit c = false

instance (g : Grammar) : Decidable g.NoDigits :=
  inferInstanceAs (Decidable (∀ name ∈ g.names, ∀ c ∈ (name.1.glyphs.drop 1).head?, _))

variable {t : Text} {d : Glyph} {ds : List Glyph}

/-- A text that goes on with a digit behind a dash begins no name of a flag. -/
theorem NoDigits.not_prefix (hg : g.NoDigits) (hd : isDigit d = true) {name : Text × Flag}
    (hname : name ∈ g.names) : ¬ .char '-' :: d :: ds <+: name.1.glyphs := by
  rintro ⟨rest, hrest⟩
  have hfalse := hg name hname d (by rw [← hrest]; rfl)
  rw [hd] at hfalse
  cases hfalse

theorem NoDigits.ne (hg : g.NoDigits) (hd : isDigit d = true) {name : Text × Flag}
    (hname : name ∈ g.names) : name.1 ≠ ⟨.char '-' :: d :: ds⟩ := by
  intro heq
  have hglyphs : name.1.glyphs = .char '-' :: d :: ds := congrArg Text.glyphs heq
  have hprefix : .char '-' :: d :: ds <+: name.1.glyphs := hglyphs ▸ List.prefix_refl _
  exact hg.not_prefix hd hname hprefix

/-- A dash with a digit behind it is not the name of a flag. -/
theorem NoDigits.flag?_eq (hg : g.NoDigits) (hd : isDigit d = true) :
    g.flag? ⟨.char '-' :: d :: ds⟩ = none := by
  rw [flag?, List.lookup_eq_none_iff]
  intro name hname
  rw [bne_iff_ne]
  exact (hg.ne hd hname).symm

/-- Nor is it the beginning of one, or a short one with its value. -/
theorem NoDigits.byShortName_eq (hg : g.NoDigits) (hd : isDigit d = true) :
    g.byShortName ⟨.char '-' :: d :: ds⟩ = [] := by
  rw [byShortName, List.filterMap_eq_nil_iff]
  intro name hname
  have hshort : name.1 ≠ ⟨[.char '-', d]⟩ := hg.ne hd hname
  have hlong : ¬ (.char '-' :: d :: ds).isPrefixOf name.1.glyphs = true := by
    rw [List.isPrefixOf_iff_prefix]
    exact hg.not_prefix hd hname
  show (if name.1 = ⟨[.char '-', d]⟩ then _ else if _ then _ else _) = none
  rw [if_neg hshort, if_neg hlong]

theorem isDigit_ne {c : Char} (hd : isDigit d = true) (hc : Digits.value? c = none) :
    d ≠ .char c := by
  rintro rfl
  rw [isDigit, hc] at hd
  cases hd

/-- Digits hold no other character, so there is nothing in front of which to stop. -/
theorem dropWhile_of_digits {c : Char} (hc : Digits.value? c = none)
    (h : ∀ d ∈ ds, isDigit d = true) : ds.dropWhile (· != .char c) = [] := by
  rw [List.dropWhile_eq_nil_iff]
  intro d hd
  rw [bne_iff_ne]
  exact isDigit_ne (h d hd) hc

/-- A negative number is plain. -/
theorem sort_of_digits (hg : g.NoDigits) (hds : ds ≠ []) (h : ∀ d ∈ ds, isDigit d = true) :
    g.sort ⟨.char '-' :: ds⟩ = .ok .plain := by
  obtain ⟨d, rest, rfl⟩ := List.exists_cons_of_ne_nil hds
  have hd : isDigit d = true := h d List.mem_cons_self
  -- it holds no equals sign, so it is no flag with a value
  have hequals : splitEquals ⟨.char '-' :: d :: rest⟩ = none := by
    have hnone : (.char '-' :: d :: rest : List Glyph).dropWhile (· != .char '=') = [] := by
      rw [List.dropWhile_cons_of_pos (by decide)]
      exact dropWhile_of_digits (by decide) h
    rw [splitEquals, hnone]
  have hnumber : isNumber (d :: rest) = true := by
    have hlast : (d :: rest).getLast? ≠ some (.char '\n') := by
      intro hlast
      exact isDigit_ne (h _ (List.mem_of_getLast? hlast)) (by decide) rfl
    rw [isNumber, if_neg hlast]
    dsimp only
    rw [dropWhile_of_digits (by decide) h]
    simpa [areDigits] using h
  have hdash : (d :: rest).head? ≠ some (.char '-') := by
    intro hhead
    exact isDigit_ne hd (by decide) (Option.some.inj hhead)
  have hdashed : g.sortDashed ⟨.char '-' :: d :: rest⟩ (d :: rest) = .ok .plain := by
    rw [sortDashed, if_neg hdash, hg.byShortName_eq hd]
    dsimp only
    rw [hnumber]
    rfl
  unfold sort
  split
  · next rest' heq =>
    cases heq
    rw [hg.flag?_eq hd]
    dsimp only
    rw [if_neg (by simp), hequals]
    exact hdashed
  · next hother => exact absurd rfl (hother _)

/-- A decimal is never taken for a flag. -/
theorem sort_toString (hg : g.NoDigits) (n : Int) :
    g.sort (toString n : String) = .ok .plain := by
  have hdigit (d : Glyph) (hd : d ∈ Glyph.ofChars (Nat.toDigits 10 n.natAbs)) :
      isDigit d = true := by
    obtain ⟨c, hc, rfl⟩ := List.mem_map.1 hd
    rw [isDigit, IntegerText.value?_of_mem_toDigits hc]
    rfl
  have hglyphs : Text.ofString (toString n) = ⟨Glyph.ofChars (toString n).toList⟩ := rfl
  rw [hglyphs, Numeral.toList_toString]
  by_cases hneg : n < 0
  · rw [if_pos hneg]
    exact sort_of_digits hg (by simp [Nat.toDigits_ne_nil]) hdigit
  · rw [if_neg hneg, List.nil_append]
    apply sort_of_head
    intro hhead
    exact isDigit_ne (hdigit _ (List.mem_of_head? hhead)) (by decide) rfl

/-! ## Taking -/

/-- A flag that takes a value takes the plain word behind it. -/
theorem takeAll_flag (g : Grammar) (reader : Reader) (rounds : Nat) (taken : Taken) (text : Text)
    {f : Flag} (hf : f.takesValue = true) (name value : Text) (rest : List Word) :
    g.takeAll reader (rounds + 1) taken (⟨text, .flag f name none⟩ :: ⟨value, .plain⟩ :: rest) =
      (g.valueOf f value).bind
        (fun a => g.takeAll reader rounds (taken.keep f.key a) rest) := by
  have hbehind : g.valueBehind f (⟨value, .plain⟩ :: rest) = .ok (value, rest) := by
    rw [valueBehind, hf]
    rfl
  have hobey : g.obey taken f value = (g.valueOf f value).map (taken.keep f.key) := by
    rw [Flag.takesValue] at hf
    rw [obey]
    split at hf
    · next hkind => rw [hkind]
    · next hkind => rw [hkind]
    · cases hf
    · cases hf
  have htake : g.takeFlag taken f name none (⟨value, .plain⟩ :: rest) =
      (g.valueOf f value).map (fun a => (taken.keep f.key a, rest)) := by
    rw [takeFlag, expansion, hbehind]
    show (g.obeyAll taken [(f, value)]).map _ = _
    rw [obeyAll, hobey]
    cases g.valueOf f value <;> rfl
  rw [takeAll]
  dsimp only
  rw [htake]
  cases g.valueOf f value <;> rfl

/-- A flag for an integer takes every decimal that has not too many digits. -/
theorem valueOf_toString (g : Grammar) {f : Flag} (hf : f.kind = .integer) {n : Int}
    (hdashes : (toString n : String) ≠ dashes) :
    g.valueOf f (toString n : String) =
      if Numeral.fits n then .ok (.integer n)
      else .error (g.complain f.label s!"invalid int value: {quote (toString n : String)}") := by
  rw [valueOf, if_neg hdashes, hf]
  dsimp only
  rw [Text.toString?_ofString, Option.bind_some, IntegerText.readArgument?_toString]
  by_cases hfits : Numeral.fits n = true
  · rw [if_pos hfits, if_pos hfits]
  · rw [if_neg hfits, if_neg hfits]

end Grammar

/-! ## The command that runs a program -/

/-- The flag that gives the seed. -/
def seedFlag : Flag := ⟨["--seed"], .integer, "seed", false⟩

/-- The two dashes that end the flags are not plain. -/
theorem ne_dashes_of_sort {t : Text} (h : runGrammar.sort t = .ok .plain) : t ≠ Grammar.dashes := by
  rintro rfl
  have hnot : runGrammar.sort Grammar.dashes ≠ .ok .plain := by decide
  exact hnot h

/-- What the plain arguments of a run are read as. -/
theorem readCommand_run {path level seed : Text} (hpath : runGrammar.sort path = .ok .plain)
    (hlevel : runGrammar.sort level = .ok .plain) (hseed : runGrammar.sort seed = .ok .plain) :
    readCommand "run" [path, "--level", level, "--seed", seed] =
      (runGrammar.valueOf levelFlag level).bind (fun n =>
        (runGrammar.valueOf seedFlag seed).bind (fun m =>
          .ok { values := [("seed", m), ("level", n), ("program_file", .text path)] })) := by
  have hsorted : runGrammar.sortAll [path, "--level", level, "--seed", seed] = .ok [
      ⟨path, .plain⟩, ⟨"--level", .flag levelFlag "--level" none⟩, ⟨level, .plain⟩,
      ⟨"--seed", .flag seedFlag "--seed" none⟩, ⟨seed, .plain⟩] := by
    have hflag : runGrammar.sort "--level" = .ok (.flag levelFlag "--level" none) := by decide
    have hflag' : runGrammar.sort "--seed" = .ok (.flag seedFlag "--seed" none) := by decide
    rw [Grammar.sortAll, if_neg (ne_dashes_of_sort hpath), hpath, Grammar.sortAll,
      if_neg (by decide), hflag, Grammar.sortAll, if_neg (ne_dashes_of_sort hlevel), hlevel,
      Grammar.sortAll, if_neg (by decide), hflag', Grammar.sortAll,
      if_neg (ne_dashes_of_sort hseed), hseed]
    rfl
  -- the path is the only operand, since the flags take the other two plain arguments
  have hoperand : runGrammar.takeOperand (fun _ _ => .ok {}) {} [
      ⟨path, .plain⟩, ⟨"--level", .flag levelFlag "--level" none⟩, ⟨level, .plain⟩,
      ⟨"--seed", .flag seedFlag "--seed" none⟩, ⟨seed, .plain⟩] =
      some (.ok ({ values := [("program_file", .text path)] }, [
        ⟨"--level", .flag levelFlag "--level" none⟩, ⟨level, .plain⟩,
        ⟨"--seed", .flag seedFlag "--seed" none⟩, ⟨seed, .plain⟩])) := rfl
  show runGrammar.read _ _ = _
  rw [Grammar.read, hsorted]
  dsimp only [List.length_cons, List.length_nil]
  rw [Grammar.takeAll, hoperand]
  dsimp only
  rw [Grammar.takeAll_flag _ _ _ _ _ rfl]
  cases runGrammar.valueOf levelFlag level with
  | error stop => rfl
  | ok n =>
    dsimp only [Except.bind]
    rw [Grammar.takeAll_flag _ _ _ _ _ rfl]
    cases runGrammar.valueOf seedFlag seed with
    | error stop => rfl
    | ok m => rfl

/-- What stands behind the name of the command is left to the reader of commands. -/
theorem takeOperand_run (reader : Grammar.Reader) (words : List Word) :
    mainGrammar.takeOperand reader {} (⟨"run", .plain⟩ :: words) =
      some ((reader "run" (words.map (·.text))).map fun taken => ({
        values := taken.values ++ [("command", .text "run")]
        inner := taken.extras ++ taken.inner }, [])) := by
  show some _ = some _
  cases reader "run" (words.map (·.text)) with
  | error stop => rfl
  | ok taken => rfl

/-- The arguments that run the program in a file on a level for a seed. -/
def plainLine (path : Text) (level seed : Int) : List Text :=
  ["run", path, "--level", (toString level : String), "--seed", (toString seed : String)]

variable {path : Text}

/-- A plain line is read as what it says, up to its first number that has too many digits. -/
theorem readArguments_plainLine (hpath : path.glyphs.head? ≠ some (.char '-')) (level seed : Int) :
    readArguments (plainLine path level seed) =
      if Numeral.fits level then
        if Numeral.fits seed then .ok (some (.run path (.value level) (some (.value seed))))
        else .error (runGrammar.complain seedFlag.label
          s!"invalid int value: {quote (toString seed : String)}")
      else .error (runGrammar.complain levelFlag.label
        s!"invalid int value: {quote (toString level : String)}") := by
  have hmain : mainGrammar.NoDigits := by decide
  have hrun : runGrammar.NoDigits := by decide
  have hne (n : Int) : (toString n : String) ≠ Grammar.dashes :=
    ne_dashes_of_sort (Grammar.sort_toString hrun n)
  have hpath' : path ≠ Grammar.dashes := ne_dashes_of_sort (Grammar.sort_of_head _ hpath)
  -- the program itself does not know the flags of its command, and leaves them to it
  have hsorted : mainGrammar.sortAll (plainLine path level seed) = .ok [
      ⟨"run", .plain⟩, ⟨path, .plain⟩, ⟨"--level", .unknown⟩, ⟨(toString level : String), .plain⟩,
      ⟨"--seed", .unknown⟩, ⟨(toString seed : String), .plain⟩] := by
    have hunknown : mainGrammar.sort "--level" = .ok .unknown := by decide
    have hunknown' : mainGrammar.sort "--seed" = .ok .unknown := by decide
    rw [plainLine, Grammar.sortAll, if_neg (by decide), Grammar.sort_of_head _ (by decide),
      Grammar.sortAll, if_neg hpath', Grammar.sort_of_head _ hpath, Grammar.sortAll,
      if_neg (by decide), hunknown, Grammar.sortAll, if_neg (hne level),
      Grammar.sort_toString hmain, Grammar.sortAll, if_neg (by decide), hunknown',
      Grammar.sortAll, if_neg (hne seed), Grammar.sort_toString hmain]
    rfl
  have hoperand : mainGrammar.takeOperand readCommand {} [
      ⟨"run", .plain⟩, ⟨path, .plain⟩, ⟨"--level", .unknown⟩, ⟨(toString level : String), .plain⟩,
      ⟨"--seed", .unknown⟩, ⟨(toString seed : String), .plain⟩] =
      some ((readCommand "run" [path, "--level", (toString level : String), "--seed",
        (toString seed : String)]).map _) := takeOperand_run readCommand _
  have hcommand := readCommand_run (Grammar.sort_of_head runGrammar hpath)
    (Grammar.sort_toString hrun level) (Grammar.sort_toString hrun seed)
  rw [Grammar.valueOf_toString _ rfl (hne level),
    Grammar.valueOf_toString _ rfl (hne seed)] at hcommand
  rw [readArguments, Grammar.read, hsorted]
  dsimp only [List.length_cons, List.length_nil]
  rw [Grammar.takeAll, hoperand]
  by_cases hlevel : Numeral.fits level = true
  · rw [if_pos hlevel] at hcommand ⊢
    by_cases hseed : Numeral.fits seed = true
    · rw [if_pos hseed] at hcommand ⊢
      rw [hcommand]
      rfl
    · rw [if_neg hseed] at hcommand ⊢
      rw [hcommand]
      rfl
  · rw [if_neg hlevel] at hcommand ⊢
    rw [hcommand]
    rfl

end CommandLine

end GridRobot
