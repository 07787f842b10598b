import GridRobot.Proofs.Editor.Edits
import GridRobot.Proofs.Number.Numeral

/-!
# The budget of an editor

Only adding a top-level block makes a program longer at the top level, and that is refused as soon
as the budget is used up. So no edits, refused ones among them, get an editor over its budget.

* `Editor.Changes.length_cases`: an edit adds a top-level block only where there is room for it;
* `Editor.isFull_iff_overBudget`: adding a block that the palette has fails exactly if the editor is
  full.
-/

namespace GridRobot

namespace Editor

variable {ι : Type} [RouteIndex ι] {e : Editor}

/-- An empty editor with a budget, if any, and a palette, if any. -/
def ofLimits (limit : Option Int) (palette : Option (List Kind)) : Editor :=
  { rules := { limit := limit.map .int, palette := palette } }

/-- An edit adds at most one top-level block, and only where there is room for it. -/
theorem Changes.length_cases {edit : Edit ι} {answer : Except (EditFault ι) (EditAnswer ι)}
    {blocks : Program} (h : e.Changes edit answer blocks) :
    blocks.length ≤ e.blocks.length ∨
      e.isFull = false ∧ blocks.length = e.blocks.length + 1 := by
  -- what happens in a gap does not show in the number of top-level blocks
  have hgap {gap : Gap} {b : Block} (hblocks : e.blocks = gap.fill b) (c : Block) :
      (gap.fill c).length ≤ e.blocks.length := by
    rw [hblocks]
    exact Nat.le_of_eq (gap.length_fill c b)
  cases h with
  | added hoffers hroom => exact Or.inr ⟨hroom, List.length_append⟩
  | removed hedit hblocks hmeans =>
    left
    rw [hblocks, List.length_append, List.length_append, List.length_cons]
    omega
  | cleared => exact Or.inl (Nat.zero_le _)
  | childAdded hoffers hblocks hreached hbody => exact Or.inl (hgap hblocks _)
  | childRemoved hblocks hreached hbody hn hmeans => exact Or.inl (hgap hblocks _)
  | configured hblocks hreached htakes => exact Or.inl (hgap hblocks _)
  | found hget => exact Or.inl (Nat.le_refl _)
  | built hkept => exact Or.inl (Nat.le_refl _)

/-- An editor is full if it has as many blocks as its budget, or more. -/
theorem isFull_iff {n : Int} (h : e.rules.limit = some (.int n)) :
    e.isFull = true ↔ n ≤ e.blocks.length := by
  simp [isFull, h]

theorem not_isFull (h : e.rules.limit = none) : e.isFull = false := by
  simp [isFull, h]

/-- An editor is full exactly if nothing remains of its budget. -/
theorem isFull_iff_remaining {limit : Option Int} (h : e.rules.limit = limit.map .int) :
    e.isFull = true ↔ e.remaining = some 0 := by
  cases limit with
  | none =>
    rw [not_isFull h, remaining, h]
    simp
  | some n =>
    have hremaining : e.remaining =
        some (if 0 < n - e.blocks.length then .int (n - e.blocks.length) else .int 0) := by
      rw [remaining, h, Option.map_some, Option.map_some]
      show some (if (Number.int 0).below (.int (n - e.blocks.length)) then _ else _) = _
      rw [Number.below_int]
      simp only [decide_eq_true_eq]
      rfl
    rw [isFull_iff h, hremaining]
    show _ ↔ _ = some (Number.int 0)
    split
    · simp only [Option.some.injEq, Number.int.injEq]
      omega
    · exact iff_of_true (by omega) rfl

/-- What an editor tells when its budget is used up: the budget, unless that is too long to be
written. -/
def budgetFault (n : Int) : EditFault ι :=
  if Numeral.fits n then .overBudget (.int n) else .unwritable

/-- Adding a block that the palette has fails exactly if the editor is full. -/
theorem isFull_iff_overBudget {limit : Option Int} (h : e.rules.limit = limit.map .int) {s : Supply}
    (hoffers : e.rules.Offers s) :
    e.isFull = true ↔ ∃ n, limit = some n ∧
      (e.perform (.add s : Edit ι)).1 = .error (budgetFault n) := by
  have haccept : (e.accept s : Except (EditFault ι) Block) = .ok s.toBlock :=
    accept_eq_ok_iff.2 ⟨hoffers, rfl⟩
  have htold (n : Int) : (EditFault.told (.overBudget (.int n)) : EditFault ι) = budgetFault n :=
    rfl
  have hanswer : (e.perform (.add s : Edit ι)).1 = (e.add s).1.map .index := rfl
  rw [hanswer, add, haccept]
  dsimp only
  cases hfull : e.isFull with
  | false => simp [Except.map]
  | true =>
    cases limit with
    | none =>
      rw [not_isFull h] at hfull
      cases hfull
    | some n => simp [h, Except.map, htold]

/-! ## Edits -/

/-- The budget is an integer and has not been exceeded. With a negative one there are no blocks. -/
structure WithinBudget (n : Int) (e : Editor) : Prop where
  limit : e.rules.limit = some (.int n)
  length_le : (e.blocks.length : Int) ≤ max 0 n

/-- No edit leads beyond the budget. -/
theorem WithinBudget.perform {n : Int} (h : e.WithinBudget n) (edit : Edit ι) :
    (e.perform edit).2.WithinBudget n := by
  apply perform_keeps (P := WithinBudget n) h
  intro answer blocks hchanges
  refine ⟨h.limit, ?_⟩
  have hle := h.length_le
  show (blocks.length : Int) ≤ max 0 n
  rcases hchanges.length_cases with hshorter | ⟨hroom, hlonger⟩
  · omega
  · -- there was room for one more block
    have hbelow : ¬ n ≤ e.blocks.length := by
      rw [← isFull_iff h.limit, hroom]
      exact Bool.false_ne_true
    omega

/-- Nor does any number of edits. -/
theorem withinBudget_after (n : Int) (palette : Option (List Kind)) (edits : List (Edit ι)) :
    ((ofLimits (some n) palette).after edits).WithinBudget n := by
  apply after_induction (P := WithinBudget n)
  · intro e edit h
    exact h.perform edit
  · refine ⟨rfl, ?_⟩
    show (0 : Int) ≤ max 0 n
    omega

/-- An edit that is refused leaves the editor as it is, unless a child was added by a route that is
a list. -/
theorem perform_of_error {edit : Edit ι} {f : EditFault ι} (h : (e.perform edit).1 = .error f) :
    (e.perform edit).2 = e ∨ f = .notATuple ∧ ∃ route s, edit = .addChild route s .list := by
  rcases e.perform_cases edit with ⟨f', hsame⟩ | ⟨answer, blocks, hdone, hchanges⟩
  · exact Or.inl (by rw [hsame])
  · have hanswer : answer = .error f := by rwa [hdone] at h
    rw [hanswer] at hchanges
    exact Or.inr hchanges.of_error

/-- A route that is a list leads to the same change as one that is a tuple; only the route of the
child is not answered. -/
theorem perform_list (route : Route ι) (s : Supply) :
    (e.perform (.addChild route s .list)).2 = (e.perform (.addChild route s .tuple)).2 := by
  show (e.addChild route s .list).2 = (e.addChild route s .tuple).2
  unfold addChild
  cases (e.accept s : Except (EditFault ι) Block) with
  | error f => rfl
  | ok b =>
    dsimp only
    cases e.get route with
    | error f => rfl
    | ok parent =>
      dsimp only
      cases parent.body? with
      | none => rfl
      | some body =>
        dsimp only
        split <;> rfl

/-- Whatever has been done to an editor, it is within its budget, and it is full exactly if nothing
remains of the budget, which is exactly if adding a block that the palette has is refused with the
fault of the budget. An edit that is refused leaves the editor as it is, unless a child was added by
a route that is a list: then the child is there, as if the route had been a tuple. Looking at a
block and handing out the program change nothing. -/
theorem edits_atomic_within_budget (limit : Option Int) (palette : Option (List Kind))
    (edits : List (Edit ι)) :
    let e := (ofLimits limit palette).after edits
    (∀ n, limit = some n → (e.blocks.length : Int) ≤ max 0 n) ∧
      (e.isFull = true ↔ e.remaining = some 0) ∧
      (∀ s, (ofLimits limit palette).rules.Offers s →
        (e.isFull = true ↔ ∃ n, limit = some n ∧
          (e.perform (.add s : Edit ι)).1 = .error (budgetFault n))) ∧
      (∀ (edit : Edit ι) f, (e.perform edit).1 = .error f →
        (e.perform edit).2 = e ∨
          f = .notATuple ∧ ∃ route s, edit = .addChild route s .list ∧
            (e.perform edit).2 = (e.perform (.addChild route s .tuple)).2) ∧
      (∀ route : Route ι, (e.perform (.get route)).2 = e) ∧
      (e.perform (.build : Edit ι)).2 = e := by
  intro e
  have hrules : e.rules = (ofLimits limit palette).rules := rules_after _ edits
  have hlimit : e.rules.limit = limit.map .int := by
    rw [hrules]
    rfl
  refine ⟨?_, ?_, ?_, ?_, ?_, ?_⟩
  · rintro n rfl
    exact (withinBudget_after n palette edits).length_le
  · exact isFull_iff_remaining hlimit
  · intro s hoffers
    rw [← hrules] at hoffers
    exact isFull_iff_overBudget hlimit hoffers
  · intro edit f hrefused
    rcases perform_of_error hrefused with hsame | ⟨hfault, route, s, rfl⟩
    · exact Or.inl hsame
    · exact Or.inr ⟨hfault, route, s, rfl, perform_list route s⟩
  · intro route
    rfl
  · rfl

/-- Edits of which most are refused: the palette lacks a kind, the budget is used up, or a route
leads nowhere. -/
def fussyEdits : List Edit := [
  .add (.kind .wait),
  .add (.kind .loop),
  .addChild [-1] (.kind .up),
  .addChild [0, 0] (.kind .up),
  .addChild [0] (.block (.foreign (.int 7))),
  .add (.kind .up),
  .configure [0, -1] [.count (.int 3)],
  .configure [0, -1] [.direction (.other .null)],
  .removeChild [0, 1],
  .remove 4]

/-- After those edits an editor for one block is full, adding a move is refused, and so is handing
out the program, since the move in the loop has lost its direction; the editor is as it was. -/
theorem edits_atomic_within_budget_fussy :
    let e := (ofLimits (some 1) (some [.loop, .up])).after fussyEdits
    e.blocks = [.loop (.int 2) [.move (.other .null)]] ∧ (e.blocks.length : Int) ≤ max 0 1 ∧
      e.isFull = true ∧ e.remaining = some 0 ∧
      (∃ n, some 1 = some n ∧ (e.perform (.add (.kind .up) : Edit)).1 =
        .error (budgetFault n)) ∧
      (e.perform (.build : Edit)).1 = .error (.rejected [.node [0, 0] (.unknownDirection .null)]) ∧
      (e.perform (.build : Edit)).2 = e := by
  intro e
  have hblocks : e.blocks = [.loop (.int 2) [.move (.other .null)]] := rfl
  have hfull : e.isFull = true := rfl
  have hrefused : (e.perform (.build : Edit)).1 =
      .error (.rejected [.node [0, 0] (.unknownDirection .null)]) := rfl
  rcases edits_atomic_within_budget (some 1) (some [.loop, .up]) fussyEdits with
    ⟨hlength, hremaining, hadd, hatomic, -, -⟩
  have hoffers : (ofLimits (some 1) (some [.loop, .up])).rules.Offers (.kind .up) := by
    rintro kinds ⟨⟩
    exact ⟨.up, by decide, rfl⟩
  refine ⟨hblocks, hlength 1 rfl, hfull, hremaining.1 hfull, (hadd _ hoffers).1 hfull, hrefused, ?_⟩
  rcases hatomic _ _ hrefused with hsame | ⟨hfault, -⟩
  · exact hsame
  · cases hfault

/-- An editor with one loop. -/
def oneLoop : Editor := { blocks := [.loop (.int 2) []] }

/-- Two ways in which an edit is not what one would expect. A child that is added by a list is
refused, and yet it is in the loop. And where the budget is a negative number too long to be
written, the fault of an editor that is full does not tell the budget. -/
theorem refused_child_stays :
    (oneLoop.perform (.addChild [0] (.kind .up) .list : Edit)).1 = .error .notATuple ∧
      (oneLoop.perform (.addChild [0] (.kind .up) .list : Edit)).2.blocks =
        [.loop (.int 2) [.move (.known .up)]] ∧
      (ofLimits (some (-Numeral.tooBig)) none).isFull = true ∧
      ((ofLimits (some (-Numeral.tooBig)) none).perform (.add (.kind .up) : Edit)).1 =
        .error .unwritable := by
  have hpos := Numeral.tooBig_pos
  have hfull : (ofLimits (some (-Numeral.tooBig)) none).isFull = true := by
    refine (isFull_iff rfl).2 ?_
    show -Numeral.tooBig ≤ (0 : Int)
    omega
  have hoffers : (ofLimits (some (-Numeral.tooBig)) none).rules.Offers (.kind .up) := by
    rintro kinds ⟨⟩
  refine ⟨by decide, by decide, hfull, ?_⟩
  have hlimit : (ofLimits (some (-Numeral.tooBig)) none).rules.limit =
      (some (-Numeral.tooBig)).map .int := rfl
  obtain ⟨n, hn, hrefused⟩ := (isFull_iff_overBudget (ι := Int) hlimit hoffers).1 hfull
  rw [← Option.some.inj hn, budgetFault, Numeral.fits_neg, Numeral.fits_tooBig] at hrefused
  exact hrefused

end Editor

end GridRobot
