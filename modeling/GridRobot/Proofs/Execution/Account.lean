import GridRobot.Proofs.Execution.Solvable
import GridRobot.Proofs.Execution.Trace
import Mathlib.Data.List.Nodup

/-!
# What the trace tells about the items

Marks are kept by places, and taking looks for the first free place at a cell. The trace knows
nothing of places, only of items. In a sound world the items are distinct, so both keep the same
account: the items of the collected events are those that have been taken, each of them once. So a
verdict can be read off the trace and the last cell.

* `Accounted.perform`: every action keeps the trace and the marks in agreement;
* `Pouch.remaining_eq_filter`: what is free is what the trace does not name;
* `Goal.success_collectAll_iff`: when a verdict on items is a success.
-/

namespace GridRobot

/-! ## Items that have been taken -/

namespace Pouch

variable {p : Pouch}

/-- The items that have been taken. -/
def takenItems (p : Pouch) : List Item := (p.filter (·.taken)).map (·.item)

/-- Nothing has been taken from a new pouch. -/
theorem takenItems_ofItems (items : List Item) : takenItems (ofItems items) = [] := by
  simp [takenItems, ofItems]

theorem takenItems_sublist (p : Pouch) : (takenItems p).Sublist p.items :=
  List.filter_sublist.map _

/-- As many items have been taken as are counted. -/
theorem length_takenItems (p : Pouch) : (takenItems p).length = p.takenCount := by
  rw [takenItems, List.length_map, takenCount, List.countP_eq_length_filter]

/-- Setting the mark of a free item adds this item to those that have been taken. -/
theorem takenItems_set_perm {j : Nat} {item : Item} (hj : p[j]? = some ⟨item, false⟩) :
    (takenItems (p.set j ⟨item, true⟩)).Perm (item :: takenItems p) := by
  induction p generalizing j with
  | nil => cases hj
  | cons s rest ih =>
    cases j with
    | zero =>
      cases hj
      exact .refl _
    | succ j =>
      have hrest := ih (j := j) hj
      obtain ⟨other, taken⟩ := s
      cases taken with
      | false => exact hrest
      | true => exact (hrest.cons other).trans (.swap item other _)

/-- If the items are distinct, an item tells by itself whether it has been taken. -/
theorem item_mem_takenItems_iff (hnd : p.items.Nodup) {s : Slot} (hs : s ∈ p) :
    s.item ∈ takenItems p ↔ s.taken = true := by
  constructor
  · intro hmem
    obtain ⟨t, ht, heq⟩ := List.mem_map.1 hmem
    obtain ⟨ht, htaken⟩ := List.mem_filter.1 ht
    have hsame : t = s := List.inj_on_of_nodup_map hnd ht hs heq
    rwa [← hsame]
  · intro htaken
    exact List.mem_map_of_mem (List.mem_filter.2 ⟨hs, htaken⟩)

/-- If the items are distinct, the free ones are those that have not been taken. -/
theorem remaining_eq_filter (hnd : p.items.Nodup) :
    p.remaining = p.items.filter (fun i => i ∉ takenItems p) := by
  rw [remaining, Pouch.items, List.filter_map]
  congr 1
  apply List.filter_congr
  intro s hs
  have hiff := item_mem_takenItems_iff hnd hs
  cases htaken : s.taken with
  | true => simpa using hiff.2 htaken
  | false =>
    rw [htaken] at hiff
    simpa using hiff

/-- All is taken if nothing remains. -/
theorem allTaken_iff_remaining : p.allTaken ↔ p.remaining = [] := by
  simp [allTaken, remaining, List.filter_eq_nil_iff]

end Pouch

/-! ## Verdicts of the two goals -/

namespace Goal

variable {c : Cell} {p : Pouch} {w : World}

/-- To collect all means that nothing remains and the robot stands on the goal. -/
theorem success_collectAll_iff :
    (Goal.collectAll.judge c p w).success = true ↔ p.remaining = [] ∧ c = w.goal := by
  rw [success_judge, collectAll_holds_iff, Pouch.allTaken_iff_remaining]

/-- Where everything is to be collected, a failure tells what is left, and only if there is nothing
left, where the robot ended. -/
theorem judge_collectAll_of_failed (h : (Goal.collectAll.judge c p w).success = false) :
    (p.remaining ≠ [] →
        Goal.collectAll.judge c p w = .failed (.missingItems p.remaining p.length)) ∧
      (p.remaining = [] →
        Goal.collectAll.judge c p w = .failed (.wrongCell c w.goal) ∧ c ≠ w.goal) := by
  have hholds : ¬ Goal.collectAll.holds c p w := by
    rw [← success_judge, h]
    exact Bool.false_ne_true
  constructor
  · intro hleft
    rw [judge, if_neg hholds]
    simp [hleft, Goal.collectAll]
  · intro hnone
    constructor
    · rw [judge, if_neg hholds]
      simp [hnone]
    · intro hc
      rw [success_collectAll_iff.2 ⟨hnone, hc⟩] at h
      cases h

/-- Where only the goal is to be reached, nobody asks for items: who fails is not on the goal. -/
theorem judge_reach_of_failed (h : (Goal.reach.judge c p w).success = false) :
    Goal.reach.judge c p w = .failed (.wrongCell c w.goal) ∧ c ≠ w.goal := by
  have hc : c ≠ w.goal := by
    rintro rfl
    rw [success_judge] at h
    simp [Goal.reach] at h
  exact ⟨by simp [judge, Goal.reach, hc], hc⟩

end Goal

/-! ## The account of a trace -/

/-- The items of the collected events, in the order of the events. -/
def collected (es : List Event) : List Item := es.filterMap (fun e => e.deed.item?)

theorem collected_append (es fs : List Event) :
    collected (es ++ fs) = collected es ++ collected fs :=
  List.filterMap_append

/-- The collected events name what has been taken. -/
structure Accounted (w : World) (s : State) : Prop where
  items : s.pouch.items = w.items
  named : (collected s.trace).Perm s.pouch.takenItems

namespace Accounted

variable {w : World} {s : State}

/-- The account is right at the start. -/
theorem init (w : World) : Accounted w (State.initial w) where
  items := Pouch.items_ofItems w.items
  named := by
    show List.Perm [] (Pouch.takenItems (Pouch.ofItems w.items))
    rw [Pouch.takenItems_ofItems]

/-- An event of another kind may be added, wherever the robot stands then. -/
theorem emit (h : Accounted w s) (c : Cell) (path : Path) {deed : Deed}
    (hdeed : deed.item? = none) : Accounted w (({ s with position := c }).emit path deed) where
  items := h.items
  named := by
    have hnone : collected
        [⟨s.steps, deed, c, s.pouch.marks, path⟩] = [] := by
      simp [collected, hdeed]
    rw [State.trace_emit, collected_append]
    show (collected s.trace ++ collected [_]).Perm s.pouch.takenItems
    rw [hnone, List.append_nil]
    exact h.named

/-- Every action keeps the account. -/
theorem perform (h : Accounted w s) (path : Path) (a : Action) :
    Accounted w (a.perform w path s) := by
  cases a with
  | move d =>
    rw [Action.perform]
    split
    · exact h.emit _ path rfl
    · exact h.emit s.position path rfl
  | collect =>
    have hitems := Pouch.items_take s.position s.pouch
    rw [Action.perform]
    rcases Pouch.take_cases s.position s.pouch with hnone | ⟨j, item, hj, -, htake⟩
    · rw [hnone]
      exact ⟨h.items, by rw [State.trace_note]; exact h.named⟩
    · rw [htake] at hitems ⊢
      refine ⟨hitems.trans h.items, ?_⟩
      rw [State.trace_emit, collected_append]
      -- the new event comes last, and its item is one more that has been taken
      have hlast : (collected s.trace ++ [item]).Perm (item :: s.pouch.takenItems) :=
        (List.perm_append_singleton item _).trans (h.named.cons item)
      exact hlast.trans (Pouch.takenItems_set_perm hj).symm
  | wait => exact h.emit s.position path rfl
  | breakOut => exact h.emit s.position path rfl

/-- No item is collected twice if none is there twice. -/
theorem nodup_collected (h : Accounted w s) (hw : w.items.Nodup) : (collected s.trace).Nodup := by
  rw [h.named.nodup_iff]
  exact (Pouch.takenItems_sublist s.pouch).nodup (h.items ▸ hw)

/-- Only items of the world are collected. -/
theorem mem_items_of_collected (h : Accounted w s) {i : Item}
    (hi : i ∈ collected s.trace) : i ∈ w.items := by
  rw [← h.items]
  exact (Pouch.takenItems_sublist s.pouch).subset (h.named.mem_iff.1 hi)

/-- What is free is what no collected event names. -/
theorem remaining_eq (h : Accounted w s) (hw : w.items.Nodup) :
    s.pouch.remaining = w.items.filter (fun i => i ∉ collected s.trace) := by
  rw [Pouch.remaining_eq_filter (h.items ▸ hw), h.items]
  apply List.filter_congr
  intro i _
  exact decide_eq_decide.2 (not_congr h.named.mem_iff.symm)

/-- Nothing is free exactly if every item is named by one collected event. -/
theorem remaining_eq_nil_iff (h : Accounted w s) (hw : w.items.Nodup) :
    s.pouch.remaining = [] ↔ ∀ i ∈ w.items, (collected s.trace).count i = 1 := by
  rw [h.remaining_eq hw, List.filter_eq_nil_iff]
  constructor
  · intro hall i hi
    have hmem : i ∈ collected s.trace := by simpa using hall i hi
    exact List.count_eq_one_of_mem (h.nodup_collected hw) hmem
  · intro hall i hi
    have hmem : i ∈ collected s.trace :=
      List.count_pos_iff.1 (by rw [hall i hi]; exact Nat.one_pos)
    simpa using hmem

end Accounted

/-! ## Programs -/

/-- The verdict of a valid program in a world that can be built can be read off its events and the
cell where it ends. Where everything is to be collected, it succeeds exactly if every item is named
by one collected event and the robot ends on the goal. No item is named twice, and the events that
name one are counted. A failure tells the items that no event names, and only if there are none,
that the robot ended on another cell. Where only the goal is to be reached, a failure always tells
that the robot ended on another cell. A genuine program always has a verdict. -/
theorem Program.verdict_from_trace {size : Int} {start goal : Cell} {walls : List Cell}
    {items : List Item} {w : World} (hw : World.build size start goal walls items = .ok w)
    {r : Rules} {p : Program} (hp : (p.check r).valid) :
    (p.Genuine → ∀ g : Goal, ∃ es o, p.run w g = .ok (es, o)) ∧
    (∀ es o, p.run w .collectAll = .ok (es, o) →
      (o.verdict.success = true ↔
        (∀ i ∈ w.items, (collected es).count i = 1) ∧ o.position = w.goal) ∧
      (collected es).Nodup ∧ (∀ i ∈ collected es, i ∈ w.items) ∧
      o.takenCount = (collected es).length ∧
      (o.verdict.success = false →
        let left := w.items.filter (fun i => i ∉ collected es)
        (left ≠ [] → o.verdict = .failed (.missingItems left w.items.length)) ∧
        (left = [] → o.verdict = .failed (.wrongCell o.position w.goal) ∧
          o.position ≠ w.goal))) ∧
    ∀ es o, p.run w .reach = .ok (es, o) →
      (o.verdict.success = false →
        o.verdict = .failed (.wrongCell o.position w.goal) ∧ o.position ≠ w.goal) := by
  have hapart : w.items.Nodup := (World.sound_of_build hw).items_apart.of_map _
  refine ⟨fun hgen g => run_ok_of_genuine hp hgen w g, ?_, ?_⟩
  · intro es o hrun
    obtain ⟨s, stoppedEarly, hs, rfl, rfl⟩ :=
      Program.run_preserves (Accounted.init w) (fun path a s hs => hs.perform path a) hrun
    refine ⟨?_, hs.nodup_collected hapart, fun i hi => hs.mem_items_of_collected hi, ?_, ?_⟩
    · rw [← hs.remaining_eq_nil_iff hapart]
      exact Goal.success_collectAll_iff
    · show s.pouch.marks.countP id = _
      rw [hs.named.length_eq, Pouch.length_takenItems, Pouch.marks, List.countP_map]
      rfl
    · intro hfailed left
      have hleft : s.pouch.remaining = left := hs.remaining_eq hapart
      have htotal : s.pouch.length = w.items.length := by
        rw [← hs.items, Pouch.items, List.length_map]
      rw [← hleft, ← htotal]
      exact Goal.judge_collectAll_of_failed hfailed
  · intro es o hrun hfailed
    obtain ⟨signal, s, -, rfl, rfl⟩ := Program.run_eq_ok_iff.1 hrun
    exact Goal.judge_reach_of_failed hfailed

/-- A tour in rounds: the second round comes by the same cell again. -/
def Program.doubleRound : Program := [
  .loop (.int 2) [.move (.known .right), .collect, .conditional (.known .itemHere) [.collect],
    .move (.known .left)],
  .loop (.int 2) [.move (.known .down)]]

/-- The robot comes by the gem twice and takes it once. The key on its last cell stays, so that the
failure tells the key, although the robot is not on the goal either. -/
theorem Program.verdict_from_trace_doubleRound :
    ∃ w, World.build (3 : Int) ⟨0, 0⟩ ⟨2, 2⟩ [] [⟨⟨1, 0⟩, .gem⟩, ⟨⟨0, 2⟩, .key⟩] = .ok w ∧
      (doubleRound.check {}).valid ∧
      ∃ es o, doubleRound.run w .collectAll = .ok (es, o) ∧
        collected es = [⟨⟨1, 0⟩, .gem⟩] ∧ o.takenCount = 1 ∧
        o.verdict = .failed (.missingItems [⟨⟨0, 2⟩, .key⟩] 2) := by
  have hw : World.build (3 : Int) ⟨0, 0⟩ ⟨2, 2⟩ [] [⟨⟨1, 0⟩, .gem⟩, ⟨⟨0, 2⟩, .key⟩] =
      .ok ⟨3, ⟨0, 0⟩, ⟨2, 2⟩, [], [⟨⟨1, 0⟩, .gem⟩, ⟨⟨0, 2⟩, .key⟩]⟩ :=
    World.build_eq_ok_iff.2 ⟨by decide, by decide⟩
  have hvalid : (doubleRound.check {}).valid := by decide
  obtain ⟨hends, hcollecting, -⟩ := verdict_from_trace hw hvalid
  obtain ⟨es, o, hrun⟩ := hends (by decide) .collectAll
  obtain ⟨hsuccess, -, -, hcount, hfailed⟩ := hcollecting es o hrun
  have hcollected : (doubleRound.run (⟨3, ⟨0, 0⟩, ⟨2, 2⟩, [],
      [⟨⟨1, 0⟩, .gem⟩, ⟨⟨0, 2⟩, .key⟩]⟩ : World) .collectAll).toOption.map
        (fun result => collected result.1) = some [⟨⟨1, 0⟩, .gem⟩] := by decide
  rw [hrun] at hcollected
  have hgem : collected es = [⟨⟨1, 0⟩, .gem⟩] := Option.some.inj hcollected
  rw [hgem] at hsuccess hcount hfailed
  have hfails : o.verdict.success = false := by
    rw [← Bool.not_eq_true, hsuccess]
    rintro ⟨hall, -⟩
    exact absurd (hall ⟨⟨0, 2⟩, .key⟩ (by decide)) (by decide)
  exact ⟨_, hw, hvalid, es, o, hrun, hgem, hcount, (hfailed hfails).1 (by decide)⟩

end GridRobot
