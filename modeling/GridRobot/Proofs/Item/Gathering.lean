import GridRobot.Item.Tally
import GridRobot.Proofs.Item.Pouch

/-!
# Taking again and again

Items may share cells, so a cell can be visited more than once with success. At each cell the items
that are still free form a queue, in the order of their places, and taking there removes the first
of them (`freePlaces_take`). The queues of other cells stay as they are. So after any visits each
queue has lost as many items in front as there were visits at its cell (`freePlaces_takeAll`), and
nothing else about the visits matters for what is left.

* `take_of_freePlaces_cons`: taking sets the mark at the first free place;
* `answersAt_takeAll`: what the visits at a cell give, in order;
* `marks_eq_of_freePlaces`: the free places of all cells say which items have been taken.
-/

namespace GridRobot

/-- The places of the items at a cell that have not been taken, in ascending order. -/
def freePlaces (c : Cell) (items : List Item) (flags : List Bool) : List Nat :=
  (List.range items.length).filter
    (fun j => items[j]?.any (·.cell = c) && flags[j]? = some false)

/-- The places of the items at a cell that have been taken between two states of the flags, in
ascending order. -/
def newPlaces (c : Cell) (items : List Item) (flags flags' : List Bool) : List Nat :=
  (freePlaces c items flags).filter (fun j => flags'[j]? = some true)

/-- What the visits at one cell have given. -/
def answersAt (c : Cell) (cs : List Cell) (found : List (Option Item)) : List (Option Item) :=
  ((cs.zip found).filter (·.1 = c)).map (·.2)

namespace Pouch

/-- Take at one cell after another: what is found each time, and the pouch at the end. -/
def takeAll : List Cell → Pouch → List (Option Item) × Pouch
  | [], p => ([], p)
  | c :: cs, p =>
    ((p.take c).1 :: (takeAll cs (p.take c).2).1, (takeAll cs (p.take c).2).2)

variable {c d : Cell} {cs : List Cell} {p q : Pouch} {j : Nat} {js : List Nat}

/-! ## Free places -/

theorem item_of_slot {s : Slot} (h : p[j]? = some s) : p.items[j]? = some s.item := by
  rw [items_getElem?, h, Option.map_some]

/-- A free place is that of an item on the cell that is not taken yet. -/
theorem mem_freePlaces_iff : j ∈ freePlaces c p.items p.marks ↔
    ∃ item, p[j]? = some ⟨item, false⟩ ∧ item.cell = c := by
  have hlt : j ∈ List.range p.items.length ↔ j < p.length := by simp [Pouch.items]
  rw [freePlaces, List.mem_filter, hlt, items_getElem?, marks_getElem?]
  cases hj : p[j]? with
  | none => simp
  | some s =>
    obtain ⟨item, taken⟩ := s
    have hbound : j < p.length := (List.getElem?_eq_some_iff.1 hj).1
    cases taken <;> simp [hbound]

/-- Free places are in the order of the items. -/
theorem freePlaces_pairwise (c : Cell) (items : List Item) (flags : List Bool) :
    (freePlaces c items flags).Pairwise (· < ·) :=
  List.pairwise_lt_range.filter _

theorem freePlaces_nodup (c : Cell) (items : List Item) (flags : List Bool) :
    (freePlaces c items flags).Nodup :=
  List.nodup_range.filter _

/-- The free places of a longer pouch are those behind its first slot, and the first one if it is
free. -/
theorem freePlaces_cons (c : Cell) (s : Slot) (p : Pouch) :
    freePlaces c (Pouch.items (s :: p)) (marks (s :: p)) =
      (if freeAt c s then [0] else []) ++ (freePlaces c p.items p.marks).map (· + 1) := by
  have hfirst : (s.item.cell = c ∧ s.taken = false) ↔ freeAt c s = true := by
    simp [freeAt]
  have hitems : Pouch.items (s :: p) = s.item :: p.items := rfl
  have hmarks : marks (s :: p) = s.taken :: p.marks := rfl
  rw [freePlaces, hitems, hmarks, List.length_cons, List.range_succ_eq_map, List.filter_cons,
    List.filter_map]
  by_cases hfree : freeAt c s <;> simp [hfirst, hfree, freePlaces, Function.comp_def]

/-! ## One visit -/

/-- Where no place is free, nothing is taken. -/
theorem take_of_freePlaces_nil (h : freePlaces c p.items p.marks = []) : p.take c = (none, p) := by
  rcases take_cases c p with hnone | ⟨j, item, hj, hcell, -⟩
  · exact hnone
  · have hmem : j ∈ freePlaces c p.items p.marks := mem_freePlaces_iff.2 ⟨item, hj, hcell⟩
    rw [h] at hmem
    cases hmem

/-- Taking gives the item at the first free place and sets its mark. -/
theorem take_of_freePlaces_cons (h : freePlaces c p.items p.marks = j :: js) :
    ∃ item, p[j]? = some ⟨item, false⟩ ∧ item.cell = c ∧
      p.take c = (some item, p.set j ⟨item, true⟩) := by
  induction p generalizing j js with
  | nil => cases h
  | cons s rest ih =>
    rw [freePlaces_cons] at h
    by_cases hfree : freeAt c s
    · rw [if_pos hfree] at h
      cases h
      obtain ⟨item, taken⟩ := s
      have hslot : item.cell = c ∧ taken = false := by simpa [freeAt] using hfree
      obtain ⟨hcell, rfl⟩ := hslot
      exact ⟨item, rfl, hcell, by simp [take, hfree]⟩
    · -- the first free place is one of those behind
      rw [if_neg hfree, List.nil_append] at h
      rcases List.map_eq_cons_iff.1 h with ⟨k, ks, hks, rfl, -⟩
      rcases ih hks with ⟨item, hk, hcell, htake⟩
      exact ⟨item, by simpa using hk, hcell, by simp [take, hfree, htake]⟩

/-- A place whose flag is set is free no more. -/
theorem freePlaces_set (d : Cell) (items : List Item) (flags : List Bool) (j : Nat) :
    freePlaces d items (flags.set j true) = (freePlaces d items flags).filter (· ≠ j) := by
  unfold freePlaces
  rw [List.filter_filter]
  apply List.filter_congr
  intro k _
  by_cases hk : k = j
  · subst hk
    simp [List.getElem?_set]
  · simp [hk, Ne.symm hk]

/-- Taking removes the first free place of its cell and no other one. -/
theorem freePlaces_take (c d : Cell) (p : Pouch) :
    freePlaces d p.items (marks (p.take c).2) =
      if c = d then (freePlaces d p.items p.marks).tail else freePlaces d p.items p.marks := by
  cases hfree : freePlaces c p.items p.marks with
  | nil =>
    rw [take_of_freePlaces_nil hfree]
    split
    · next h => rw [← h, hfree, List.tail_nil]
    · rfl
  | cons j js =>
    rcases take_of_freePlaces_cons hfree with ⟨item, hj, hcell, htake⟩
    have hnodup := freePlaces_nodup c p.items p.marks
    rw [htake, marks_set, freePlaces_set]
    split
    · next h =>
      -- the place is the first one, and it does not come again
      subst h
      rw [hfree, List.nodup_cons] at hnodup
      rw [hfree, List.tail_cons, List.filter_cons_of_neg (by simp), List.filter_eq_self]
      intro k hk
      exact decide_eq_true (fun hkj => hnodup.1 (hkj ▸ hk))
    · next h =>
      -- the place is one of another cell
      rw [List.filter_eq_self]
      intro k hk
      refine decide_eq_true ?_
      rintro rfl
      rcases mem_freePlaces_iff.1 hk with ⟨item', hj', hcell'⟩
      rw [hj] at hj'
      cases hj'
      exact h (hcell.symm.trans hcell')

/-! ## Many visits -/

/-- Taking leaves the items where they are. -/
theorem items_takeAll (cs : List Cell) (p : Pouch) : (takeAll cs p).2.items = p.items := by
  induction cs generalizing p with
  | nil => rfl
  | cons c cs ih => rw [takeAll, ih, items_take]

theorem length_takeAll (cs : List Cell) (p : Pouch) : (takeAll cs p).1.length = cs.length := by
  induction cs generalizing p with
  | nil => rfl
  | cons c cs ih => rw [takeAll, List.length_cons, List.length_cons, ih]

/-- The free places of a cell lose one in front for each visit there. -/
theorem freePlaces_takeAll (cs : List Cell) (d : Cell) (p : Pouch) :
    freePlaces d p.items (takeAll cs p).2.marks =
      (freePlaces d p.items p.marks).drop (cs.count d) := by
  induction cs generalizing p with
  | nil => rfl
  | cons c cs ih =>
    have hrest := ih (p.take c).2
    rw [items_take, freePlaces_take] at hrest
    rw [takeAll, hrest, List.count_cons]
    by_cases h : c = d <;> simp [h]

/-- The visits at a cell give the items at its free places one after another, and nothing when these
are used up. -/
theorem answersAt_takeAll (cs : List Cell) (d : Cell) (p : Pouch) :
    answersAt d cs (takeAll cs p).1 =
      ((freePlaces d p.items p.marks).take (cs.count d)).map (p.items[·]?) ++
        List.replicate (cs.count d - (freePlaces d p.items p.marks).length) none := by
  induction cs generalizing p with
  | nil => simp [answersAt]
  | cons c cs ih =>
    have hrest := ih (p.take c).2
    rw [items_take, freePlaces_take] at hrest
    -- a visit at the cell adds its answer in front; any other one changes neither side
    by_cases h : c = d
    · subst h
      have hanswers : answersAt c (c :: cs) (takeAll (c :: cs) p).1 =
          (p.take c).1 :: answersAt c cs (takeAll cs (p.take c).2).1 := by
        simp [answersAt, takeAll]
      rw [hanswers, hrest, if_pos rfl, List.count_cons_self]
      cases hfree : freePlaces c p.items p.marks with
      | nil => simp [take_of_freePlaces_nil hfree, List.replicate_succ]
      | cons j js =>
        rcases take_of_freePlaces_cons hfree with ⟨item, hj, -, htake⟩
        simp [htake, item_of_slot hj]
    · have hanswers : answersAt d (c :: cs) (takeAll (c :: cs) p).1 =
          answersAt d cs (takeAll cs (p.take c).2).1 := by
        simp [answersAt, takeAll, h]
      rw [hanswers, hrest, if_neg h, List.count_cons_of_ne h]

/-! ## Marks from free places -/

/-- The mark of an item says whether its place is free. -/
theorem mark_eq {item : Item} (hj : p.items[j]? = some item) :
    p.marks[j]? = some (decide (j ∉ freePlaces item.cell p.items p.marks)) := by
  rw [items_getElem?, Option.map_eq_some_iff] at hj
  rcases hj with ⟨⟨_, taken⟩, hj, rfl⟩
  cases taken <;> simp [marks_getElem?, mem_freePlaces_iff, hj]

/-- The free places of all cells say which items have been taken. -/
theorem marks_eq_of_freePlaces (hitems : p.items = q.items)
    (hfree : ∀ d, freePlaces d p.items p.marks = freePlaces d q.items q.marks) :
    p.marks = q.marks := by
  -- each mark is found in the free places of the cell of its own item
  apply List.ext_getElem?
  intro j
  cases hj : p.items[j]? with
  | none =>
    have hnone : p[j]? = none := by simpa [items_getElem?] using hj
    have hnone' : q[j]? = none := by simpa [hitems, items_getElem?] using hj
    rw [marks_getElem?, marks_getElem?, hnone, hnone']
  | some item => rw [mark_eq hj, mark_eq (hitems ▸ hj), hfree]

/-- Distinct places without those from some point on are those in front of it. -/
theorem filter_notMem_drop {places : List Nat} (hnodup : places.Nodup) (n : Nat) :
    places.filter (fun j => j ∉ places.drop n) = places.take n := by
  have hsplit := hnodup
  rw [← List.take_append_drop n places, List.nodup_append] at hsplit
  have hfront : (places.take n).filter (fun j => j ∉ places.drop n) = places.take n := by
    rw [List.filter_eq_self]
    intro j hj
    exact decide_eq_true (fun hback => hsplit.2.2 j hj j hback rfl)
  have hback : (places.drop n).filter (fun j => j ∉ places.drop n) = [] := by
    rw [List.filter_eq_nil_iff]
    intro j hj
    simp [hj]
  calc places.filter (fun j => j ∉ places.drop n)
      = (places.take n ++ places.drop n).filter (fun j => j ∉ places.drop n) := by
        rw [List.take_append_drop]
    _ = places.take n := by rw [List.filter_append, hfront, hback, List.append_nil]

/-- After some visits the place of an item is free if it was and the visits did not get that far. -/
theorem mark_takeAll {item : Item} (hj : p.items[j]? = some item) (cs : List Cell) :
    (takeAll cs p).2.marks[j]? = some
      (decide (j ∉ (freePlaces item.cell p.items p.marks).drop (cs.count item.cell))) := by
  rw [← items_takeAll cs p] at hj
  rw [mark_eq hj, items_takeAll, freePlaces_takeAll]

/-- The places of a cell that have been taken are the first free ones, one for each visit. -/
theorem newPlaces_takeAll (cs : List Cell) (c : Cell) (p : Pouch) :
    newPlaces c p.items p.marks (takeAll cs p).2.marks =
      (freePlaces c p.items p.marks).take (cs.count c) := by
  rw [← filter_notMem_drop (freePlaces_nodup c p.items p.marks), newPlaces]
  apply List.filter_congr
  intro j hj
  rcases mem_freePlaces_iff.1 hj with ⟨item, hslot, rfl⟩
  simp [mark_takeAll (item_of_slot hslot)]

/-- Only how often each cell is visited matters for the marks. -/
theorem marks_takeAll_of_perm {cs' : List Cell} (h : cs'.Perm cs) (p : Pouch) :
    (takeAll cs' p).2.marks = (takeAll cs p).2.marks := by
  apply marks_eq_of_freePlaces
  · rw [items_takeAll, items_takeAll]
  · intro d
    rw [items_takeAll, items_takeAll, freePlaces_takeAll, freePlaces_takeAll, h.count_eq]

/-- What has been taken stays taken. -/
theorem mark_takeAll_of_taken (h : p.marks[j]? = some true) (cs : List Cell) :
    (takeAll cs p).2.marks[j]? = some true := by
  have hslot := h
  rw [marks_getElem?, Option.map_eq_some_iff] at hslot
  rcases hslot with ⟨s, hs, -⟩
  rw [mark_eq (item_of_slot hs), Option.some.injEq, decide_eq_true_eq] at h
  rw [mark_takeAll (item_of_slot hs), Option.some.injEq, decide_eq_true_eq]
  intro hj
  exact h (List.mem_of_mem_drop hj)

/-- Every item is taken or remains. -/
theorem takenCount_add_remaining (p : Pouch) :
    p.takenCount + p.remaining.length = p.items.length := by
  rw [takenCount, remaining, items, List.length_map, List.length_map,
    ← List.countP_eq_length_filter, List.length_eq_countP_add_countP (·.taken)]
  simp

/-- Items and flags of the same number make a pouch. -/
theorem exists_pouch {items : List Item} {flags : List Bool} (h : flags.length = items.length) :
    ∃ p : Pouch, p.items = items ∧ p.marks = flags := by
  refine ⟨(items.zip flags).map (fun s => ⟨s.1, s.2⟩), ?_, ?_⟩
  · rw [Pouch.items, List.map_map]
    exact List.map_fst_zip (Nat.le_of_eq h.symm)
  · rw [marks, List.map_map]
    exact List.map_snd_zip (Nat.le_of_eq h)

end Pouch

namespace Tally

/-- Take at one cell after another: what is found each time, and the tally at the end. -/
def takeAll : List Cell → Tally → Except MarkFault (List (Option Item) × Tally)
  | [], t => .ok ([], t)
  | c :: cs, t =>
    (t.take c).bind (fun r => (takeAll cs r.2).map (fun rest => (r.1 :: rest.1, rest.2)))

/-- The tally of a pouch is taken from as the pouch is. -/
theorem takeAll_ofPouch (cs : List Cell) (p : Pouch) :
    takeAll cs (ofPouch p) = .ok ((p.takeAll cs).1, ofPouch (p.takeAll cs).2) := by
  induction cs generalizing p with
  | nil => rfl
  | cons c cs ih =>
    rw [takeAll, take_ofPouch, Except.bind, ih]
    rfl

theorem takenCount_ofPouch (p : Pouch) : (ofPouch p).takenCount = .ok (.int p.takenCount) := by
  have h := addMarks_pouch p 0
  rwa [Int.zero_add] at h

theorem remaining_ofPouch (p : Pouch) : (ofPouch p).remaining = p.remaining := by
  induction p with
  | nil => rfl
  | cons s p ih =>
    cases htaken : s.taken <;>
      simp_all [remaining, ofPouch, Pouch.items, Pouch.marks, Pouch.remaining, Value.isTruthy]

/-- Taking loses and doubles nothing, and the order of the visits does not matter. At each cell as
many items are taken as there are visits or free items, whichever are fewer. These items are the
first ones, and the visits there give them from front to back, each once, and nothing after that.
Where no visit was the flags stay, as do those that are set. Every item is taken or remains, and the
same visits in any other order lead to the same flags. -/
theorem takeAll_exact (items : List Item) (flags : List Bool)
    (hlength : flags.length = items.length) (cs : List Cell) :
    ∃ (found : List (Option Item)) (flags' : List Bool),
      takeAll cs ⟨items, flags.map .bool⟩ = .ok (found, ⟨items, flags'.map .bool⟩) ∧
      found.length = cs.length ∧ flags'.length = items.length ∧
      (∀ c : Cell,
        newPlaces c items flags flags' = (freePlaces c items flags).take (cs.count c) ∧
        (newPlaces c items flags flags').Pairwise (· < ·) ∧
        (newPlaces c items flags flags').length =
          min (cs.count c) (freePlaces c items flags).length ∧
        answersAt c cs found = (newPlaces c items flags flags').map (items[·]?) ++
          List.replicate (cs.count c - (newPlaces c items flags flags').length) none) ∧
      (∀ (j : Nat) (item : Item), items[j]? = some item → item.cell ∉ cs →
        flags'[j]? = flags[j]?) ∧
      (∀ j : Nat, flags[j]? = some true → flags'[j]? = some true) ∧
      (∃ n : Nat, takenCount (⟨items, flags'.map .bool⟩ : Tally) = .ok (.int n) ∧
        n + (remaining (⟨items, flags'.map .bool⟩ : Tally)).length = items.length) ∧
      ∀ cs' : List Cell, cs'.Perm cs → ∃ found' : List (Option Item),
        takeAll cs' ⟨items, flags.map .bool⟩ = .ok (found', ⟨items, flags'.map .bool⟩) := by
  rcases Pouch.exists_pouch hlength with ⟨p, rfl, rfl⟩
  have hitems := Pouch.items_takeAll cs p
  -- with flags that are all Booleans the tally behaves as a pouch
  have hrun (cs' : List Cell) : takeAll cs' (⟨p.items, p.marks.map .bool⟩ : Tally) =
      .ok ((p.takeAll cs').1, ⟨p.items, (p.takeAll cs').2.marks.map .bool⟩) := by
    have h := takeAll_ofPouch cs' p
    rw [ofPouch, ofPouch, Pouch.items_takeAll] at h
    exact h
  refine ⟨(p.takeAll cs).1, (p.takeAll cs).2.marks, hrun cs, Pouch.length_takeAll cs p, ?_, ?_, ?_,
    ?_, ?_, ?_⟩
  · rw [← hitems, Pouch.marks, Pouch.items, List.length_map, List.length_map]
  · intro c
    have hlength : (newPlaces c p.items p.marks (p.takeAll cs).2.marks).length =
        min (cs.count c) (freePlaces c p.items p.marks).length := by
      rw [Pouch.newPlaces_takeAll, List.length_take]
    refine ⟨Pouch.newPlaces_takeAll cs c p, ?_, hlength, ?_⟩
    · exact (Pouch.freePlaces_pairwise c _ _).filter _
    · rw [Pouch.answersAt_takeAll, hlength, Pouch.newPlaces_takeAll]
      -- as many askers go away with nothing as came after the last free item
      congr 2
      omega
  · intro j item hj hcell
    rw [Pouch.mark_takeAll hj, Pouch.mark_eq hj, List.count_eq_zero.2 hcell, List.drop_zero]
  · intro j hj
    exact Pouch.mark_takeAll_of_taken hj cs
  · refine ⟨(p.takeAll cs).2.takenCount, ?_, ?_⟩
    · rw [← hitems]
      exact takenCount_ofPouch _
    · rw [← hitems, ← Pouch.takenCount_add_remaining, ← remaining_ofPouch]
      rfl
  · intro cs' hperm
    refine ⟨(p.takeAll cs').1, ?_⟩
    rw [hrun cs', Pouch.marks_takeAll_of_perm hperm]

/-- Three items on one cell, the first of them taken, and one on another cell. -/
def sharedCell : List Item :=
  [⟨⟨0, 0⟩, .coin⟩, ⟨⟨1, 0⟩, .gem⟩, ⟨⟨0, 0⟩, .key⟩, ⟨⟨0, 0⟩, .gem⟩]

/-- Three visits at the shared cell give the two items that are free there, and then nothing. In the
opposite order the visits end with the same flags. -/
theorem takeAll_exact_sharedCell :
    let flags := [true, false, false, false]
    let visits : List Cell := [⟨0, 0⟩, ⟨0, 1⟩, ⟨0, 0⟩, ⟨0, 0⟩]
    flags.length = sharedCell.length ∧ visits.reverse.Perm visits ∧
    ∃ (found found' : List (Option Item)) (flags' : List Bool),
      takeAll visits ⟨sharedCell, flags.map .bool⟩ = .ok (found, ⟨sharedCell, flags'.map .bool⟩) ∧
      newPlaces ⟨0, 0⟩ sharedCell flags flags' = [2, 3] ∧
      answersAt ⟨0, 0⟩ visits found = [some ⟨⟨0, 0⟩, .key⟩, some ⟨⟨0, 0⟩, .gem⟩, none] ∧
      flags'[0]? = some true ∧ flags'[1]? = some false ∧
      takeAll visits.reverse ⟨sharedCell, flags.map .bool⟩ =
        .ok (found', ⟨sharedCell, flags'.map .bool⟩) := by
  intro flags visits
  rcases takeAll_exact sharedCell flags rfl visits with
    ⟨found, flags', hrun, -, -, hplaces, hother, hset, -, hperm⟩
  rcases hplaces ⟨0, 0⟩ with ⟨hnew, -, -, hanswers⟩
  have hnew' : newPlaces ⟨0, 0⟩ sharedCell flags flags' = [2, 3] := hnew.trans (by decide)
  rw [hnew'] at hanswers
  rcases hperm visits.reverse visits.reverse_perm with ⟨found', hrun'⟩
  refine ⟨rfl, visits.reverse_perm, found, found', flags', hrun, hnew', ?_, hset 0 rfl, ?_, hrun'⟩
  · exact hanswers.trans (by decide)
  · exact hother 1 _ rfl (by decide)

end Tally

end GridRobot
