import GridRobot.Proofs.Execution.Errand
import GridRobot.Proofs.World.Flood

/-!
# What can be reached and what can be won

The flood and the runs of programs agree. A program, however it is nested, leads only to cells that
are joined with the start and takes items from no others; and where the goal and all items are
joined with the start, an errand visits the items one after the other and ends on the goal.

* `Attained.perform`: no action leads out of what is joined with the start;
* `exists_tour`: in a solvable world some errand takes everything and ends on the goal;
* `reachable_and_solvable_iff_run`: the cells within reach are those in which moves can
  end, and the solvable worlds are those that some valid program wins.
-/

namespace GridRobot

variable {w : World}

/-! ## Programs do not leave the reach of the start -/

/-- The robot and everything that it has taken are joined with the start. -/
structure Attained (w : World) (l : Place) : Prop where
  position : w.Joined w.start l.1
  items : l.2.items = w.items
  taken : ∀ s ∈ l.2, s.taken → w.Joined w.start s.item.cell

/-- The start is attained. -/
theorem Attained.init (w : World) : Attained w (w.start, w.newPouch) where
  position := World.Joined.refl w w.start
  items := Pouch.items_ofItems w.items
  taken s hs htaken := by
    obtain ⟨i, -, rfl⟩ := List.mem_map.1 hs
    cases htaken

/-- What an action leads to is attained. -/
theorem Attained.effect {l : Place} (h : Attained w l) (a : Action) :
    Attained w (a.effect w l) := by
  cases a with
  | move d =>
    have hstep : w.Joined w.start (w.walk l.1 [d]) := h.position.trans (World.Joined.walk w l.1 [d])
    exact ⟨hstep, h.items, h.taken⟩
  | collect =>
    refine ⟨h.position, (Pouch.items_take l.1 l.2).trans h.items, ?_⟩
    intro s hs htaken
    rcases Pouch.take_cases l.1 l.2 with hnone | ⟨j, item, -, hcell, htake⟩
    · simp only [Action.effect, hnone] at hs
      exact h.taken s hs htaken
    · -- the item that was taken lies where the robot stands
      simp only [Action.effect, htake] at hs
      rcases List.mem_or_eq_of_mem_set hs with hs | rfl
      · exact h.taken s hs htaken
      · rw [hcell]
        exact h.position
  | wait => exact h
  | breakOut => exact h

theorem Attained.perform {s : State} (h : Attained w s.place) (path : Path) (a : Action) :
    Attained w (a.perform w path s).place := by
  rw [place_perform]
  exact h.effect a

/-- However a program is nested, it ends within reach of the start with items from there. -/
theorem Program.run_attained {p : Program} {g : Goal} {es : List Event} {o : Outcome}
    (hrun : p.run w g = .ok (es, o)) :
    ∃ l : Place, Attained w l ∧ o.position = l.1 ∧ o.verdict = g.judge l.1 l.2 w := by
  obtain ⟨s, stoppedEarly, hs, -, rfl⟩ :=
    Program.run_preserves (P := fun s => Attained w s.place) (Attained.init w)
      (fun path a s hs => hs.perform path a) hrun
  exact ⟨s.place, hs, rfl, rfl⟩

/-- The goal to collect all is reached with all items taken, on the cell of the goal. -/
theorem Goal.collectAll_holds_iff {c : Cell} {p : Pouch} :
    Goal.collectAll.holds c p w ↔ p.allTaken ∧ c = w.goal := by
  simp [Goal.collectAll]

/-- Only a solvable world is won. -/
theorem isSolvable_of_won (hs : w.isPassable w.start) {p : Program} {es : List Event} {o : Outcome}
    (hrun : p.run w .collectAll = .ok (es, o)) (hwon : o.verdict.success) : w.isSolvable := by
  obtain ⟨l, hl, -, hverdict⟩ := Program.run_attained hrun
  rw [hverdict, Goal.success_judge, Goal.collectAll_holds_iff] at hwon
  obtain ⟨htaken, hgoal⟩ := hwon
  rw [World.isSolvable_iff hs]
  constructor
  · rw [← hgoal]
    exact hl.position
  · intro i hi
    rw [← hl.items] at hi
    obtain ⟨s, hsl, rfl⟩ := List.mem_map.1 hi
    exact hl.taken s hsl (List.all_eq_true.1 htaken s hsl)

/-! ## Programs that are errands -/

/-- The program of an errand runs to its end and has the effects of the errand. -/
theorem Program.run_errand {P : Prop} {as : List Action} (h : ∀ a ∈ as, a.IsErrand P) (g : Goal) :
    ∃ es o, Program.run (as.map Action.block) w g = .ok (es, o) ∧
      o.position = (effects w (w.start, w.newPouch) as).1 ∧
      o.verdict = g.judge (effects w (w.start, w.newPouch) as).1
        (effects w (w.start, w.newPouch) as).2 w := by
  obtain ⟨t, ht, hplace⟩ := execFrom_errand h w [] 0 (State.initial w)
  have hplace' : t.place = effects w (w.start, w.newPouch) as := hplace
  refine ⟨_, _, Program.run_eq_ok_iff.2 ⟨_, t, ht, rfl, rfl⟩, ?_, ?_⟩
  · rw [← hplace']
    rfl
  · rw [← hplace']
    rfl

/-- Moves along a trail end where the trail ends. -/
theorem Program.run_trail {ds : List Direction} {c : Cell} (h : w.Trail w.start ds c) (g : Goal) :
    ∃ es o, Program.run ((ds.map Action.move).map Action.block) w g = .ok (es, o) ∧
      o.position = c := by
  obtain ⟨es, o, hrun, hpos, -⟩ :=
    Program.run_errand (w := w) (P := False) (fun a => isErrand_of_mem_map_move) g
  refine ⟨es, o, hrun, ?_⟩
  rw [hpos, effects_map_move]
  exact h.walk_eq

/-! ## Tours -/

/-- The pouch with every item at one of the cells marked. -/
def Pouch.markAll (cs : List Cell) (p : Pouch) : Pouch :=
  p.map (fun s => if s.item.cell ∈ cs then { s with taken := true } else s)

theorem Pouch.markAll_markAt (c : Cell) (cs : List Cell) (p : Pouch) :
    markAll cs (markAt c p) = markAll (c :: cs) p := by
  unfold markAll markAt
  rw [List.map_map]
  apply List.map_congr_left
  intro s _
  by_cases hc : s.item.cell = c
  · by_cases hcs : c ∈ cs <;> simp [hc, hcs]
  · simp [hc]

/-- Marking items moves none of them. -/
theorem Pouch.cells_markAt (c : Cell) (p : Pouch) :
    (markAt c p).map (·.item.cell) = p.map (·.item.cell) := by
  unfold markAt
  rw [List.map_map]
  apply List.map_congr_left
  intro s _
  by_cases hc : s.item.cell = c <;> simp [hc]

/-- From a cell that is joined with the start, an errand visits given cells one after the other and
marks the items there. It collects only if there is a cell to visit. -/
theorem exists_visits (hs : w.isPassable w.start) {cs : List Cell}
    (hcs : ∀ d ∈ cs, w.Joined w.start d) {c : Cell} (hc : w.Joined w.start c) {p : Pouch}
    (hnd : (p.map (·.item.cell)).Nodup) :
    ∃ as c', (∀ a ∈ as, a.IsErrand (cs ≠ [])) ∧ w.Joined w.start c' ∧
      effects w (c, p) as = (c', p.markAll cs) := by
  induction cs generalizing c p with
  | nil =>
    refine ⟨[], c, fun a ha => absurd ha List.not_mem_nil, hc, ?_⟩
    simp [Pouch.markAll]
  | cons d cs ih =>
    -- go back to the start, from there to the next cell, collect, and go on
    have hd := hcs d List.mem_cons_self
    obtain ⟨ds, hds⟩ := (hc.symm hs).trans hd
    have hnd' : ((p.markAt d).map (·.item.cell)).Nodup := by
      rwa [Pouch.cells_markAt]
    obtain ⟨as, c', has, hc', heff⟩ :=
      ih (fun e he => hcs e (List.mem_cons_of_mem _ he)) hd hnd'
    refine ⟨ds.map .move ++ .collect :: as, c', ?_, hc', ?_⟩
    · intro a ha
      rcases List.mem_append.1 ha with ha | ha
      · exact isErrand_of_mem_map_move ha
      · rcases List.mem_cons.1 ha with rfl | ha
        · exact Or.inl ⟨rfl, List.cons_ne_nil d cs⟩
        · exact (has a ha).imp (fun _ => List.cons_ne_nil d cs)
    · have hcollect : Action.collect.effect w (d, p) = (d, p.markAt d) := by
        rw [Action.effect, Pouch.take_eq_markAt hnd]
      rw [effects_append, effects_map_move, hds.walk_eq, effects_cons, hcollect, heff,
        Pouch.markAll_markAt]

/-- In a solvable world some errand takes every item and ends on the goal. It collects only if there
are items. -/
theorem exists_tour (hw : w.Sound) (hsolv : w.isSolvable) :
    ∃ as p, (∀ a ∈ as, a.IsErrand (w.items ≠ [])) ∧ p.allTaken ∧
      effects w (w.start, w.newPouch) as = (w.goal, p) := by
  have hs := hw.start_passable
  obtain ⟨hgoal, hitems⟩ := (World.isSolvable_iff hs).1 hsolv
  have hcells : w.newPouch.map (·.item.cell) = w.items.map (·.cell) := by
    simp [World.newPouch, Pouch.ofItems, Function.comp_def]
  have hjoined : ∀ c ∈ w.items.map (·.cell), w.Joined w.start c := by
    intro c hc
    obtain ⟨i, hi, rfl⟩ := List.mem_map.1 hc
    exact hitems i hi
  have hnd : (w.newPouch.map (·.item.cell)).Nodup := by
    rw [hcells]
    exact hw.items_apart
  -- first the items are visited one after the other, then the way leads to the goal
  obtain ⟨as, c, has, hc, heff⟩ :=
    exists_visits hs hjoined (World.Joined.refl w w.start) hnd
  obtain ⟨ds, hds⟩ := (hc.symm hs).trans hgoal
  refine ⟨as ++ ds.map .move, w.newPouch.markAll (w.items.map (·.cell)), ?_, ?_, ?_⟩
  · intro a ha
    rcases List.mem_append.1 ha with ha | ha
    · exact (has a ha).imp (fun hne hnil => hne (by rw [hnil]; rfl))
    · exact isErrand_of_mem_map_move ha
  · apply List.all_eq_true.2
    intro s hs
    obtain ⟨t, ht, rfl⟩ := List.mem_map.1 hs
    have hmem : t.item.cell ∈ w.items.map (·.cell) := by
      rw [← hcells]
      exact List.mem_map.2 ⟨t, ht, rfl⟩
    simp [hmem]
  · rw [effects_append, heff, effects_map_move, hds.walk_eq]

/-! ## The flood and the runs agree -/

/-- A solvable world is won by a list of moves and collects that is not empty. -/
theorem exists_winning_errand (hw : w.Sound) (hsolv : w.isSolvable) :
    ∃ p : Program, p ≠ [] ∧ (∀ b ∈ p, b = .collect ∨ ∃ d, b = .move (.known d)) ∧
      (p.check {}).valid ∧ ∃ es o, p.run w .collectAll = .ok (es, o) ∧ o.verdict.success := by
  obtain ⟨as, pouch, has, htaken, heff⟩ := exists_tour hw hsolv
  refine ⟨as.map Action.block, ?_, ?_, ?_, ?_⟩
  · -- the start is not the goal, so there is something to do
    intro hnil
    rw [List.map_eq_nil_iff] at hnil
    rw [hnil, effects_nil] at heff
    exact hw.start_ne_goal (congrArg Prod.fst heff)
  · intro b hb
    obtain ⟨a, ha, rfl⟩ := List.mem_map.1 hb
    rcases has a ha with ⟨rfl, -⟩ | ⟨d, rfl⟩
    · exact Or.inl rfl
    · exact Or.inr ⟨d, rfl⟩
  · rw [Program.check_valid_iff]
    exact ⟨issuesFrom_blocks (by decide) (fun a _ => rfl) 0, rfl⟩
  · obtain ⟨es, o, hrun, -, hverdict⟩ := Program.run_errand has .collectAll
    refine ⟨es, o, hrun, ?_⟩
    rw [hverdict, heff, Goal.success_judge, Goal.collectAll_holds_iff]
    exact ⟨htaken, rfl⟩

/-- A cell is within reach exactly if some list of moves ends there, and a world is solvable exactly
if some valid program wins it. If it is not solvable, no program wins, and if it is, a list of moves
and collects does. -/
theorem World.reachable_and_solvable_iff_run {size : Int} {start goal : Cell} {walls : List Cell}
    {items : List Item} {w : World} (hw : World.build size start goal walls items = .ok w) :
    (∀ (g : Goal) (c : Cell), c ∈ w.reachable ↔
      ∃ p : Program, (∀ b ∈ p, ∃ d, b = .move d) ∧
        ∃ es o, p.run w g = .ok (es, o) ∧ o.position = c) ∧
    (w.isSolvable ↔
      ∃ p : Program, (p.check {}).valid ∧
        ∃ es o, p.run w .collectAll = .ok (es, o) ∧ o.verdict.success) ∧
    (¬ w.isSolvable → ∀ (p : Program) es o,
      p.run w .collectAll = .ok (es, o) → ¬ o.verdict.success) ∧
    (w.isSolvable →
      ∃ p : Program, p ≠ [] ∧ (∀ b ∈ p, b = .collect ∨ ∃ d, b = .move (.known d)) ∧
        (p.check {}).valid ∧
        ∃ es o, p.run w .collectAll = .ok (es, o) ∧ o.verdict.success) := by
  have hsound := World.sound_of_build hw
  have hs := hsound.start_passable
  refine ⟨?_, ?_, ?_, exists_winning_errand hsound⟩
  · intro g c
    rw [World.mem_reachable_iff hs]
    constructor
    · rintro ⟨ds, hds⟩
      refine ⟨(ds.map Action.move).map Action.block, ?_, Program.run_trail hds g⟩
      intro b hb
      obtain ⟨a, ha, rfl⟩ := List.mem_map.1 hb
      obtain ⟨d, -, rfl⟩ := List.mem_map.1 ha
      exact ⟨.known d, rfl⟩
    · rintro ⟨p, -, es, o, hrun, rfl⟩
      obtain ⟨l, hl, hpos, -⟩ := Program.run_attained hrun
      rw [hpos]
      exact hl.position
  · constructor
    · intro hsolv
      obtain ⟨p, -, -, hvalid, hwon⟩ := exists_winning_errand hsound hsolv
      exact ⟨p, hvalid, hwon⟩
    · rintro ⟨p, -, es, o, hrun, hwon⟩
      exact isSolvable_of_won hs hrun hwon
  · intro hsolv p es o hrun hwon
    exact hsolv (isSolvable_of_won hs hrun hwon)

/-- No program whatever wins a world whose goal is walled off in its corner. -/
theorem World.reachable_and_solvable_iff_run_walled_off :
    ∃ w, World.build (3 : Int) ⟨0, 0⟩ ⟨2, 2⟩ [⟨1, 2⟩, ⟨2, 1⟩] [⟨⟨1, 1⟩, .key⟩] = .ok w ∧
      w.isSolvable = false ∧
      ∀ (p : Program) es o, p.run w .collectAll = .ok (es, o) → ¬ o.verdict.success := by
  have hw : World.build (3 : Int) ⟨0, 0⟩ ⟨2, 2⟩ [⟨1, 2⟩, ⟨2, 1⟩] [⟨⟨1, 1⟩, .key⟩] =
      .ok ⟨3, ⟨0, 0⟩, ⟨2, 2⟩, [⟨1, 2⟩, ⟨2, 1⟩], [⟨⟨1, 1⟩, .key⟩]⟩ :=
    World.build_eq_ok_iff.2 ⟨by decide, by decide⟩
  have hsolv : (⟨3, ⟨0, 0⟩, ⟨2, 2⟩, [⟨1, 2⟩, ⟨2, 1⟩], [⟨⟨1, 1⟩, .key⟩]⟩ : World).isSolvable =
      false := by
    decide +kernel
  exact ⟨_, hw, hsolv, (World.reachable_and_solvable_iff_run hw).2.2.1 (by simp [hsolv])⟩

end GridRobot
