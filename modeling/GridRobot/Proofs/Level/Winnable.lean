import GridRobot.Level.Catalog
import GridRobot.Level.World
import GridRobot.Proofs.Execution.Solvable
import GridRobot.Proofs.Level.Layout

/-!
# Every level can be won by its own rules

Layouts are drawn until the goal and the items can be reached, without a look at the budget and the
palette of the level. Still every level can be won. The first three levels have short ways; all
others have loops. A loop runs its body at least twice, and the earlier of these levels have neither
functions nor breaks, so the body must lead to the goal from the start, and from the goal again.

Such a body exists in every solvable world. First comes a tour that takes all items and ends on the
goal. In the second round it leads from the goal to some cell instead. So the tour is followed by
moves that merge the two walks, and then by moves from there to the goal.

* `exists_loop_body`: a body that wins when it is run twice;
* `winnable_of_generous`: a level that allows loops can be won in every solvable world;
* `generate_spec`: worlds of levels are sound and solvable, whatever the draws are;
* `catalog_winnable`: every level of the course can be won in each of its worlds.
-/

namespace GridRobot

/-- Some program that keeps the rules of the level wins the world. -/
def Level.Winnable (l : Level) (w : World) : Prop :=
  ∃ p : Program, (p.check l.rules).valid ∧
    ∃ es o, p.run w l.goal = .ok (es, o) ∧ o.verdict.success

/-- The goal of every level holds where everything is taken and the robot stands on the goal. -/
theorem Level.success_judge_goal (l : Level) {w : World} {p : Pouch} (h : p.allTaken) :
    (l.goal.judge w.goal p w).success := by
  rw [Goal.success_judge]
  unfold Level.goal
  cases l.objective with
  | reach => simp [Objective.goal, Goal.reach]
  | collectAll => exact Goal.collectAll_holds_iff.2 ⟨h, rfl⟩

variable {w : World}

/-! ## Loops that win -/

/-- In a solvable world some errand wins when it is run twice. -/
theorem exists_loop_body (hw : w.Sound) (hsolv : w.isSolvable) :
    ∃ as p, (∀ a ∈ as, a.IsErrand (w.items ≠ [])) ∧ p.allTaken ∧
      effects w (effects w (w.start, w.newPouch) as) as = (w.goal, p) := by
  obtain ⟨tour, pouch, htour, htaken, heff⟩ := exists_tour hw hsolv
  -- where the tour leads in the second round
  have hagain : effects w (w.goal, pouch) tour = (w.walk w.goal (route tour), pouch) :=
    Prod.ext (effects_fst w _ tour) (effects_snd_of_allTaken htaken tour)
  have hjoined := World.Joined.walk w w.goal (route tour)
  obtain ⟨merging, hmerge⟩ := hjoined.merge hw.goal_passable
  -- the way home from where the two rounds meet
  obtain ⟨home, hhome⟩ :=
    (World.Joined.walk w w.goal merging).symm hw.goal_passable
  have hfirst : w.walk w.goal (merging ++ home) = w.goal := by
    rw [World.walk_append, hhome.walk_eq]
  have hsecond : w.walk (w.walk w.goal (route tour)) (merging ++ home) = w.goal := by
    rw [World.walk_append, ← hmerge, hhome.walk_eq]
  have hround : effects w (w.start, w.newPouch) (tour ++ (merging ++ home).map .move) =
      (w.goal, pouch) := by
    rw [effects_append, heff, effects_map_move, hfirst]
  have hround' : effects w (w.goal, pouch) (tour ++ (merging ++ home).map .move) =
      (w.goal, pouch) := by
    rw [effects_append, hagain, effects_map_move, hsecond]
  refine ⟨tour ++ (merging ++ home).map .move, pouch, ?_, htaken, by rw [hround, hround']⟩
  intro a ha
  rcases List.mem_append.1 ha with ha | ha
  · exact htour a ha
  · exact isErrand_of_mem_map_move ha

/-- The program of an errand that is run twice. -/
def twice (as : List Action) : Program := [.loop (.int 2) (as.map Action.block)]

/-- What the rules must allow so that a loop around an errand is valid. -/
theorem check_twice_valid {r : Rules} {as : List Action} (hloop : r.allows .loop)
    (has : ∀ a ∈ as, r.allows a.kind) (hone : r.affords 1) : ((twice as).check r).valid := by
  rw [Program.check_valid_iff]
  refine ⟨?_, hone⟩
  rw [Block.issuesFrom_eq_nil_iff]
  intro i b hb
  have hi : i = 0 ∧ b = .loop (.int 2) (as.map Action.block) := by
    cases i with
    | zero =>
      cases hb
      exact ⟨rfl, rfl⟩
    | succ i => simp [twice] at hb
  obtain ⟨rfl, rfl⟩ := hi
  rw [Block.issues_eq_nil_iff]
  constructor
  · simp [Block.faults, Block.kind?, Block.maxDepth, Block.paletteFaults, hloop,
      Block.settingFaults, Block.countFaults, Block.minCount, Block.maxCount]
  · exact issuesFrom_blocks (by decide) has 0

/-- A loop around an errand has the effects of the errand twice. -/
theorem run_twice {P : Prop} {as : List Action} (h : ∀ a ∈ as, a.IsErrand P) (g : Goal) :
    ∃ es o, (twice as).run w g = .ok (es, o) ∧
      o.verdict = g.judge (effects w (effects w (w.start, w.newPouch) as) as).1
        (effects w (effects w (w.start, w.newPouch) as) as).2 w := by
  obtain ⟨t, ht, hplace⟩ := exec_loop_errand h w [0] 2 (State.initial w)
  have hrun : Block.execFrom w [] 0 (twice as) (State.initial w) = (.ok .proceed, t) := by
    have hexec : (Block.loop (.int 2) (as.map Action.block)).exec w [0] (State.initial w) =
        (.ok .proceed, t) := ht
    simp [twice, Block.execFrom, hexec]
  refine ⟨_, _, Program.run_eq_ok_iff.2 ⟨_, t, hrun, rfl, rfl⟩, ?_⟩
  have hplace' : t.place = effects w (effects w (w.start, w.newPouch) as) as := hplace
  rw [← hplace']
  rfl

/-! ## Levels with loops -/

/-- The level allows moves, loops and, if it has items, collects. -/
structure Level.Generous (l : Level) : Prop where
  moves : ∀ k ∈ Level.moves, k ∈ l.palette
  loop : Kind.loop ∈ l.palette
  collect : l.terrain.items ≠ 0 → Kind.collect ∈ l.palette
  limit : 1 ≤ l.limit

instance (l : Level) : Decidable l.Generous :=
  decidable_of_iff
    ((∀ k ∈ Level.moves, k ∈ l.palette) ∧ Kind.loop ∈ l.palette ∧
      (l.terrain.items ≠ 0 → Kind.collect ∈ l.palette) ∧ 1 ≤ l.limit)
    ⟨fun ⟨hmoves, hloop, hcollect, hlimit⟩ => ⟨hmoves, hloop, hcollect, hlimit⟩,
      fun h => ⟨h.moves, h.loop, h.collect, h.limit⟩⟩

theorem Level.ofDirection_mem_moves (d : Direction) : Kind.ofDirection d ∈ Level.moves := by
  cases d <;> decide

/-- A level allows the kinds of its palette. -/
theorem Level.allows_iff {l : Level} {k : Kind} : l.rules.allows k ↔ k ∈ l.palette := by
  simp [Level.rules, Rules.allows]

/-- A level that allows loops can be won in every solvable world. -/
theorem Level.winnable_of_generous {l : Level} (hl : l.Generous) (hw : w.Sound)
    (hsolv : w.isSolvable) (hitems : l.terrain.items = 0 → w.items = []) : l.Winnable w := by
  obtain ⟨as, pouch, has, htaken, heff⟩ := exists_loop_body hw hsolv
  have hallowed : ∀ a ∈ as, l.rules.allows a.kind := by
    intro a ha
    rw [Level.allows_iff]
    rcases has a ha with ⟨rfl, hne⟩ | ⟨d, rfl⟩
    · exact hl.collect (fun h0 => hne (hitems h0))
    · exact hl.moves _ (Level.ofDirection_mem_moves d)
  have hone : l.rules.affords 1 := (Rules.affords_iff rfl 1).2 hl.limit
  obtain ⟨es, o, hrun, hverdict⟩ := run_twice (w := w) has l.goal
  refine ⟨twice as, check_twice_valid (Level.allows_iff.2 hl.loop) hallowed hone, es, o, hrun, ?_⟩
  rw [hverdict, heff]
  exact l.success_judge_goal htaken

/-! ## Worlds of levels -/

namespace Layout

variable {σ : Type} {source : DrawSource σ} {draws : Nat} {number : Int} {t : Terrain}
  {attempts : Int} {s : σ}

/-- Whatever the draws are, and however far they are followed, the worlds of a level are sound and
solvable, and they have no items if the level has none. -/
theorem generateWithin_spec (h : generateWithin source draws number t attempts s = .ok w) :
    w.Sound ∧ w.isSolvable ∧ (t.items = 0 → w.items = []) := by
  rcases generateWithin_cases source draws number t attempts s with
    ⟨w', heq, hsound, hsolv, hgiven, hdrawn⟩ | hfault | ⟨hfault, -⟩
  · cases heq.symm.trans h
    refine ⟨hsound, hsolv, ?_⟩
    intro hitems
    cases hlayout : given? number with
    | some layout => rw [hgiven _ _ _ hlayout]
    | none =>
      have hfits := hdrawn hlayout
      rw [if_pos hitems] at hfits
      exact hfits.items
  · cases hfault.symm.trans h
  · cases hfault.symm.trans h

/-- A level with a given layout has that one, whatever the source. -/
theorem eq_of_given {start goal : Cell} {walls : List Cell}
    (hgiven : given? number = some (start, goal, walls))
    (h : generateWithin source draws number t attempts s = .ok w) :
    w = ⟨6, start, goal, Cell.sortDistinct walls, []⟩ := by
  unfold generateWithin at h
  rw [hgiven] at h
  exact (world_eq_ok_iff.1 h).1

end Layout

/-! ## The course -/

namespace Level

/-- All levels but the first three allow loops. -/
theorem generous_of_mem {l : Level}
    (hl : l ∈ loopLevels ++ conditionalLevels ++ functionLevels ++ masterLevels) : l.Generous := by
  have hall : ∀ l ∈ loopLevels ++ conditionalLevels ++ functionLevels ++ masterLevels,
      l.Generous := by
    decide
  exact hall l hl

/-- A way from the start to the goal wins a world without items. -/
theorem winnable_of_route {l : Level} (ds : List Direction)
    (hvalid : (Program.check l.rules ((ds.map Action.move).map Action.block)).valid)
    (hitems : w.items = []) (hwalk : w.walk w.start ds = w.goal) : l.Winnable w := by
  obtain ⟨es, o, hrun, -, hverdict⟩ :=
    Program.run_errand (w := w) (P := False) (fun a => isErrand_of_mem_map_move) l.goal
  refine ⟨_, hvalid, es, o, hrun, ?_⟩
  have htaken : w.newPouch.allTaken := by
    simp [World.newPouch, hitems, Pouch.ofItems, Pouch.allTaken]
  rw [hverdict, effects_map_move, hwalk]
  exact l.success_judge_goal htaken

/-- The first three levels have ways within their budgets. -/
theorem winnable_of_mem_sequenceLevels {l : Level} (hl : l ∈ sequenceLevels) {σ : Type}
    {source : DrawSource σ} {draws : Nat} {s : σ} {attempts : Int}
    (h : Layout.generateWithin source draws l.number l.terrain attempts s = .ok w) :
    l.Winnable w := by
  simp only [sequenceLevels, List.mem_cons, List.not_mem_nil, or_false] at hl
  rcases hl with rfl | rfl | rfl
  · rw [Layout.eq_of_given rfl h]
    exact winnable_of_route [.right, .right] (by decide) rfl (by decide)
  · rw [Layout.eq_of_given rfl h]
    exact winnable_of_route [.right, .right, .right, .down, .down] (by decide) rfl (by decide)
  · rw [Layout.eq_of_given rfl h]
    exact winnable_of_route (List.replicate 5 .right ++ List.replicate 5 .down) (by decide) rfl
      (by decide)

/-- Whatever the draws are, a level of the course can be won in each of its worlds. -/
theorem winnable_of_generateWithin {l : Level} (hl : l ∈ catalog) {σ : Type}
    {source : DrawSource σ} {draws : Nat} {s : σ} {attempts : Int}
    (h : Layout.generateWithin source draws l.number l.terrain attempts s = .ok w) :
    l.Winnable w := by
  have hsplit : l ∈ sequenceLevels ∨
      l ∈ loopLevels ++ conditionalLevels ++ functionLevels ++ masterLevels := by
    simp only [catalog, List.mem_append] at hl ⊢
    tauto
  rcases hsplit with hfirst | hlater
  · exact winnable_of_mem_sequenceLevels hfirst h
  · obtain ⟨hsound, hsolv, hitems⟩ := Layout.generateWithin_spec h
    exact winnable_of_generous (generous_of_mem hlater) hsound hsolv hitems

/-- The levels of the course are numbered from one to fifteen. -/
theorem exists_find?_iff {number : Int} :
    (∃ l, find? number = some l) ↔ 1 ≤ number ∧ number ≤ 15 := by
  have hnumbers : catalog.map (·.number) =
      [1, 2, 3, 4, 5, 6, 7, 8, 9, 10, 11, 12, 13, 14, 15] := rfl
  have hmem : (∃ l, find? number = some l) ↔ number ∈ catalog.map (·.number) := by
    rw [← Option.isSome_iff_exists, find?, List.find?_isSome]
    simp
  rw [hmem, hnumbers]
  simp only [List.mem_cons, List.not_mem_nil, or_false]
  omega

/-- Every level of the course can be won by its own rules in every world that a seed gives it,
however far the draws are followed, and in every world that could come of any other draws. -/
theorem catalog_winnable {number : Int} (hfirst : 1 ≤ number) (hlast : number ≤ 15) :
    ∃ l, find? number = some l ∧
      (∀ (draws : Nat) (seed : Int) (w : World), l.worldWithin draws seed = .ok w →
        l.Winnable w) ∧
      ∀ (σ : Type) (source : DrawSource σ) (draws : Nat) (s : σ) (w : World),
        Layout.generateWithin source draws l.number l.terrain Layout.maxAttempts s = .ok w →
          l.Winnable w := by
  obtain ⟨l, hl⟩ := exists_find?_iff.2 ⟨hfirst, hlast⟩
  have hmem : l ∈ catalog := List.mem_of_find?_eq_some hl
  refine ⟨l, hl, ?_, ?_⟩
  · intro draws seed w h
    exact winnable_of_generateWithin hmem h
  · intro σ source draws s w h
    exact winnable_of_generateWithin hmem h

/-- Level nine has no collects, functions or breaks, and here its start is behind a wall. -/
theorem catalog_winnable_behind_wall :
    ∃ l w, find? 9 = some l ∧
      Layout.generateWithin tape 1 l.number l.terrain Layout.maxAttempts
        [0, 0, 2, 5, 0, 1, 0, 1, 1, 1, 2, 1, 3] = .ok w ∧
      w.walls = [⟨1, 0⟩, ⟨1, 1⟩, ⟨1, 2⟩, ⟨1, 3⟩] ∧ l.Winnable w := by
  obtain ⟨l, hl, -, hwin⟩ := catalog_winnable (by decide : (1 : Int) ≤ 9) (by decide)
  have hlevel : l.number = 9 ∧ l.terrain = { hasWalls := true } := by
    cases hl
    exact ⟨rfl, rfl⟩
  have hgen : Layout.generateWithin tape 1 9 { hasWalls := true } Layout.maxAttempts
      [0, 0, 2, 5, 0, 1, 0, 1, 1, 1, 2, 1, 3] =
      .ok ⟨6, ⟨0, 0⟩, ⟨5, 5⟩, [⟨1, 0⟩, ⟨1, 1⟩, ⟨1, 2⟩, ⟨1, 3⟩], []⟩ := by
    decide +kernel
  rw [← hlevel.1, ← hlevel.2] at hgen
  exact ⟨l, _, hl, hgen, rfl, hwin _ tape 1 _ _ hgen⟩

end Level

end GridRobot
