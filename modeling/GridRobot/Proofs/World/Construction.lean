import GridRobot.Proofs.Number.Numeral
import GridRobot.Proofs.World.Soundness

/-!
# What worlds can be built

A world is built from a size, a start, a goal, walls and items, with any integers as coordinates.
The rules for these parts are plain facts about integers and lists (`World.Buildable`); the check
goes over the landmarks with a list of owners instead.

* `buildable_iff_sound`: parts keep the rules exactly if the world of these parts is sound;
* `holds_of_mem_faults`: every fault that is reported is there;
* `isWritable_of_holds`: a fault tells only integers of the parts, so that it can be put into words
  if they can be written;
* `buildable_cons_start_iff`: one item may lie on the start, a second one may not.
-/

namespace GridRobot

/-- The cell lies on the square grid of the given size. -/
def Cell.LiesOn (c : Cell) (size : Int) : Prop := (0 ≤ c.x ∧ c.x < size) ∧ (0 ≤ c.y ∧ c.y < size)

/-- The fault is there. A shared cell belongs to an earlier landmark, with which the later one may
not share it. -/
def WorldFault.Holds (w : World) : WorldFault → Prop
  | .size n => n = w.size ∧ n < 1
  | .wallOutside c => c ∈ w.walls ∧ ¬ c.LiesOn w.size
  | .outside l c => (l, c) ∈ w.landmarks ∧ ¬ c.LiesOn w.size
  | .onWall l c => (l, c) ∈ w.landmarks ∧ c ∈ w.walls
  | .shared l c owner => [(owner, c), (l, c)].Sublist w.landmarks ∧ l.mayShare owner = false

namespace World

/-- The rules for the parts of a world. -/
structure Buildable (size : Int) (start goal : Cell) (walls : List Cell) (items : List Item) :
    Prop where
  size_pos : 1 ≤ size
  walls_inside : ∀ c ∈ walls, c.LiesOn size
  start_free : start.LiesOn size ∧ start ∉ walls
  goal_free : goal.LiesOn size ∧ goal ∉ walls
  items_free : ∀ i ∈ items, i.cell.LiesOn size ∧ i.cell ∉ walls
  start_ne_goal : start ≠ goal
  items_off_goal : ∀ i ∈ items, i.cell ≠ goal
  items_apart : (items.map (·.cell)).Nodup

variable {size : Int} {start goal : Cell} {walls : List Cell} {items : List Item} {w : World}

/-! ## The rules and the check -/

/-- Parts keep the rules exactly if the world of these parts is sound. -/
theorem buildable_iff_sound : Buildable size start goal walls items ↔
    Sound ⟨size, start, goal, Cell.sortDistinct walls, items⟩ := by
  have hfree (c : Cell) :
      isPassable ⟨size, start, goal, Cell.sortDistinct walls, items⟩ c ↔
        c.LiesOn size ∧ c ∉ walls := by
    rw [isPassable_iff, inBounds_iff, Cell.mem_sortDistinct]
    rfl
  constructor
  · intro h
    constructor
    · exact h.size_pos
    · intro c hc
      exact inBounds_iff.2 (h.walls_inside c (Cell.mem_sortDistinct.1 hc))
    · exact (hfree start).2 h.start_free
    · exact (hfree goal).2 h.goal_free
    · intro i hi
      exact (hfree i.cell).2 (h.items_free i hi)
    · exact h.start_ne_goal
    · exact h.items_off_goal
    · exact h.items_apart
  · intro h
    constructor
    · exact h.size_pos
    · intro c hc
      exact inBounds_iff.1 (h.walls_inside c (Cell.mem_sortDistinct.2 hc))
    · exact (hfree start).1 h.start_passable
    · exact (hfree goal).1 h.goal_passable
    · intro i hi
      exact (hfree i.cell).1 (h.items_passable i hi)
    · exact h.start_ne_goal
    · exact h.items_off_goal
    · exact h.items_apart

/-- What comes of parts that make no world. -/
theorem build_of_faults
    (h : World.faults (⟨size, start, goal, Cell.sortDistinct walls, items⟩ : World) ≠ []) :
    build size start goal walls items =
      .error (.ofFaults (World.faults ⟨size, start, goal, Cell.sortDistinct walls, items⟩)) := by
  unfold build
  dsimp only
  split
  · next hf => exact absurd hf h
  · rfl

/-- Faults are told if all of them can be put into words. -/
theorem ofFaults_of_writable {faults : List WorldFault} (h : ∀ f ∈ faults, f.isWritable) :
    WorldError.ofFaults faults = .unsound faults := if_pos (List.all_eq_true.2 h)

/-- Otherwise none of them is told. -/
theorem ofFaults_of_unwritable {faults : List WorldFault}
    (h : ∃ f ∈ faults, f.isWritable = false) : WorldError.ofFaults faults = .unwritable := by
  refine if_neg ?_
  rw [List.all_eq_true]
  rintro hall
  obtain ⟨f, hf, hunwritable⟩ := h
  rw [hall f hf] at hunwritable
  cases hunwritable

/-! ## Faults that are reported -/

theorem holds_of_mem_cellFaults {l : Landmark} {c : Cell} (hl : (l, c) ∈ w.landmarks)
    {f : WorldFault} (hf : f ∈ w.cellFaults l c) : f.Holds w := by
  unfold cellFaults at hf
  split at hf
  · next hout =>
    cases List.mem_singleton.1 hf
    refine ⟨hl, ?_⟩
    intro hin
    rw [inBounds_iff.2 hin] at hout
    cases hout
  · split at hf
    · next hwall =>
      cases List.mem_singleton.1 hf
      exact ⟨hl, isWall_iff.1 hwall⟩
    · cases hf

/-- Faults of landmarks are there if all owners so far are earlier landmarks. -/
theorem holds_of_mem_landmarkFaults {before rest : List (Landmark × Cell)}
    {owners : List (Cell × Landmark)} (hall : w.landmarks = before ++ rest)
    (howners : ∀ o ∈ owners, (o.2, o.1) ∈ before) {f : WorldFault}
    (hf : f ∈ w.landmarkFaults owners rest) : f.Holds w := by
  -- the landmarks that have been checked grow, and so do the owners, if at all, by one of them
  induction rest generalizing before owners with
  | nil => cases hf
  | cons landmark rest ih =>
    obtain ⟨l, c⟩ := landmark
    have hl : (l, c) ∈ w.landmarks := by
      rw [hall]
      exact List.mem_append_right before List.mem_cons_self
    have hnext : w.landmarks = (before ++ [(l, c)]) ++ rest := by
      rw [hall, List.append_assoc, List.singleton_append]
    have hsame : ∀ o ∈ owners, (o.2, o.1) ∈ before ++ [(l, c)] :=
      fun o ho => List.mem_append_left _ (howners o ho)
    have hmore : ∀ o ∈ (c, l) :: owners, (o.2, o.1) ∈ before ++ [(l, c)] := by
      rw [List.forall_mem_cons]
      exact ⟨List.mem_append_right before List.mem_cons_self, hsame⟩
    rw [landmarkFaults] at hf
    split at hf
    · next d owner hfound =>
      split at hf
      · rcases List.mem_append.1 hf with hcell | hrest
        · exact holds_of_mem_cellFaults hl hcell
        · exact ih hnext hmore hrest
      · next hshare =>
        rcases List.mem_append.1 hf with hcell | hrest
        · exact holds_of_mem_cellFaults hl hcell
        · rcases List.mem_cons.1 hrest with rfl | hrest
          · -- the owner has the same cell, and it was checked before
            have hd : c = d := by simpa using List.find?_some hfound
            subst hd
            have howner := howners _ (List.mem_of_find?_eq_some hfound)
            refine ⟨?_, by simpa using hshare⟩
            rw [hall]
            exact (List.singleton_sublist.2 howner).append
              (List.singleton_sublist.2 List.mem_cons_self)
          · exact ih hnext hsame hrest
    · rcases List.mem_append.1 hf with hcell | hrest
      · exact holds_of_mem_cellFaults hl hcell
      · exact ih hnext hmore hrest

/-- Every fault that is reported is there. -/
theorem holds_of_mem_faults {f : WorldFault} (hf : f ∈ w.faults) : f.Holds w := by
  unfold faults at hf
  split at hf
  · next hsize =>
    cases List.mem_singleton.1 hf
    exact ⟨rfl, by simpa using hsize⟩
  · rcases List.mem_append.1 hf with hwall | hlandmark
    · rcases List.mem_map.1 hwall with ⟨c, hc, rfl⟩
      rw [List.mem_mergeSort, List.mem_filter] at hc
      refine ⟨hc.1, ?_⟩
      intro hin
      rw [inBounds_iff.2 hin] at hc
      cases hc.2
    · exact holds_of_mem_landmarkFaults (List.nil_append _).symm
        (fun o ho => absurd ho List.not_mem_nil) hlandmark

/-- All integers among the parts of a world can be written. -/
structure Writable (w : World) : Prop where
  size : Numeral.fits w.size
  start : w.start.isWritable
  goal : w.goal.isWritable
  walls : ∀ c ∈ w.walls, c.isWritable
  items : ∀ i ∈ w.items, i.cell.isWritable

/-- A fault tells only integers of the parts. -/
theorem isWritable_of_holds (hw : w.Writable) {f : WorldFault} (hf : f.Holds w) : f.isWritable := by
  have hlandmark {l : Landmark} {c : Cell} (hl : (l, c) ∈ w.landmarks) : c.isWritable := by
    rw [landmarks, List.mem_cons, List.mem_cons, List.mem_map] at hl
    rcases hl with hstart | hgoal | ⟨⟨i, index⟩, hi, hitem⟩
    · cases hstart
      exact hw.start
    · cases hgoal
      exact hw.goal
    · cases hitem
      exact hw.items i (List.fst_mem_of_mem_zipIdx hi)
  cases f with
  | size n =>
    rw [hf.1]
    exact hw.size
  | wallOutside c => exact hw.walls c hf.1
  | outside l c => exact hlandmark hf.1
  | onWall l c => exact hlandmark hf.1
  | shared l c owner =>
    exact hlandmark (hf.1.subset (List.mem_cons_of_mem _ List.mem_cons_self))

/-! ## Items on the start -/

/-- The order of the items does not matter for the rules. -/
theorem Buildable.perm {items' : List Item} (h : Buildable size start goal walls items)
    (hperm : items.Perm items') : Buildable size start goal walls items' where
  size_pos := h.size_pos
  walls_inside := h.walls_inside
  start_free := h.start_free
  goal_free := h.goal_free
  items_free := fun i hi => h.items_free i (hperm.mem_iff.2 hi)
  start_ne_goal := h.start_ne_goal
  items_off_goal := fun i hi => h.items_off_goal i (hperm.mem_iff.2 hi)
  items_apart := (hperm.map (·.cell)).nodup_iff.1 h.items_apart

/-- An item can be put on the start exactly if no other item lies there. -/
theorem buildable_cons_start_iff {kind : ItemKind} :
    Buildable size start goal walls (⟨start, kind⟩ :: items) ↔
      Buildable size start goal walls items ∧ ∀ i ∈ items, i.cell ≠ start := by
  constructor
  · intro h
    have hitems := List.forall_mem_cons.1 h.items_free
    have hgoal := List.forall_mem_cons.1 h.items_off_goal
    have hapart := List.nodup_cons.1 h.items_apart
    constructor
    · exact ⟨h.size_pos, h.walls_inside, h.start_free, h.goal_free, hitems.2, h.start_ne_goal,
        hgoal.2, hapart.2⟩
    · intro i hi hstart
      exact hapart.1 (List.mem_map.2 ⟨i, hi, hstart⟩)
  · rintro ⟨h, hstart⟩
    have hapart : ((⟨start, kind⟩ :: items).map (·.cell)).Nodup := by
      refine List.nodup_cons.2 ⟨?_, h.items_apart⟩
      intro hmem
      rcases List.mem_map.1 hmem with ⟨i, hi, hcell⟩
      exact hstart i hi hcell
    exact ⟨h.size_pos, h.walls_inside, h.start_free, h.goal_free,
      List.forall_mem_cons.2 ⟨h.start_free, h.items_free⟩, h.start_ne_goal,
      List.forall_mem_cons.2 ⟨h.start_ne_goal, h.items_off_goal⟩, hapart⟩

/-! ## Building -/

/-- Parts make a world exactly if they keep the rules. -/
theorem exists_build_eq_ok_iff : (∃ w, build size start goal walls items = .ok w) ↔
    Buildable size start goal walls items := by
  rw [buildable_iff_sound]
  constructor
  · rintro ⟨w, hw⟩
    rcases build_eq_ok_iff.1 hw with ⟨rfl, hsound⟩
    exact hsound
  · intro hsound
    exact ⟨_, build_eq_ok_iff.2 ⟨rfl, hsound⟩⟩

/-- Building enforces the rules, and nothing else. Parts that keep them make the world that has
these parts. For other parts there is a list of faults, which is not empty and has nothing in it
that is not so. The faults are reported if all of them can be put into words, as they can if all
integers among the parts can be written; otherwise it is only reported that an integer is too long.
Among any items one more may lie on the start, as long as no other one does. -/
theorem build_enforces_rules (size : Int) (start goal : Cell) (walls : List Cell) :
    (∀ items : List Item, Buildable size start goal walls items ↔
      ∃ w, build size start goal walls items = .ok w ∧ w.size = size ∧ w.start = start ∧
        w.goal = goal ∧ (∀ c, c ∈ w.walls ↔ c ∈ walls) ∧ w.items = items) ∧
    (∀ items : List Item,
      let parts : World := ⟨size, start, goal, Cell.sortDistinct walls, items⟩
      ¬ Buildable size start goal walls items ↔
        ∃ faults, faults ≠ [] ∧ (∀ f ∈ faults, f.Holds parts) ∧
          (parts.Writable → ∀ f ∈ faults, f.isWritable) ∧
          ((∀ f ∈ faults, f.isWritable) →
            build size start goal walls items = .error (.unsound faults)) ∧
          ((∃ f ∈ faults, f.isWritable = false) →
            build size start goal walls items = .error .unwritable)) ∧
    ∀ (front back : List Item) (kind : ItemKind),
      (∃ w, build size start goal walls (front ++ ⟨start, kind⟩ :: back) = .ok w) ↔
        (∃ w, build size start goal walls (front ++ back) = .ok w) ∧
          ∀ i ∈ front ++ back, i.cell ≠ start := by
  refine ⟨?_, ?_, ?_⟩
  · intro items
    constructor
    · intro h
      rcases exists_build_eq_ok_iff.2 h with ⟨w, hw⟩
      refine ⟨w, hw, ?_⟩
      rcases build_eq_ok_iff.1 hw with ⟨rfl, -⟩
      exact ⟨rfl, rfl, rfl, fun c => Cell.mem_sortDistinct, rfl⟩
    · rintro ⟨w, hw, -⟩
      exact exists_build_eq_ok_iff.1 ⟨w, hw⟩
  · intro items parts
    constructor
    · intro h
      have hfaults : parts.faults ≠ [] := by
        rwa [buildable_iff_sound, ← faults_eq_nil_iff] at h
      have hbuild := build_of_faults hfaults
      refine ⟨parts.faults, hfaults, fun f => holds_of_mem_faults, ?_, ?_, ?_⟩
      · intro hparts f hf
        exact isWritable_of_holds hparts (holds_of_mem_faults hf)
      · intro hall
        rw [hbuild, ofFaults_of_writable hall]
      · intro hsome
        rw [hbuild, ofFaults_of_unwritable hsome]
    · -- either way the parts make no world
      rintro ⟨faults, -, -, -, hall, hsome⟩ h
      obtain ⟨w, hw⟩ := exists_build_eq_ok_iff.2 h
      by_cases hwritable : ∀ f ∈ faults, f.isWritable
      · cases (hall hwritable).symm.trans hw
      · push Not at hwritable
        obtain ⟨f, hf, hne⟩ := hwritable
        cases (hsome ⟨f, hf, Bool.eq_false_iff.2 hne⟩).symm.trans hw
  · intro front back kind
    -- where the item stands among the others does not matter
    have hmiddle : (front ++ ⟨start, kind⟩ :: back).Perm (⟨start, kind⟩ :: (front ++ back)) :=
      List.perm_middle
    rw [exists_build_eq_ok_iff, exists_build_eq_ok_iff, ← buildable_cons_start_iff]
    exact ⟨fun h => h.perm hmiddle, fun h => h.perm hmiddle.symm⟩

/-- A grid whose size is negative and too long to be written breaks the rules, but its faults are
not reported. -/
theorem build_tooBig :
    ¬ Buildable (-Numeral.tooBig) ⟨0, 0⟩ ⟨1, 1⟩ [] [] ∧
      build (-Numeral.tooBig) ⟨0, 0⟩ ⟨1, 1⟩ [] [] = .error .unwritable := by
  have hpos := Numeral.tooBig_pos
  have hfaults :
      World.faults (⟨-Numeral.tooBig, ⟨0, 0⟩, ⟨1, 1⟩, Cell.sortDistinct [], []⟩ : World) =
        [.size (-Numeral.tooBig)] := by
    rw [faults, if_pos]
    simp only [Coordinate.below_int, Coordinate.ofInt_int, decide_eq_true_iff]
    omega
  constructor
  · intro h
    have hsize := h.size_pos
    omega
  · have hunwritable : WorldFault.isWritable (.size (-Numeral.tooBig)) = false := by
      simp [WorldFault.isWritable, Numeral.fits_neg]
    rw [build_of_faults (by rw [hfaults]; exact List.cons_ne_nil _ _), hfaults,
      ofFaults_of_unwritable ⟨_, List.mem_singleton.2 rfl, hunwritable⟩]

/-- A second item on the start is reported, with the first one as the owner of the cell. -/
example :
    faults (⟨3, ⟨0, 0⟩, ⟨2, 2⟩, [⟨1, 1⟩], [⟨⟨0, 0⟩, .coin⟩]⟩ : World) = [] ∧
      faults (⟨3, ⟨0, 0⟩, ⟨2, 2⟩, [⟨1, 1⟩], [⟨⟨0, 0⟩, .coin⟩, ⟨⟨0, 0⟩, .gem⟩]⟩ : World) =
        [.shared (.item 1) ⟨0, 0⟩ (.item 0)] := by
  decide +kernel

end World

end GridRobot
