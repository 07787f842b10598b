import GridRobot.Proofs.Execution.Steps
import GridRobot.Proofs.Item.Pouch
import GridRobot.Proofs.World.Walk

/-!
# Errands

An errand is a list of moves and collects. What it does to the position and the pouch does not
depend on paths or on the journal, so it can be followed by plain folding (`effects`).

* `execFrom_errand`: as siblings, the blocks of an errand have the effects of the errand;
* `exec_loop_errand`: in a loop, they have these effects one after the other;
* `effects_fst`: where an errand ends depends on its moves alone.
-/

namespace GridRobot

variable {w : World}

/-- Where the robot stands, and its pouch. -/
abbrev Place := Cell × Pouch

/-- The place of a state. -/
def State.place (s : State) : Place := (s.position, s.pouch)

/-- What an action does to a place. -/
def Action.effect (w : World) (l : Place) : Action → Place
  | .move d => (w.stride l.1 d, l.2)
  | .collect => (l.1, (l.2.take l.1).2)
  | .wait => l
  | .breakOut => l

/-- What some actions do to a place, one after the other. -/
def effects (w : World) (l : Place) (as : List Action) : Place := as.foldl (Action.effect w) l

@[simp] theorem effects_nil (w : World) (l : Place) : effects w l [] = l := rfl

@[simp] theorem effects_cons (w : World) (l : Place) (a : Action) (as : List Action) :
    effects w l (a :: as) = effects w (a.effect w l) as := rfl

/-- Actions one after the other have their effects one after the other. -/
@[simp] theorem effects_append (w : World) (l : Place) (as bs : List Action) :
    effects w l (as ++ bs) = effects w (effects w l as) bs := List.foldl_append

/-- The effect of an action is what performing it does to the place. -/
theorem place_perform (w : World) (path : Path) (s : State) (a : Action) :
    (a.perform w path s).place = a.effect w s.place := by
  cases a with
  | move d =>
    by_cases hp : w.isPassable (s.position.step d)
    · simp [Action.perform, hp, State.emit, State.place, Action.effect, World.stride]
    · simp [Action.perform, hp, State.emit, State.place, Action.effect, World.stride]
  | collect =>
    rcases Pouch.take_cases s.position s.pouch with hnone | ⟨j, item, -, -, htake⟩
    · simp [Action.perform, Action.effect, State.place, State.note, hnone]
    · simp [Action.perform, Action.effect, State.place, State.emit, htake]
  | wait => rfl
  | breakOut => rfl

/-! ## Errands -/

/-- The action is a move, or a collect if there is something to collect. -/
def Action.IsErrand (collects : Prop) (a : Action) : Prop :=
  (a = .collect ∧ collects) ∨ ∃ d, a = .move d

theorem Action.IsErrand.imp {a : Action} {P Q : Prop} (h : a.IsErrand P) (himp : P → Q) :
    a.IsErrand Q := by
  rcases h with ⟨ha, hP⟩ | hmove
  · exact Or.inl ⟨ha, himp hP⟩
  · exact Or.inr hmove

theorem isErrand_of_mem_map_move {P : Prop} {ds : List Direction} {a : Action}
    (h : a ∈ ds.map Action.move) : a.IsErrand P := by
  obtain ⟨d, -, rfl⟩ := List.mem_map.1 h
  exact Or.inr ⟨d, rfl⟩

/-- The block of an action on an errand performs it and goes on. -/
theorem exec_errand {P : Prop} {a : Action} (h : a.IsErrand P) (w : World) (path : Path)
    (s : State) : a.block.exec w path s = (.ok .proceed, a.perform w path s) := by
  rcases h with ⟨rfl, -⟩ | ⟨d, rfl⟩
  · simp [Action.block, Block.exec]
  · simp [Action.block, Block.exec]

/-- As siblings, the blocks of an errand run to their end and have its effects. -/
theorem execFrom_errand {P : Prop} {as : List Action} (h : ∀ a ∈ as, a.IsErrand P) (w : World)
    (path : Path) (index : Nat) (s : State) :
    ∃ t, Block.execFrom w path index (as.map Action.block) s = (.ok .proceed, t) ∧
      t.place = effects w s.place as := by
  induction as generalizing index s with
  | nil => exact ⟨s, by rw [List.map_nil, Block.execFrom], rfl⟩
  | cons a as ih =>
    have ha := exec_errand (h a List.mem_cons_self) w (path ++ [index]) s
    obtain ⟨t, ht, hplace⟩ :=
      ih (fun b hb => h b (List.mem_cons_of_mem _ hb)) (index + 1) (a.perform w (path ++ [index]) s)
    refine ⟨t, ?_, ?_⟩
    · rw [List.map_cons, Block.execFrom, ha]
      exact ht
    · rw [hplace, place_perform, effects_cons]

/-- A body that always has certain effects on the place has them one after the other when it is
repeated. -/
theorem repeatBody_place {body : State → Result} {f : Place → Place}
    (hbody : ∀ s, ∃ t, body s = (.ok .proceed, t) ∧ t.place = f s.place) (n : Nat) (s : State) :
    ∃ t, repeatBody body n s = (.ok .proceed, t) ∧ t.place = f^[n] s.place := by
  induction n generalizing s with
  | zero => exact ⟨s, rfl, rfl⟩
  | succ n ih =>
    obtain ⟨t, ht, hplace⟩ := hbody s
    obtain ⟨u, hu, hplace'⟩ := ih t
    refine ⟨u, ?_, ?_⟩
    · rw [repeatBody, ht]
      exact hu
    · rw [hplace', hplace, Function.iterate_succ_apply]

/-- In a loop, the blocks of an errand have its effects one after the other. -/
theorem exec_loop_errand {P : Prop} {as : List Action} (h : ∀ a ∈ as, a.IsErrand P) (w : World)
    (path : Path) (n : Nat) (s : State) :
    ∃ t, (Block.loop (.int n) (as.map Action.block)).exec w path s = (.ok .proceed, t) ∧
      t.place = (fun l => effects w l as)^[n] s.place := by
  obtain ⟨t, ht, hplace⟩ :=
    repeatBody_place (f := fun l => effects w l as) (fun s => execFrom_errand h w path 0 s) n s
  refine ⟨t, ?_, hplace⟩
  rw [Block.exec]
  exact ht

/-! ## Checking errands -/

/-- The kind of block that does an action. -/
def Action.kind : Action → Kind
  | .move d => .ofDirection d
  | .collect => .collect
  | .wait => .wait
  | .breakOut => .breakOut

/-- A leaf has no issue if its kind is allowed and it is not too deep. -/
theorem issues_block {r : Rules} {path : Path} {a : Action} (hdepth : path.length ≤ Block.maxDepth)
    (ha : r.allows a.kind) : a.block.issues r path = [] := by
  have hkind : a.block.kind? = .ok a.kind := by cases a <;> rfl
  have hchildren : a.block.children = [] := by cases a <;> rfl
  have hsettings : a.block.settingFaults = [] := by cases a <;> rfl
  rw [Block.issues_eq_nil_iff, hchildren]
  constructor
  · unfold Block.faults
    rw [hkind]
    simp [Nat.not_lt.2 hdepth, Block.paletteFaults, ha, hsettings]
  · rw [Block.issuesFrom]

/-- Blocks of allowed actions, not too deep, have no issues. -/
theorem issuesFrom_blocks {r : Rules} {path : Path} (hdepth : path.length < Block.maxDepth)
    {as : List Action} (has : ∀ a ∈ as, r.allows a.kind) (index : Nat) :
    Block.issuesFrom r path index (as.map Action.block) = [] := by
  rw [Block.issuesFrom_eq_nil_iff]
  intro i b hb
  obtain ⟨a, ha, rfl⟩ := List.mem_map.1 (List.mem_of_getElem? hb)
  apply issues_block _ (has a ha)
  simp only [List.length_append, List.length_cons, List.length_nil]
  omega

/-! ## Moves and marks -/

/-- The directions of the moves among some actions. -/
def route (as : List Action) : List Direction :=
  as.filterMap (fun a => match a with
    | .move d => some d
    | _ => none)

/-- Where actions lead depends on the moves alone. -/
theorem effects_fst (w : World) (l : Place) (as : List Action) :
    (effects w l as).1 = w.walk l.1 (route as) := by
  induction as generalizing l with
  | nil => rfl
  | cons a as ih =>
    rw [effects_cons, ih]
    cases a with
    | move d => simp [route, Action.effect]
    | collect => simp [route, Action.effect]
    | wait => simp [route, Action.effect]
    | breakOut => simp [route, Action.effect]

/-- Moves change nothing but the position. -/
theorem effects_map_move (w : World) (l : Place) (ds : List Direction) :
    effects w l (ds.map .move) = (w.walk l.1 ds, l.2) := by
  induction ds generalizing l with
  | nil => rfl
  | cons d ds ih =>
    rw [List.map_cons, effects_cons, ih]
    rfl

/-- When everything is taken, the pouch does not change any more. -/
theorem effects_snd_of_allTaken {l : Place} (h : l.2.allTaken) (as : List Action) :
    (effects w l as).2 = l.2 := by
  induction as generalizing l with
  | nil => rfl
  | cons a as ih =>
    have hkeep : (a.effect w l).2 = l.2 := by
      cases a with
      | collect =>
        rcases Pouch.take_cases l.1 l.2 with hnone | ⟨j, item, hj, -, -⟩
        · simp [Action.effect, hnone]
        · -- a free item contradicts that everything is taken
          have hmem : (⟨item, false⟩ : Slot) ∈ l.2 := List.mem_of_getElem? hj
          have htaken := List.all_eq_true.1 h _ hmem
          cases htaken
      | move d => rfl
      | wait => rfl
      | breakOut => rfl
    rw [effects_cons, ih (by rwa [hkeep]), hkeep]

/-! ## Verdicts -/

/-- A verdict is a success exactly if the goal holds. -/
theorem Goal.success_judge (g : Goal) (c : Cell) (p : Pouch) (w : World) :
    (g.judge c p w).success = g.holds c p w := by
  unfold Goal.judge
  cases h : g.holds c p w with
  | true => rfl
  | false =>
    simp only [Bool.false_eq_true, if_false]
    split <;> rfl

end GridRobot
