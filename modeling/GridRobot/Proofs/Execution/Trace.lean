import GridRobot.Proofs.Execution.Safety
import GridRobot.Proofs.Execution.Steps
import GridRobot.Proofs.Item.Pouch
import GridRobot.Proofs.World.Soundness
import Mathlib.Data.List.Induction

/-!
# The trace is the log of a legal walk

A pose is where the robot stands and which items have been taken. `Event.Follows` says what an event
of each kind may do to the pose before it; a trace is legal if every event follows the pose after
the events before it and carries its own index as sequence number.

* `Faithful.perform`: every action keeps the trace faithful to the state;
* `Legal.passable`, `Legal.marks_kept`: in a legal trace the robot never leaves the passable cells,
  and what has been taken stays taken;
* `trace_faithful`: the trace of a valid program in a sound world is legal, and the outcome is the
  pose after its last event.
-/

namespace GridRobot

/-- Where the robot stands, and which items have been taken. -/
structure Pose where
  position : Cell
  marks : List Bool
deriving DecidableEq, Repr

/-- The pose that an event records. -/
def Event.pose (e : Event) : Pose := ⟨e.position, e.marks⟩

/-- The pose of a state. -/
def State.pose (s : State) : Pose := ⟨s.position, s.pouch.marks⟩

/-- The pose in which every run begins. -/
def World.startPose (w : World) : Pose := ⟨w.start, List.replicate w.items.length false⟩

/-- The pose after some events. -/
def World.poseAfter (w : World) (es : List Event) : Pose :=
  (es.getLast?.map Event.pose).getD w.startPose

/-- What an event may do to the pose before it. -/
def Event.Follows (w : World) (before : Pose) (e : Event) : Prop :=
  match e.deed with
  | .moved d target =>
    target = e.position ∧ e.position = before.position.step d ∧ w.isPassable e.position ∧
      e.marks = before.marks
  | .blocked d target =>
    e.pose = before ∧ target = before.position.step d ∧ ¬ w.isPassable target
  | .collected item =>
    e.position = before.position ∧
      ∃ j : Nat, w.items[j]? = some item ∧ item.cell = e.position ∧
        before.marks[j]? = some false ∧ e.marks = before.marks.set j true
  | .waited => e.pose = before
  | .broke => e.pose = before

/-- Every event has its index as sequence number and follows the events before it. -/
def Legal (w : World) (es : List Event) : Prop :=
  ∀ (i : Nat) (e : Event), es[i]? = some e →
    e.sequence = i ∧ e.Follows w (w.poseAfter (es.take i))

variable {w : World}

/-! ## Legal traces -/

@[simp] theorem World.poseAfter_nil (w : World) : w.poseAfter [] = w.startPose := rfl

/-- The last event says where the robot is and what it has. -/
@[simp] theorem World.poseAfter_snoc (w : World) (es : List Event) (e : Event) :
    w.poseAfter (es ++ [e]) = e.pose := by
  simp [poseAfter]

theorem legal_nil (w : World) : Legal w [] := by
  intro i e h
  simp at h

/-- A trace is legal if it is so without its last event, and the last event follows. -/
theorem legal_snoc_iff {es : List Event} {e : Event} :
    Legal w (es ++ [e]) ↔
      Legal w es ∧ e.sequence = es.length ∧ e.Follows w (w.poseAfter es) := by
  constructor
  · intro h
    constructor
    · intro i f hf
      have hi : i < es.length := (List.getElem?_eq_some_iff.1 hf).1
      have hlast := h i f (by rw [List.getElem?_append_left hi]; exact hf)
      rwa [List.take_append_of_le_length (Nat.le_of_lt hi)] at hlast
    · have hlast := h es.length e (by simp)
      rwa [List.take_left] at hlast
  · rintro ⟨hes, hseq, hfollows⟩ i f hf
    rcases Nat.lt_or_ge i es.length with hi | hi
    · rw [List.getElem?_append_left hi] at hf
      rw [List.take_append_of_le_length (Nat.le_of_lt hi)]
      exact hes i f hf
    · rw [List.getElem?_append_right hi] at hf
      obtain ⟨h0, heq⟩ := List.getElem?_eq_some_iff.1 hf
      simp only [List.length_cons, List.length_nil] at h0
      have hi' : i = es.length := by omega
      simp only [List.getElem_singleton] at heq
      rw [← heq, hi', List.take_left]
      exact ⟨hseq, hfollows⟩

/-- An event leaves the robot on a passable cell. -/
theorem Event.Follows.passable {before : Pose} {e : Event} (h : e.Follows w before)
    (hb : w.isPassable before.position) : w.isPassable e.position := by
  unfold Follows at h
  split at h
  · exact h.2.2.1
  · rw [← h.1] at hb
    exact hb
  · rwa [h.1]
  · rw [← h] at hb
    exact hb
  · rw [← h] at hb
    exact hb

/-- What was taken before an event is taken after it. -/
theorem Event.Follows.marks_kept {before : Pose} {e : Event} (h : e.Follows w before) {k : Nat}
    (hk : before.marks[k]? = some true) : e.marks[k]? = some true := by
  unfold Follows at h
  split at h
  · rwa [h.2.2.2]
  · rw [← h.1] at hk
    exact hk
  · obtain ⟨-, j, -, -, hj, hmarks⟩ := h
    -- the mark that is set was not set before, so it is not this one
    have hne : j ≠ k := by
      rintro rfl
      rw [hk] at hj
      cases hj
    rwa [hmarks, List.getElem?_set_ne hne]
  · rw [← h] at hk
    exact hk
  · rw [← h] at hk
    exact hk

/-- The robot never leaves the passable cells. -/
theorem Legal.passable {es : List Event} (h : Legal w es) (hs : w.isPassable w.start) :
    (∀ e ∈ es, w.isPassable e.position) ∧ w.isPassable (w.poseAfter es).position := by
  induction es using List.reverseRecOn with
  | nil => exact ⟨fun e he => absurd he List.not_mem_nil, hs⟩
  | append_singleton es e ih =>
    obtain ⟨hes, -, hfollows⟩ := legal_snoc_iff.1 h
    obtain ⟨hall, hlast⟩ := ih hes
    have he : w.isPassable e.position := hfollows.passable hlast
    constructor
    · intro f hf
      rcases List.mem_append.1 hf with hf | hf
      · exact hall f hf
      · rwa [List.mem_singleton.1 hf]
    · rwa [World.poseAfter_snoc]

/-- What has been taken stays taken, from any event on. -/
theorem Legal.marks_kept {es : List Event} (h : Legal w es) :
    es.Pairwise (fun e f => ∀ k : Nat, e.marks[k]? = some true → f.marks[k]? = some true) ∧
      ∀ e ∈ es, ∀ k : Nat, e.marks[k]? = some true →
        (w.poseAfter es).marks[k]? = some true := by
  induction es using List.reverseRecOn with
  | nil => exact ⟨List.Pairwise.nil, fun e he => absurd he List.not_mem_nil⟩
  | append_singleton es e ih =>
    obtain ⟨hes, -, hfollows⟩ := legal_snoc_iff.1 h
    obtain ⟨hpair, hlast⟩ := ih hes
    have hkept : ∀ f ∈ es, ∀ k : Nat, f.marks[k]? = some true → e.marks[k]? = some true :=
      fun f hf k hk => hfollows.marks_kept (hlast f hf k hk)
    constructor
    · refine List.pairwise_append.2 ⟨hpair, List.pairwise_singleton _ _, ?_⟩
      intro f hf g hg
      rw [List.mem_singleton.1 hg]
      exact hkept f hf
    · intro f hf
      rw [World.poseAfter_snoc]
      rcases List.mem_append.1 hf with hf | hf
      · exact hkept f hf
      · rw [List.mem_singleton.1 hf]
        exact fun k hk => hk

/-! ## Traces of states -/

/-- The trace of a state is legal and leads to where the state is. -/
structure Faithful (w : World) (s : State) : Prop where
  items : s.pouch.items = w.items
  steps : s.steps = s.trace.length
  legal : Legal w s.trace
  pose : w.poseAfter s.trace = s.pose

/-- The trace is faithful at the start. -/
theorem Faithful.init (w : World) : Faithful w (State.initial w) where
  items := Pouch.items_ofItems w.items
  steps := rfl
  legal := legal_nil w
  pose := by
    show w.startPose = (State.initial w).pose
    simp [World.startPose, State.pose, State.initial, World.newPouch, Pouch.marks_ofItems]

/-- An event that follows may be added, together with the change that it records. -/
theorem Faithful.emit {s t : State} (h : Faithful w s) (hjournal : t.journal = s.journal)
    (hsteps : t.steps = s.steps) (hitems : t.pouch.items = s.pouch.items) {path : Path}
    {deed : Deed}
    (hfollows : Event.Follows w s.pose ⟨t.steps, deed, t.position, t.pouch.marks, path⟩) :
    Faithful w (t.emit path deed) := by
  have htrace : t.trace = s.trace := by rw [State.trace, State.trace, hjournal]
  refine ⟨hitems.trans h.items, ?_, ?_, ?_⟩
  · rw [State.trace_emit, htrace, List.length_append, ← h.steps]
    simp [State.emit, hsteps]
  · rw [State.trace_emit, htrace, legal_snoc_iff]
    refine ⟨h.legal, ?_, ?_⟩
    · rw [← h.steps, ← hsteps]
    · rwa [h.pose]
  · rw [State.trace_emit, World.poseAfter_snoc]
    rfl

/-- Every action keeps the trace faithful to the state. -/
theorem Faithful.perform {s : State} (h : Faithful w s) (path : Path) (a : Action) :
    Faithful w (a.perform w path s) := by
  cases a with
  | move d =>
    rw [Action.perform]
    split
    · next hp =>
      exact h.emit (t := { s with position := s.position.step d }) rfl rfl rfl
        ⟨rfl, rfl, hp, rfl⟩
    · next hp => exact h.emit (t := s) rfl rfl rfl ⟨rfl, rfl, hp⟩
  | collect =>
    rw [Action.perform]
    rcases Pouch.take_cases s.position s.pouch with hnone | ⟨j, item, hj, hcell, htake⟩
    · -- nothing to take: the action leaves no event and the pose stays
      rw [hnone]
      refine ⟨h.items, ?_, ?_, ?_⟩
      · rw [State.trace_note]
        exact h.steps
      · rw [State.trace_note]
        exact h.legal
      · rw [State.trace_note]
        exact h.pose
    · have hitems : Pouch.items (s.pouch.set j ⟨item, true⟩) = s.pouch.items := by
        have hkeep := Pouch.items_take s.position s.pouch
        rwa [htake] at hkeep
      rw [htake]
      refine h.emit (t := { s with pouch := s.pouch.set j ⟨item, true⟩ }) rfl rfl hitems
        ⟨rfl, j, ?_, hcell, ?_, Pouch.marks_set s.pouch j item⟩
      · rw [← h.items, Pouch.items_getElem?, hj]
        rfl
      · show s.pouch.marks[j]? = some false
        rw [Pouch.marks_getElem?, hj]
        rfl
  | wait => exact h.emit rfl rfl rfl rfl
  | breakOut => exact h.emit rfl rfl rfl rfl

/-! ## Valid programs -/

/-- A valid program in a world that can be built has a trace in which every event has its index as
sequence number and follows the pose after the events before it. The outcome is the pose after the
last event, and its steps are counted. So the robot never leaves the passable cells, and no item
that has been taken becomes free again. A genuine program has an outcome; where a program breaks
off, the events up to there are no different. -/
theorem Program.trace_faithful {size : Int} {start goal : Cell} {walls : List Cell}
    {items : List Item} {w : World} (hw : World.build size start goal walls items = .ok w)
    {p : Program} (hp : (p.check {}).valid) (g : Goal) :
    (p.Genuine → ∃ es o, p.run w g = .ok (es, o)) ∧
      (∀ es o, p.run w g = .ok (es, o) →
        Legal w es ∧
          o.position = (w.poseAfter es).position ∧ o.marks = (w.poseAfter es).marks ∧
          o.steps = es.length ∧
          (∀ e ∈ es, w.isPassable e.position) ∧ w.isPassable o.position ∧
          es.Pairwise (fun e f => ∀ k : Nat, e.marks[k]? = some true → f.marks[k]? = some true)) ∧
      ∀ f, p.run w g = .error f →
        Legal w (p.course w g).1 ∧ (∀ e ∈ (p.course w g).1, w.isPassable e.position) ∧
          (p.course w g).1.Pairwise
            (fun e f => ∀ k : Nat, e.marks[k]? = some true → f.marks[k]? = some true) := by
  have hstart := (World.sound_of_build hw).start_passable
  refine ⟨fun hgen => run_ok_of_genuine hp hgen w g, ?_, ?_⟩
  · intro es o hrun
    obtain ⟨s, stoppedEarly, hs, rfl, rfl⟩ :=
      Program.run_preserves (Faithful.init w) (fun path a s hs => hs.perform path a) hrun
    obtain ⟨hpass, hlast⟩ := hs.legal.passable hstart
    have hend : (s.outcome w g stoppedEarly).position = (w.poseAfter s.trace).position := by
      rw [hs.pose]
      rfl
    refine ⟨hs.legal, hend, ?_, hs.steps, hpass, ?_, hs.legal.marks_kept.1⟩
    · rw [hs.pose]
      rfl
    · rwa [hend]
  · intro f _
    obtain ⟨s, hs, htrace⟩ := Program.course_preserves (p := p) g (Faithful.init w)
      (fun path a s hs => hs.perform path a)
    rw [htrace]
    exact ⟨hs.legal, (hs.legal.passable hstart).1, hs.legal.marks_kept.1⟩

/-- A loop that is blocked by a wall, picks up an item and runs into the edge has a legal trace. -/
theorem Program.trace_faithful_blocked :
    ∃ w, World.build (2 : Int) ⟨0, 0⟩ ⟨1, 1⟩ [⟨1, 0⟩] [⟨⟨0, 1⟩, .gem⟩] = .ok w ∧
      ∃ es o, Program.run [.loop (.int 2) [.move (.known .right), .move (.known .down), .collect]] w
        Goal.collectAll = .ok (es, o) ∧ Legal w es ∧ o.steps = es.length := by
  have hw : World.build (2 : Int) ⟨0, 0⟩ ⟨1, 1⟩ [⟨1, 0⟩] [⟨⟨0, 1⟩, .gem⟩] =
      .ok ⟨2, ⟨0, 0⟩, ⟨1, 1⟩, [⟨1, 0⟩], [⟨⟨0, 1⟩, .gem⟩]⟩ :=
    World.build_eq_ok_iff.2 ⟨by decide, by decide⟩
  have hp : (Program.check {}
      [.loop (.int 2) [.move (.known .right), .move (.known .down), .collect]]).valid := by
    decide
  obtain ⟨hends, hall, -⟩ := Program.trace_faithful hw hp Goal.collectAll
  obtain ⟨es, o, hrun⟩ := hends (by decide)
  obtain ⟨hlegal, -, -, hsteps, -⟩ := hall es o hrun
  exact ⟨_, hw, es, o, hrun, hlegal, hsteps⟩

end GridRobot
