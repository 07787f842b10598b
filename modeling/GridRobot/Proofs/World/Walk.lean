import GridRobot.World
import Mathlib.Tactic.Linarith
import Mathlib.Tactic.Ring

/-!
# Walks on the grid

A robot that follows a list of directions from a cell stays where it is whenever the next cell
cannot be entered. A trail is a list of directions along which that never happens.

* `Joined.symm`: between passable cells, trails lead both ways;
* `Joined.merge`: two robots that start in joined cells and follow the same directions can be led to
  one cell.

For the second, let one robot follow the trail to the other, which follows the same directions. As
long as the other is not stopped, the two keep their distance and drift on in one direction, which
ends at the edge of the grid at the latest. When the other robot is stopped, the trail between the
two gets shorter by one.
-/

namespace GridRobot

namespace Direction

/-- The direction that leads back. -/
def opposite : Direction → Direction
  | up => down
  | down => up
  | left => right
  | right => left

end Direction

namespace Cell

@[simp] theorem step_x (c : Cell) (d : Direction) : (c.step d).x = c.x + d.offset.1 := rfl

@[simp] theorem step_y (c : Cell) (d : Direction) : (c.step d).y = c.y + d.offset.2 := rfl

theorem ext_iff_int {a b : Cell} : a = b ↔ a.x = b.x ∧ a.y = b.y := by
  cases a
  cases b
  simp

/-- A step in the opposite direction leads back. -/
@[simp] theorem step_step_opposite (c : Cell) (d : Direction) :
    (c.step d).step d.opposite = c := by
  rw [ext_iff_int]
  cases d <;> simp [Direction.opposite, Direction.offset]

end Cell

namespace World

variable {w : World} {a b c : Cell}

/-! ## Strides and walks -/

/-- Where a robot stands after a move. -/
def stride (w : World) (c : Cell) (d : Direction) : Cell :=
  if w.isPassable (c.step d) then c.step d else c

/-- Where a robot stands after some moves. -/
def walk (w : World) (c : Cell) (ds : List Direction) : Cell := ds.foldl w.stride c

@[simp] theorem walk_nil (w : World) (c : Cell) : w.walk c [] = c := rfl

@[simp] theorem walk_cons (w : World) (c : Cell) (d : Direction) (ds : List Direction) :
    w.walk c (d :: ds) = w.walk (w.stride c d) ds := rfl

/-- A walk may be taken in two parts. -/
@[simp] theorem walk_append (w : World) (c : Cell) (ds es : List Direction) :
    w.walk c (ds ++ es) = w.walk (w.walk c ds) es := List.foldl_append

theorem stride_eq_step {d : Direction} (h : w.isPassable (c.step d)) : w.stride c d = c.step d :=
  if_pos h

theorem stride_eq_self {d : Direction} (h : ¬ w.isPassable (c.step d)) : w.stride c d = c :=
  if_neg h

/-! ## Trails -/

/-- The directions lead from one cell to another, and every cell on the way can be entered. -/
def Trail (w : World) : Cell → List Direction → Cell → Prop
  | a, [], b => a = b
  | a, d :: ds, b => w.isPassable (a.step d) ∧ Trail w (a.step d) ds b

namespace Trail

theorem eq_of_nil (h : w.Trail a [] b) : a = b := h

/-- On a trail no step is blocked, so a walk along it follows it. -/
theorem walk_eq {ds : List Direction} (h : w.Trail a ds b) : w.walk a ds = b := by
  induction ds generalizing a with
  | nil => exact h
  | cons d ds ih =>
    rw [walk_cons, stride_eq_step h.1]
    exact ih h.2

/-- Trails can be joined. -/
theorem append {ds es : List Direction} (h : w.Trail a ds b) (h' : w.Trail b es c) :
    w.Trail a (ds ++ es) c := by
  induction ds generalizing a with
  | nil =>
    rw [h.eq_of_nil]
    exact h'
  | cons d ds ih => exact ⟨h.1, ih h.2⟩

theorem snoc {ds : List Direction} {d : Direction} (h : w.Trail a ds b)
    (hp : w.isPassable (b.step d)) : w.Trail a (ds ++ [d]) (b.step d) :=
  h.append ⟨hp, rfl⟩

/-- A trail from a passable cell ends in a passable cell. -/
theorem passable {ds : List Direction} (h : w.Trail a ds b) (ha : w.isPassable a) :
    w.isPassable b := by
  induction ds generalizing a with
  | nil => rwa [← h.eq_of_nil]
  | cons d ds ih => exact ih h.2 h.1

end Trail

/-- Some trail leads from one cell to the other. -/
def Joined (w : World) (a b : Cell) : Prop := ∃ ds, w.Trail a ds b

namespace Joined

theorem refl (w : World) (a : Cell) : w.Joined a a := ⟨[], rfl⟩

/-- Trails through a third cell join two cells. -/
theorem trans (h : w.Joined a b) (h' : w.Joined b c) : w.Joined a c := by
  obtain ⟨ds, hds⟩ := h
  obtain ⟨es, hes⟩ := h'
  exact ⟨ds ++ es, hds.append hes⟩

theorem step {d : Direction} (h : w.Joined a b) (hp : w.isPassable (b.step d)) :
    w.Joined a (b.step d) := by
  obtain ⟨ds, hds⟩ := h
  exact ⟨ds ++ [d], hds.snoc hp⟩

theorem passable (h : w.Joined a b) (ha : w.isPassable a) : w.isPassable b := by
  obtain ⟨ds, hds⟩ := h
  exact hds.passable ha

/-- What leads to a cell leads back, by the opposite directions. -/
theorem symm (h : w.Joined a b) (ha : w.isPassable a) : w.Joined b a := by
  obtain ⟨ds, hds⟩ := h
  induction ds generalizing a with
  | nil =>
    rw [hds.eq_of_nil]
    exact refl w b
  | cons d ds ih =>
    -- from the end back to the second cell of the trail, and one more step
    have hback : w.Joined b (a.step d) := ih hds.1 hds.2
    have hp : w.isPassable ((a.step d).step d.opposite) := by
      rwa [Cell.step_step_opposite]
    simpa using hback.step hp

/-- Moves lead from a cell only to cells that are joined with it. -/
theorem walk (w : World) (a : Cell) (ds : List Direction) : w.Joined a (w.walk a ds) := by
  induction ds generalizing a with
  | nil => exact refl w a
  | cons d ds ih =>
    have hstride : w.Joined a (w.stride a d) := by
      by_cases hp : w.isPassable (a.step d)
      · rw [stride_eq_step hp]
        exact (refl w a).step hp
      · rw [stride_eq_self hp]
        exact refl w a
    exact hstride.trans (ih (w.stride a d))

end Joined

/-! ## Merging two walks -/

/-- By how many columns and rows a list of directions leads on if nothing is in the way. -/
def drift : List Direction → Int × Int
  | [] => (0, 0)
  | d :: ds => (d.offset.1 + (drift ds).1, d.offset.2 + (drift ds).2)

/-- A trail ends as far away as its directions drift. -/
theorem Trail.eq_add_drift {ds : List Direction} (h : w.Trail a ds b) :
    b.x = a.x + (drift ds).1 ∧ b.y = a.y + (drift ds).2 := by
  induction ds generalizing a with
  | nil => simp [drift, h.eq_of_nil]
  | cons d ds ih =>
    obtain ⟨hx, hy⟩ := ih h.2
    simp only [Cell.step_x, Cell.step_y] at hx hy
    simp only [drift]
    constructor
    · omega
    · omega

/-- The same directions lead both cells to one cell. -/
def Merge (w : World) (a b : Cell) : Prop := ∃ ds, w.walk a ds = w.walk b ds

/-- Cells from which walks lead to merging ones merge. -/
theorem Merge.of_walk (ds : List Direction) (h : w.Merge (w.walk a ds) (w.walk b ds)) :
    w.Merge a b := by
  obtain ⟨es, hes⟩ := h
  exact ⟨ds ++ es, by rw [walk_append, walk_append, hes]⟩

/-- The robot behind follows a trail to the robot in front, and both take its directions. Either the
robot in front is never stopped, or at some point the trail between the two has become shorter. -/
theorem Trail.advance {ds es : List Direction} (h : w.Trail a (ds ++ es) b) :
    (∃ c, w.Trail b ds c) ∨
      ∃ fs us, us.length < (ds ++ es).length ∧ w.Trail (w.walk a fs) us (w.walk b fs) := by
  induction ds generalizing a b es with
  | nil => exact Or.inl ⟨b, rfl⟩
  | cons d ds ih =>
    obtain ⟨hpa, htrail⟩ := h
    have ha : w.stride a d = a.step d := stride_eq_step hpa
    by_cases hpb : w.isPassable (b.step d)
    · -- both robots move on, and the direction just taken joins the trail at its end
      have hb : w.stride b d = b.step d := stride_eq_step hpb
      have hnext : w.Trail (a.step d) (ds ++ (es ++ [d])) (b.step d) := by
        rw [← List.append_assoc]
        exact htrail.snoc hpb
      rcases ih hnext with ⟨c, hc⟩ | ⟨fs, us, hlen, hus⟩
      · exact Or.inl ⟨c, hpb, hc⟩
      · refine Or.inr ⟨d :: fs, us, ?_, ?_⟩
        · simp only [List.length_append, List.length_cons, List.length_nil] at hlen ⊢
          omega
        · rw [walk_cons, walk_cons, ha, hb]
          exact hus
    · -- the robot in front is stopped
      have hb : w.stride b d = b := stride_eq_self hpb
      refine Or.inr ⟨[d], ds ++ es, by simp, ?_⟩
      rw [walk_cons, walk_cons, ha, hb]
      exact htrail

/-- If shorter trails can be merged, a trail can be merged as well, or its drift leads on over
passable cells as often as one likes. -/
theorem Trail.merge_or_drift {ds : List Direction}
    (hshort : ∀ us : List Direction, us.length < ds.length →
      ∀ a b, w.Trail a us b → w.isPassable b → w.Merge a b)
    (n : Nat) (h : w.Trail a ds b) (hb : w.isPassable b) :
    w.Merge a b ∨ w.isPassable ⟨b.x + n * (drift ds).1, b.y + n * (drift ds).2⟩ := by
  induction n generalizing a b with
  | zero => exact Or.inr (by simpa using hb)
  | succ n ih =>
    have hds : w.Trail a (ds ++ []) b := by simpa using h
    rcases hds.advance with ⟨c, hc⟩ | ⟨fs, us, hlen, hus⟩
    · -- nobody is stopped: the robots now stand one trail further on
      rcases ih hc (hc.passable hb) with hmerge | hpass
      · left
        apply Merge.of_walk ds
        rwa [h.walk_eq, hc.walk_eq]
      · right
        obtain ⟨hx, hy⟩ := hc.eq_add_drift
        have hcx : c.x + n * (drift ds).1 = b.x + (n + 1 : Nat) * (drift ds).1 := by
          rw [hx]
          push_cast
          ring
        have hcy : c.y + n * (drift ds).2 = b.y + (n + 1 : Nat) * (drift ds).2 := by
          rw [hy]
          push_cast
          ring
        rwa [hcx, hcy] at hpass
    · -- the robot in front was stopped, and a shorter trail is left
      left
      have hpass : w.isPassable (w.walk b fs) := (Joined.walk w b fs).passable hb
      exact Merge.of_walk fs (hshort us (by simpa using hlen) _ _ hus hpass)

/-- No drift leads on for as many times as the grid is wide. -/
theorem drift_eq_zero {size x k : Int} (h0 : 0 ≤ x) (hx : x < size) (hk0 : 0 ≤ x + size * k)
    (hk : x + size * k < size) : k = 0 := by
  by_contra hne
  rcases lt_or_gt_of_ne hne with hneg | hpos
  · have hle : size * k ≤ size * (-1) := mul_le_mul_of_nonneg_left (by omega) (by omega)
    omega
  · have hle : size * 1 ≤ size * k := mul_le_mul_of_nonneg_left (by omega) (by omega)
    omega

/-- The two ends of a trail merge. -/
theorem Trail.merge {ds : List Direction} (h : w.Trail a ds b) (hb : w.isPassable b) :
    w.Merge a b := by
  -- induction on the length of the trail
  induction hn : ds.length using Nat.strong_induction_on generalizing ds a b with
  | _ n ih =>
    have hshort : ∀ us : List Direction, us.length < ds.length →
        ∀ a b, w.Trail a us b → w.isPassable b → w.Merge a b := by
      intro us hlen a b hus hpass
      exact ih us.length (hn ▸ hlen) hus hpass rfl
    rcases h.merge_or_drift hshort w.size.toNat hb with hmerge | hpass
    · exact hmerge
    · -- a drift that stays on the grid for so long is none, and the two stand in one cell
      have hin := inBounds_iff.1 (Bool.and_eq_true_iff.1 hb).1
      have hout := inBounds_iff.1 (Bool.and_eq_true_iff.1 hpass).1
      have hsize : ((w.size.toNat : Nat) : Int) = w.size := by omega
      simp only [hsize] at hout
      have hx := drift_eq_zero hin.1.1 hin.1.2 hout.1.1 hout.1.2
      have hy := drift_eq_zero hin.2.1 hin.2.2 hout.2.1 hout.2.2
      obtain ⟨hbx, hby⟩ := h.eq_add_drift
      have hab : a = b := by
        rw [Cell.ext_iff_int]
        omega
      exact ⟨[], by rw [hab]⟩

/-- Two robots in joined cells that follow the same directions can be led to one cell. -/
theorem Joined.merge (h : w.Joined a b) (ha : w.isPassable a) : w.Merge a b := by
  obtain ⟨ds, hds⟩ := h
  exact hds.merge (hds.passable ha)

end World

end GridRobot
