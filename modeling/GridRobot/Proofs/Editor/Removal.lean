import GridRobot.Proofs.Editor.Edits

/-!
# Removing a child

A child is removed by joining what stands in front of it and what stands behind it. Where it stands
is given by an index, which may count from the end, and what stands behind it begins at the next
index. The index after `-1` is `0`, so for the last child, if it is called by that index, the whole
body comes again instead of nothing.

* `Gap.ReachedBy.parent`: a route with more than one index leads to a child of the block above it;
* `Editor.without_of_ne`, `Editor.without_last`: what is left of a body.
-/

namespace GridRobot

variable {ι : Type} [RouteIndex ι]

open Route in
/-- A route with more than one index leads to a child of the block to which it leads without the
last index. -/
theorem Gap.ReachedBy.parent {gap : Gap} {above : Route ι} {last : ι}
    (h : gap.ReachedBy (above ++ [last])) (habove : above ≠ []) (b : Block) :
    ∃ (outer : Gap) (parent : Block) (front back : List Block), gap.fill b = outer.fill parent ∧
      outer.ReachedBy above ∧ parent.body? = some (front ++ b :: back) ∧
      Means last (front ++ b :: back).length front.length := by
  rcases h.above habove with
    ⟨outer, holder, front, back, inner, hholds, houter, hmeans, hfill, hinner⟩
  rw [hinner rfl] at hfill
  refine ⟨outer, holder.withBody (front ++ b :: back), front, back, hfill b, houter,
    Block.body?_withBody hholds, ?_⟩
  rwa [List.length_append, List.length_cons]

namespace Editor

/-! ## What is left of a body -/

variable {front back : List Block} {b : Block} {n : Int}

/-- What a slice keeps in front of a place are the blocks in front of it. -/
theorem frontOf_eq
    (hplace : n = front.length ∨ n = front.length - ↑(front ++ b :: back).length) :
    frontOf n (front ++ b :: back) = front := by
  have hlength : (front ++ b :: back).length = front.length + (back.length + 1) := by simp
  unfold frontOf
  rcases hplace with rfl | rfl
  · rw [if_neg (by omega), Int.toNat_natCast, List.take_left]
  · rw [if_pos (by omega)]
    have hcount : (↑(front ++ b :: back).length +
        ((front.length : Int) - ↑(front ++ b :: back).length)).toNat = front.length := by omega
    rw [hcount, List.take_left]

/-- What stands behind a child begins at the next index, unless the child was called by the index
`-1`. -/
theorem backFrom_eq (hn : n ≠ -1)
    (hplace : n = front.length ∨ n = front.length - ↑(front ++ b :: back).length) :
    backFrom (n + 1) (front ++ b :: back) = back := by
  have hlength : (front ++ b :: back).length = front.length + (back.length + 1) := by simp
  have hdrop : (front ++ b :: back).drop (front.length + 1) = back := by
    rw [List.drop_append, List.drop_of_length_le (Nat.le_succ _), Nat.add_sub_cancel_left]
    rfl
  unfold backFrom
  rcases hplace with rfl | rfl
  · rw [if_neg (by omega)]
    exact hdrop
  · rw [if_pos (by omega)]
    have hcount : (↑(front ++ b :: back).length +
        ((front.length : Int) - ↑(front ++ b :: back).length + 1)).toNat = front.length + 1 := by
      omega
    rw [hcount, hdrop]

/-- A body without a child has all other children once and in order, unless the child was called by
the index `-1`. -/
theorem without_of_ne (hn : n ≠ -1)
    (hplace : n = front.length ∨ n = front.length - ↑(front ++ b :: back).length) :
    without n (front ++ b :: back) = front ++ back := by
  rw [without, frontOf_eq hplace, backFrom_eq hn hplace]

/-- The index `-1` calls the last child, and leaves the other ones in front of the whole body. -/
theorem without_last (hplace : (-1 : Int) = front.length ∨
      (-1 : Int) = front.length - ↑(front ++ b :: back).length) :
    back = [] ∧ without (-1) (front ++ b :: back) = front ++ (front ++ [b]) := by
  have hback : back = [] := by
    rw [List.length_append, List.length_cons] at hplace
    apply List.eq_nil_of_length_eq_zero
    omega
  subst hback
  refine ⟨rfl, ?_⟩
  rw [without, frontOf_eq hplace]
  rfl

/-! ## Removing -/

/-- A child that a route leads to is removed: it is the answer, the body of its parent loses that
one place, and the rest of the program is what it was. Only where the child was called by the index
`-1` nothing is lost; then its siblings stand in the body once more, in front of it. -/
theorem removeChild_removes_one {e : Editor} {route : Route} {b : Block}
    (hlong : 2 ≤ route.length) (hget : e.get route = .ok b) :
    ∃ (gap : Gap) (parent : Block) (front back : List Block) (last : Int),
      e.blocks = gap.fill parent ∧ gap.ReachedBy route.dropLast ∧
      parent.body? = some (front ++ b :: back) ∧ route.getLast? = some last ∧
      Route.Means last (front ++ b :: back).length front.length ∧
      (e.removeChild route).1 = .ok b ∧
      (last ≠ -1 →
        (e.removeChild route).2 = { e with blocks := gap.fill (parent.withBody (front ++ back)) } ∧
        (e.removeChild route).2.get route.dropLast = .ok (parent.withBody (front ++ back)) ∧
        (parent.withBody (front ++ back)).body? = some (front ++ back) ∧
        (e.removeChild route).2.blocks.size + Program.size [b] = e.blocks.size) ∧
      (last = -1 → back = [] ∧
        (e.removeChild route).2 =
          { e with blocks := gap.fill (parent.withBody (front ++ (front ++ [b]))) }) := by
  rcases route.eq_nil_or_concat with rfl | ⟨above, last, rfl⟩
  · cases hlong
  · rw [List.concat_eq_append] at hlong hget ⊢
    have habove : above ≠ [] := by
      rintro rfl
      exact Nat.not_succ_le_self 1 hlong
    rcases get_eq_ok_iff.1 hget with ⟨inner, hinner, hreached⟩
    rcases hreached.parent habove b with
      ⟨gap, parent, front, back, hfill, houter, hbody, hmeans⟩
    rw [hfill] at hinner
    have hdone := removeChild_of_reached hinner houter hbody rfl hmeans
    have hholds : parent.body?.isSome := Option.isSome_of_mem hbody
    rcases hmeans with ⟨n, hn, hfits, hlt, hplace⟩
    cases hn
    rw [List.dropLast_concat, hdone]
    refine ⟨gap, parent, front, back, last, hinner, houter, hbody, List.getLast?_concat,
      ⟨last, rfl, hfits, hlt, hplace⟩, rfl, ?_, ?_⟩
    · -- the child is gone: what its parent holds before and after it closes up
      intro hlast
      dsimp only
      rw [without_of_ne hlast hplace]
      refine ⟨rfl, get_eq_ok_iff.2 ⟨gap, rfl, houter⟩, Block.body?_withBody hholds, ?_⟩
      -- only the children of the parent have changed
      have hsize := gap.size_fill parent (parent.withBody (front ++ back))
      rw [Program.size_singleton, Program.size_singleton, Block.children_withBody hholds,
        Block.children_of_body? hbody, Program.size_append, Program.size_append,
        Program.size_cons] at hsize
      rw [hinner, Program.size_singleton]
      omega
    · -- the slice behind the index -1 starts at 0, so the children before it come twice
      rintro rfl
      rcases without_last hplace with ⟨hback, hleft⟩
      refine ⟨hback, ?_⟩
      dsimp only
      rw [hleft]

/-- A loop in a function, in the middle of the program, and the route to the second of its three
children, counted from the end. -/
theorem removeChild_removes_one_nested :
    let e : Editor := { blocks := [.wait, .function (.text "f") [
      .collect, .loop (.int 2) [.move (.known .up), .move (.known .down), .move (.known .left)]]] }
    e.get ([-1, 1, -2] : Route) = .ok (.move (.known .down)) ∧
      (e.removeChild ([-1, 1, -2] : Route)).1 = .ok (.move (.known .down)) ∧
      ∃ (gap : Gap) (parent : Block) (front back : List Block), e.blocks = gap.fill parent ∧
        parent.body? = some (front ++ .move (.known .down) :: back) ∧
        (e.removeChild ([-1, 1, -2] : Route)).2 =
          { e with blocks := gap.fill (parent.withBody (front ++ back)) } ∧
        (e.removeChild ([-1, 1, -2] : Route)).2.blocks.size + 1 = e.blocks.size := by
  intro e
  have hget : e.get ([-1, 1, -2] : Route) = .ok (.move (.known .down)) := rfl
  rcases removeChild_removes_one (by decide) hget with
    ⟨gap, parent, front, back, last, hblocks, -, hbody, hlast, -, hanswer, hremoved, -⟩
  cases hlast
  rcases hremoved (by decide) with ⟨hleft, -, -, hsize⟩
  exact ⟨hget, hanswer, gap, parent, front, back, hblocks, hbody, hleft, hsize⟩

/-- The index `-1` leads to the last child and has it answered, and yet the body is longer then: the
child is still there, and so is its sibling, twice. -/
theorem removeChild_keeps_last :
    let e : Editor := { blocks := [.loop (.int 2) [.move (.known .up), .move (.known .down)]] }
    e.get ([0, -1] : Route) = .ok (.move (.known .down)) ∧
      (e.removeChild ([0, -1] : Route)).1 = .ok (.move (.known .down)) ∧
      (e.removeChild ([0, -1] : Route)).2.blocks = [.loop (.int 2) [
        .move (.known .up), .move (.known .up), .move (.known .down)]] ∧
      (e.removeChild ([0, -1] : Route)).2.blocks ≠ [.loop (.int 2) [.move (.known .up)]] ∧
      (e.removeChild ([0, -1] : Route)).2.blocks.size + Program.size [.move (.known .down)] ≠
        e.blocks.size := by
  refine ⟨rfl, rfl, rfl, ?_, ?_⟩
  · decide
  · decide

end Editor

end GridRobot
