import GridRobot.Proofs.Program.Splice

/-!
# Gaps in a program

A gap is a program from which one node is missing. Filled with a block it is a program again, and
two blocks in the same gap make programs that agree everywhere else. So whatever is said of the
nodes of a program, or of their number, carries over from one block in a gap to another.

* `Program.everywhere_iff`, `Program.size_cons`: what holds of all nodes, and their number, level by
  level;
* `Gap.Everywhere.refill`: what holds everywhere still does with another block in a gap;
* `Gap.size_fill`: another block in a gap changes the number of nodes by its own nodes only.
-/

namespace GridRobot

/-! ## Bodies -/

namespace Block

variable {b : Block} {body : List Block}

/-- The body of a container is what is below it. -/
theorem children_of_body? (h : b.body? = some body) : b.children = body := by
  rw [children, h, Option.getD_some]

/-- A block that holds a body holds the body that it is given. -/
theorem body?_withBody (h : b.body?.isSome) : (b.withBody body).body? = some body := by
  induction b using base_induction with
  | derived name b ih => exact ih h
  | other b hb =>
    cases b with
    | loop | conditional | function => rfl
    | move | collect | wait | breakOut | foreign => cases h
    | derived => cases hb

theorem children_withBody (h : b.body?.isSome) : (b.withBody body).children = body :=
  children_of_body? (body?_withBody h)

/-- To give a block the body that it has changes nothing. -/
theorem withBody_of_body? (h : b.body? = some body) : b.withBody body = b := by
  induction b using base_induction with
  | derived name b ih => exact congrArg (Block.derived name) (ih h)
  | other b hb =>
    cases b with
    | loop | conditional | function =>
      cases h
      rfl
    | move | collect | wait | breakOut | foreign => rfl
    | derived => cases hb

/-- The last body that a block is given is the one that counts. -/
theorem withBody_withBody (b : Block) (body body' : List Block) :
    (b.withBody body).withBody body' = b.withBody body' := by
  induction b using base_induction with
  | derived name b ih => exact congrArg (Block.derived name) ih
  | other b hb =>
    cases b with
    | derived => cases hb
    | _ => rfl

end Block

/-! ## All nodes of a program -/

namespace Program

variable {P : Block → Prop} {p q : Program} {b : Block}

/-- Every node of the program has the property. -/
def Everywhere (P : Block → Prop) (p : Program) : Prop := ∀ n ∈ p.walk, P n.2

/-- What holds everywhere holds of the top-level blocks and everywhere below them. -/
theorem everywhere_iff : p.Everywhere P ↔ ∀ b ∈ p, P b ∧ Everywhere P b.children := by
  constructor
  · intro h b hb
    rcases List.mem_iff_getElem?.1 hb with ⟨i, hi⟩
    refine ⟨h ([i], b) (mem_walk_iff.2 ⟨i, [], b, rfl, hi, Or.inl ⟨rfl, rfl⟩⟩), ?_⟩
    rintro ⟨path, c⟩ hc
    exact h (i :: path, c) (mem_walk_iff.2 ⟨i, path, b, rfl, hi, Or.inr hc⟩)
  · rintro h ⟨path, c⟩ hc
    rcases mem_walk_iff.1 hc with ⟨i, rest, b, -, hi, hself | hbelow⟩
    · rw [← hself.2]
      exact (h b (List.mem_of_getElem? hi)).1
    · exact (h b (List.mem_of_getElem? hi)).2 (rest, c) hbelow

theorem everywhere_nil : Everywhere P [] := by
  rw [everywhere_iff]
  intro b hb
  cases hb

/-- What holds everywhere holds of the first block, below it, and behind it. -/
theorem everywhere_cons :
    Everywhere P (b :: p) ↔ (P b ∧ Everywhere P b.children) ∧ Everywhere P p := by
  rw [everywhere_iff, List.forall_mem_cons, ← everywhere_iff]

theorem everywhere_singleton : Everywhere P [b] ↔ P b ∧ Everywhere P b.children := by
  rw [everywhere_cons, and_iff_left everywhere_nil]

theorem everywhere_append : Everywhere P (p ++ q) ↔ Everywhere P p ∧ Everywhere P q := by
  rw [everywhere_iff, List.forall_mem_append, ← everywhere_iff, ← everywhere_iff]

/-! ## The number of nodes -/

/-- Where siblings stand does not matter for the number of their nodes. -/
theorem length_walkFrom (path : Path) (index : Nat) (p : Program) :
    (Block.walkFrom path index p).length = p.size := by
  have hblock (path : Path) (b : Block) : (b.walk path).length = (b.walk []).length := by
    rw [← List.append_nil path, Block.walk_append, List.length_map]
  have hfrom (path path' : Path) (index index' : Nat) :
      (Block.walkFrom path index p).length = (Block.walkFrom path' index' p).length := by
    induction p generalizing index index' with
    | nil => rfl
    | cons b p ih =>
      rw [Block.walkFrom, Block.walkFrom, List.length_append, List.length_append,
        ih (index + 1) (index' + 1), hblock, hblock (path' ++ [index'])]
  exact hfrom path [] index 0

theorem size_cons (b : Block) (p : Program) : size (b :: p) = size b.children + 1 + size p := by
  rw [size, walk, Block.walkFrom, List.length_append, Block.walk_eq, List.length_cons,
    length_walkFrom, length_walkFrom]

/-- Programs one after the other have as many nodes as both of them. -/
theorem size_append (p q : Program) : size (p ++ q) = size p + size q := by
  induction p with
  | nil => exact (Nat.zero_add _).symm
  | cons b p ih => rw [List.cons_append, size_cons, size_cons, ih, ← Nat.add_assoc]

theorem size_singleton (b : Block) : size [b] = size b.children + 1 := size_cons b []

end Program

/-! ## Gaps -/

/-- A program from which one node is missing. -/
inductive Gap where
  /-- The node is missing at the top level, between other blocks. -/
  | among (front back : List Block)
  /-- It is missing in the body of a top-level block; what that body was does not matter. -/
  | within (front : List Block) (holder : Block) (holds : holder.body?.isSome) (back : List Block)
      (gap : Gap)

namespace Gap

variable {P : Block → Prop} {gap : Gap} {b c : Block}

/-- The program with a block in the gap. -/
def fill : Gap → Block → Program
  | among front back, b => front ++ b :: back
  | within front holder _ back gap, b => front ++ holder.withBody (gap.fill b) :: back

/-- Which block stands in a gap does not matter for the number of top-level blocks. -/
theorem length_fill (gap : Gap) (b c : Block) :
    (gap.fill b).length = (gap.fill c).length := by
  cases gap with
  | among front back => simp [fill]
  | within front holder holds back gap => simp [fill]

/-- What holds everywhere holds of what fills a gap. -/
theorem Everywhere.of_fill (h : (gap.fill b).Everywhere P) : Program.Everywhere P [b] := by
  induction gap with
  | among front back =>
    rw [fill, Program.everywhere_append, Program.everywhere_cons,
      ← Program.everywhere_singleton] at h
    exact h.2.1
  | within front holder holds back gap ih =>
    rw [fill, Program.everywhere_append, Program.everywhere_cons,
      Block.children_withBody holds] at h
    exact ih h.2.1.2

/-- What holds everywhere, and does not look at bodies, still does with another block in a gap if
it holds everywhere in that block. -/
theorem Everywhere.refill (hP : ∀ b body, P b → P (b.withBody body))
    (h : (gap.fill b).Everywhere P) (hc : Program.Everywhere P [c]) :
    (gap.fill c).Everywhere P := by
  induction gap with
  | among front back =>
    rw [fill, Program.everywhere_append, Program.everywhere_cons] at h ⊢
    exact ⟨h.1, Program.everywhere_singleton.1 hc, h.2.2⟩
  | within front holder holds back gap ih =>
    rw [fill, Program.everywhere_append, Program.everywhere_cons,
      Block.children_withBody holds] at h ⊢
    rcases h with ⟨hfront, ⟨hholder, hbody⟩, hback⟩
    refine ⟨hfront, ⟨?_, ih hbody⟩, hback⟩
    -- the holder is the same block with another body
    have hother := hP _ (gap.fill c) hholder
    rwa [Block.withBody_withBody] at hother

/-- Two blocks in a gap make a difference of their own nodes. -/
theorem size_fill (gap : Gap) (b c : Block) :
    (gap.fill b).size + Program.size [c] = (gap.fill c).size + Program.size [b] := by
  induction gap with
  | among front back =>
    simp only [fill, Program.size_append, Program.size_cons]
    omega
  | within front holder holds back gap ih =>
    rw [fill, fill, Program.size_append, Program.size_append, Program.size_cons _ back,
      Program.size_cons _ back, Block.children_withBody holds, Block.children_withBody holds]
    omega

end Gap

end GridRobot
