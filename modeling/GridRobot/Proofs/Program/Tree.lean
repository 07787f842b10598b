import GridRobot.Program.Check

/-!
# Programs as trees

Walking and checking treat the three kinds of blocks that hold a body alike, and a leaf is a node
without children. So both follow one equation on every node, and facts about whole trees are proved
from a node's children to the node (`Block.children_induction`). A node of a derived class has the
children of its base, and what is asked of it is asked of the base in the end
(`Block.base_induction`).

* `Program.check_valid_iff`: a program is valid exactly if all its top-level blocks are without
  issues and the budget affords them;
* `Program.Genuine`: no node of the program belongs to a derived class.
-/

namespace GridRobot.Block

/-! ## From bases to derived nodes -/

/-- Does the node belong to a class that is derived from another one? -/
def isDerived : Block → Bool
  | .derived .. => true
  | _ => false

/-- What holds of all nodes that are not derived, and passes from a base to what is derived from it,
holds of every node. -/
@[elab_as_elim]
theorem base_induction {motive : Block → Prop}
    (derived : ∀ name b, motive b → motive (.derived name b))
    (other : ∀ b : Block, b.isDerived = false → motive b) : ∀ b, motive b
  | .derived name b => derived name b (base_induction derived other b)
  | .move _ => other _ rfl
  | .collect => other _ rfl
  | .wait => other _ rfl
  | .breakOut => other _ rfl
  | .loop .. => other _ rfl
  | .conditional .. => other _ rfl
  | .function .. => other _ rfl
  | .foreign _ => other _ rfl

/-- What a node is derived from in the end; every other node is its own base. -/
def base : Block → Block
  | .derived _ b => b.base
  | b => b

@[simp] theorem children_derived (name : String) (b : Block) :
    (Block.derived name b).children = b.children := rfl

/-- A base is not derived itself. -/
theorem isDerived_base (b : Block) : b.base.isDerived = false := by
  induction b using base_induction with
  | derived name b ih => exact ih
  | other b hb =>
    cases b with
    | derived name b => cases hb
    | _ => rfl

theorem base_of_isDerived_false {b : Block} (h : b.isDerived = false) : b.base = b := by
  cases b with
  | derived name b => cases h
  | _ => rfl

/-- A derived node is a block if its base is one. -/
theorem isBlock_base (b : Block) : b.base.isBlock = b.isBlock := by
  induction b using base_induction with
  | derived name b ih => exact ih
  | other b hb => rw [base_of_isDerived_false hb]

/-- A block has the kind of its base. -/
theorem kind?_base {b : Block} (h : b.isBlock = true) : b.base.kind? = b.kind? := by
  induction b using base_induction with
  | derived name b ih =>
    have hb : b.isBlock = true := h
    rw [kind?, if_pos hb]
    exact ih hb
  | other b hb => rw [base_of_isDerived_false hb]

/-- A derived node has the settings of its base. -/
theorem settingFaults_base (b : Block) : b.base.settingFaults = b.settingFaults := by
  induction b using base_induction with
  | derived name b ih =>
    rw [settingFaults]
    exact ih
  | other b hb => rw [base_of_isDerived_false hb]

/-- A derived node has the body of its base. -/
theorem body?_base (b : Block) : b.base.body? = b.body? := by
  induction b using base_induction with
  | derived name b ih => exact ih
  | other b hb => rw [base_of_isDerived_false hb]

/-- What is no block has no kind, and the reason names its class. -/
theorem kind?_of_isBlock_false {b : Block} (h : b.isBlock = false) :
    b.kind? = .error (.notABlock b.sort) := by
  cases b with
  | foreign v => rfl
  | derived name b =>
    have hb : b.isBlock = false := h
    rw [kind?, hb]
    rfl
  | _ => cases h

/-! ## From children to parents -/

/-- A child is smaller than its parent. -/
theorem sizeOf_lt_of_mem_children {b c : Block} (h : c ∈ b.children) : sizeOf c < sizeOf b := by
  induction b using base_induction with
  | derived name b ih =>
    have hlt := ih h
    simp only [derived.sizeOf_spec]
    omega
  | other b hb =>
  cases b with
  | loop count body =>
    have hlt := List.sizeOf_lt_of_mem (show c ∈ body from h)
    simp only [loop.sizeOf_spec]
    omega
  | conditional condition body =>
    have hlt := List.sizeOf_lt_of_mem (show c ∈ body from h)
    simp only [conditional.sizeOf_spec]
    omega
  | function name body =>
    have hlt := List.sizeOf_lt_of_mem (show c ∈ body from h)
    simp only [function.sizeOf_spec]
    omega
  | move direction => cases h
  | collect => cases h
  | wait => cases h
  | breakOut => cases h
  | foreign v => cases h
  | derived name b => cases hb

/-- What passes from the children of a node to the node holds of every node. -/
@[elab_as_elim]
theorem children_induction {motive : Block → Prop}
    (node : ∀ b : Block, (∀ c ∈ b.children, motive c) → motive b) (b : Block) : motive b :=
  node b (fun c _hc => children_induction node c)
termination_by sizeOf b
decreasing_by exact sizeOf_lt_of_mem_children _hc

/-! ## One equation for every node -/

/-- A node comes first, and then what is below it. -/
theorem walk_eq (path : Path) (b : Block) :
    b.walk path = (path, b) :: walkFrom path 0 b.children := by
  induction b using base_induction with
  | derived name b ih => rw [walk, ih, children_derived, List.tail_cons]
  | other b hb =>
    cases b with
    | derived name b => cases hb
    | _ => simp [walk, children, body?, walkFrom]

/-- A node that is no block has no body. -/
theorem body?_of_isBlock_false {b : Block} (h : b.isBlock = false) : b.body? = none := by
  induction b using base_induction with
  | derived name b ih => exact ih h
  | other b hb =>
    cases b with
    | derived name b => cases hb
    | foreign v => rfl
    | _ => cases h

theorem children_of_isBlock_false {b : Block} (h : b.isBlock = false) : b.children = [] := by
  rw [children, body?_of_isBlock_false h]
  rfl

/-- Every node is itself with its own children as its body. -/
theorem withBody_children (b : Block) : b.withBody b.children = b := by
  induction b using base_induction with
  | derived name b ih => exact congrArg (Block.derived name) ih
  | other b hb =>
    cases b with
    | derived name b => cases hb
    | _ => rfl

/-- The faults of a derived block are those of its base. -/
theorem faults_derived (r : Rules) (depth : Nat) (name : String) {b : Block}
    (h : b.isBlock = true) : (Block.derived name b).faults r depth = b.faults r depth := by
  rw [faults, faults, kind?, if_pos h]
  rfl

/-- A node has its own issues first, and then, unless it is too deep, those of its children. -/
theorem issues_eq (r : Rules) (path : Path) (b : Block) :
    b.issues r path = (b.faults r path.length).map (.node path) ++
      if path.length ≤ maxDepth then issuesFrom r path 0 b.children else [] := by
  induction b using base_induction with
  | derived name b ih =>
    rw [issues]
    cases hblock : b.isBlock with
    | true => rw [if_pos rfl, ih, faults_derived r path.length name hblock, children_derived]
    | false =>
      rw [if_neg Bool.false_ne_true, children_derived, children_of_isBlock_false hblock]
      simp [faults, kind?, hblock, issuesFrom]
  | other b hb =>
    cases b with
    | derived name b => cases hb
    | _ => simp [issues, children, body?, issuesFrom]

/-! ## Nodes of a tree -/

/-- A node is among the nodes at and below it. -/
theorem mem_walk_self (path : Path) (b : Block) : (path, b) ∈ b.walk path := by
  rw [walk_eq]
  exact List.mem_cons_self

/-- What is below a block is met on the walk from it. -/
theorem mem_walk_of_mem_walkFrom {path : Path} {b : Block} {n : Path × Block}
    (h : n ∈ walkFrom path 0 b.children) : n ∈ b.walk path := by
  rw [walk_eq]
  exact List.mem_cons_of_mem _ h

/-- The nodes of siblings are those of each of them, at its own place. -/
theorem mem_walkFrom_iff {path : Path} {index : Nat} {bs : List Block} {n : Path × Block} :
    n ∈ walkFrom path index bs ↔ ∃ (i : Nat) (b : Block), bs[i]? = some b ∧
      n ∈ b.walk (path ++ [index + i]) := by
  induction bs generalizing index with
  | nil => simp [walkFrom]
  | cons b bs ih =>
    rw [walkFrom, List.mem_append, ih]
    constructor
    · rintro (hb | ⟨i, c, hc, hn⟩)
      · exact ⟨0, b, rfl, hb⟩
      · refine ⟨i + 1, c, hc, ?_⟩
        rwa [← Nat.add_assoc, Nat.add_right_comm]
    · rintro ⟨i, c, hc, hn⟩
      cases i with
      | zero =>
        cases hc
        exact Or.inl hn
      | succ i =>
        refine Or.inr ⟨i, c, hc, ?_⟩
        rwa [Nat.add_right_comm, Nat.add_assoc]

/-! ## Blocks without issues -/

/-- A node that is too deep has a fault. -/
theorem depth_le_of_faults {r : Rules} {depth : Nat} {b : Block} (h : b.faults r depth = []) :
    depth ≤ maxDepth := by
  apply Nat.le_of_not_lt
  intro hdeep
  unfold faults at h
  split at h <;> simp [hdeep] at h

/-- A block is without issues exactly if the node has no fault and its children are without
issues. -/
theorem issues_eq_nil_iff {r : Rules} {path : Path} {b : Block} :
    b.issues r path = [] ↔
      b.faults r path.length = [] ∧ issuesFrom r path 0 b.children = [] := by
  rw [issues_eq, List.append_eq_nil_iff, List.map_eq_nil_iff]
  constructor
  · rintro ⟨hf, hc⟩
    rw [if_pos (depth_le_of_faults hf)] at hc
    exact ⟨hf, hc⟩
  · rintro ⟨hf, hc⟩
    rw [if_pos (depth_le_of_faults hf)]
    exact ⟨hf, hc⟩

/-- Siblings are without issues exactly if each of them is, at its own place. -/
theorem issuesFrom_eq_nil_iff {r : Rules} {path : Path} {index : Nat} {bs : List Block} :
    issuesFrom r path index bs = [] ↔
      ∀ (i : Nat) (b : Block), bs[i]? = some b → b.issues r (path ++ [index + i]) = [] := by
  induction bs generalizing index with
  | nil => simp [issuesFrom]
  | cons b bs ih =>
    rw [issuesFrom, List.append_eq_nil_iff, ih]
    constructor
    · rintro ⟨hb, hbs⟩ i c hc
      cases i with
      | zero =>
        cases hc
        exact hb
      | succ i =>
        have hi := hbs i c hc
        rwa [Nat.add_right_comm] at hi
    · intro h
      refine ⟨h 0 b rfl, ?_⟩
      intro i c hc
      have hi := h (i + 1) c hc
      rwa [Nat.add_right_comm]

/-- No node at or below a block without issues has a fault. -/
theorem faults_of_mem_walk {r : Rules} {path : Path} {b : Block} (h : b.issues r path = [])
    {n : Path × Block} (hn : n ∈ b.walk path) : n.2.faults r n.1.length = [] := by
  induction b using children_induction generalizing path with
  | node b ih =>
    obtain ⟨hself, hchildren⟩ := issues_eq_nil_iff.1 h
    rw [walk_eq, List.mem_cons] at hn
    rcases hn with rfl | hn
    · exact hself
    · obtain ⟨i, c, hc, hn⟩ := mem_walkFrom_iff.1 hn
      exact ih c (List.mem_of_getElem? hc) (issuesFrom_eq_nil_iff.1 hchildren i c hc) hn

end GridRobot.Block

namespace GridRobot.Program

/-- No node of the program belongs to a derived class. -/
def Genuine (p : Program) : Prop := ∀ n ∈ p.walk, n.2.isDerived = false

instance (p : Program) : Decidable p.Genuine := inferInstanceAs (Decidable (∀ n ∈ p.walk, _))

/-- The budget has no issues if the rules afford the blocks. -/
theorem budgetIssues_eq_nil_iff {r : Rules} {p : Program} :
    p.budgetIssues r = [] ↔ r.affords p.length := by
  unfold budgetIssues Rules.affords
  cases r.limit with
  | none => simp
  | some limit =>
    by_cases h : limit.below (.int p.length) <;> simp [h]

/-- A program is valid exactly if its blocks are without issues and the budget affords them. -/
theorem check_valid_iff {r : Rules} {p : Program} :
    (p.check r).valid ↔ Block.issuesFrom r [] 0 p = [] ∧ r.affords p.length := by
  rw [← budgetIssues_eq_nil_iff]
  simp [Report.valid, check]

/-- No node of a valid program has a fault. -/
theorem faults_of_valid {r : Rules} {p : Program} (h : (p.check r).valid) {n : Path × Block}
    (hn : n ∈ p.walk) : n.2.faults r n.1.length = [] := by
  obtain ⟨i, b, hb, hn⟩ := Block.mem_walkFrom_iff.1 hn
  exact Block.faults_of_mem_walk (Block.issuesFrom_eq_nil_iff.1 (check_valid_iff.1 h).1 i b hb) hn

end GridRobot.Program
