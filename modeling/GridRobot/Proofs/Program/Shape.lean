import GridRobot.Proofs.Program.Grammar
import GridRobot.Proofs.Program.Tree

/-!
# Programs and their records

Writing a program and reading it are inverse to each other on the programs of good shape: every node
is a block, its settings are members or numbers or names as they should be, and no node is too deep.
Those are also the programs that reading can give.

* `Block.ofRecord_toRecord`: a block of good shape can be read back from its record;
* `Block.shaped_of_ofRecord`: what is read has good shape.
-/

namespace GridRobot

/-! ## Good shape -/

namespace Block

/-- Is the node, by itself, a block with settings of the right sort? A loop count may be any integer
and a function name anything that counts as true. -/
def hasShape : Block → Bool
  | .move (.known _) | .collect | .wait | .breakOut => true
  | .loop (.int _) _ => true
  | .conditional (.known _) _ => true
  | .function name _ => name.isTruthy
  | _ => false

/-- All nodes at and below a block at a depth have good shape, and none is too deep. -/
inductive Shaped : (depth : Nat) → Block → Prop
  | node {depth : Nat} {b : Block} (hdepth : depth ≤ maxDepth) (hshape : b.hasShape = true)
      (hchildren : ∀ c ∈ b.children, Shaped (depth + 1) c) : Shaped depth b

/-- Good shape is a matter of the nodes that a walk visits. -/
theorem shaped_iff_walk (path : Path) (b : Block) :
    Shaped path.length b ↔ ∀ n ∈ b.walk path, n.2.hasShape = true ∧ n.1.length ≤ maxDepth := by
  induction b using children_induction generalizing path with
  | node b ih =>
    rw [walk_eq, List.forall_mem_cons]
    constructor
    · rintro ⟨hdepth, hshape, hchildren⟩
      refine ⟨⟨hshape, hdepth⟩, ?_⟩
      intro n hn
      obtain ⟨i, c, hc, hn⟩ := mem_walkFrom_iff.1 hn
      have hmem := List.mem_of_getElem? hc
      refine (ih c hmem (path ++ [0 + i])).1 ?_ n hn
      rw [List.length_append, List.length_singleton]
      exact hchildren c hmem
    · rintro ⟨⟨hshape, hdepth⟩, hbelow⟩
      refine .node hdepth hshape ?_
      intro c hmem
      obtain ⟨i, hc⟩ := List.mem_iff_getElem?.1 hmem
      have hchild := (ih c hmem (path ++ [0 + i])).2
        (fun n hn => hbelow n (mem_walkFrom_iff.2 ⟨i, c, hc, hn⟩))
      rwa [List.length_append, List.length_singleton] at hchild

end Block

/-- Every node of the program has good shape, and none is too deep. -/
def Program.WellShaped (p : Program) : Prop :=
  ∀ n ∈ p.walk, n.2.hasShape = true ∧ n.1.length ≤ Block.maxDepth

instance (p : Program) : Decidable p.WellShaped := inferInstanceAs (Decidable (∀ n ∈ p.walk, _))

/-- A program is well shaped if all its blocks are, down to their last nodes. -/
theorem Program.wellShaped_iff {p : Program} : p.WellShaped ↔ ∀ b ∈ p, Block.Shaped 1 b := by
  unfold WellShaped walk
  constructor
  · intro h b hb
    obtain ⟨i, hi⟩ := List.mem_iff_getElem?.1 hb
    refine (Block.shaped_iff_walk [0 + i] b).2 ?_
    intro n hn
    exact h n (Block.mem_walkFrom_iff.2 ⟨i, b, hi, hn⟩)
  · intro h n hn
    obtain ⟨i, b, hi, hn⟩ := Block.mem_walkFrom_iff.1 hn
    exact (Block.shaped_iff_walk [0 + i] b).1 (h b (List.mem_of_getElem? hi)) n hn

namespace Block

open Grammar

/-! ## What is read -/

theorem isTruthy_functionName (data : Value) : (functionName data).isTruthy = true := by
  unfold functionName
  dsimp only
  split
  · assumption
  · split
    · assumption
    · decide

/-- A container that is made from a record has a shape, and the body that it was given. -/
theorem container_shape {k : Kind} {data : Value} {body : List Block} {b : Block}
    (hholds : k.isContainer = true) (h : container k data body = .ok b) :
    b.hasShape = true ∧ b.children = body := by
  rcases container_eq_ok hholds h with ⟨n, -, -, rfl⟩ | ⟨c, -, rfl⟩ | ⟨-, rfl⟩
  · exact ⟨rfl, rfl⟩
  · exact ⟨rfl, rfl⟩
  · exact ⟨isTruthy_functionName data, rfl⟩

theorem ofKind_shape (k : Kind) : (ofKind k).hasShape = true ∧ (ofKind k).children = [] := by
  cases k <;> exact ⟨rfl, rfl⟩

/-- What is read has good shape. -/
theorem shaped_of_ofRecord {room depth : Nat} (hroom : room + depth = maxDepth + 1) {data : Value}
    {b : Block} (h : ofRecord room data = .ok b) : Shaped depth b := by
  induction room generalizing depth data b with
  | zero => cases h
  | succ room ih =>
    obtain ⟨k, -, ⟨-, rfl⟩ | ⟨hholds, vs, body, -, hread, hcontainer⟩⟩ :=
      ofRecord_succ_eq_ok_iff.1 h
    · obtain ⟨hshape, hnone⟩ := ofKind_shape k
      refine .node (by omega) hshape ?_
      rw [hnone]
      exact fun c hc => absurd hc List.not_mem_nil
    · obtain ⟨hshape, hchildren⟩ := container_shape hholds hcontainer
      refine .node (by omega) hshape ?_
      rw [hchildren]
      intro c hc
      obtain ⟨i, hi⟩ := List.mem_iff_getElem?.1 hc
      obtain ⟨v, -, hv⟩ := exists_left_of_forall₂ hread hi
      exact ih (by omega) hv

/-! ## What is written -/

/-- Keys are looked up by their names. -/
theorem lookup_ofString (key name : String) (v : Value) (fields : List (Text × Value)) :
    List.lookup (Text.ofString key) ((Text.ofString name, v) :: fields) =
      if key = name then some v else fields.lookup (Text.ofString key) := by
  rw [List.lookup_cons]
  by_cases h : key = name
  · simp [h]
  · have hne : (Text.ofString key == Text.ofString name) = false := by
      simpa [Text.ofString_inj] using h
    simp [hne, h]

theorem spells_kind (k : Kind) : Spells (.text k.name) k.name := by
  cases k <;> decide

theorem spells_condition (c : Condition) : Spells (.text c.name) c.name := by
  cases c <;> decide

/-- A record that was written for a kind is read as one of that kind. -/
theorem ofKind_recordOf (k : Kind) (settings : List (Text × Value)) :
    OfKind (recordOf k settings) k := by
  refine ⟨.text k.name, ?_, ?_, spells_kind k⟩
  · rw [recordOf, Value.field?, lookup_ofString, if_pos rfl]
  · cases k <;> decide

/-- Blocks that can be read back from their records have a list of records. -/
theorem exists_records {read : Value → Except RecordError Block} {bs : List Block}
    (h : ∀ b ∈ bs, ∃ v, b.toRecord = .ok v ∧ read v = .ok b) :
    ∃ vs, toRecords bs = .ok vs ∧ List.Forall₂ (fun v b => read v = .ok b) vs bs := by
  induction bs with
  | nil => exact ⟨[], by rw [toRecords], .nil⟩
  | cons b bs ih =>
    obtain ⟨v, hv, hread⟩ := h b List.mem_cons_self
    obtain ⟨vs, hvs, hreads⟩ := ih (fun c hc => h c (List.mem_cons_of_mem b hc))
    refine ⟨v :: vs, ?_, .cons hread hreads⟩
    rw [toRecords, hv, hvs]
    rfl

/-- A leaf that was written is read back. -/
theorem ofRecord_leaf (room : Nat) {k : Kind} (hleaf : k.isContainer = false) :
    ofRecord (room + 1) (recordOf k []) = .ok (ofKind k) :=
  ofRecord_succ_eq_ok_iff.2 ⟨k, ofKind_recordOf k [], Or.inl ⟨hleaf, rfl⟩⟩

/-- A container is read back from its record if its children are and its setting is. -/
theorem ofRecord_container {room : Nat} {k : Kind} {name : String} {setting : Value}
    {vs : List Value} {b : Block} (hholds : k.isContainer = true) (hname : name ≠ "children")
    (hread : List.Forall₂ (fun v c => ofRecord room v = .ok c) vs b.children)
    (hsetting : container k (recordOf k [(name, setting), ("children", .list vs)]) b.children =
      .ok b) :
    ofRecord (room + 1) (recordOf k [(name, setting), ("children", .list vs)]) = .ok b := by
  have hbody : Body (recordOf k [(name, setting), ("children", .list vs)]) vs := by
    refine Or.inr ?_
    rw [recordOf, Value.field?, lookup_ofString, if_neg (by decide), lookup_ofString,
      if_neg hname.symm, lookup_ofString, if_pos rfl]
  exact ofRecord_succ_eq_ok_iff.2 ⟨k, ofKind_recordOf k _,
    Or.inr ⟨hholds, vs, b.children, hbody, hread, hsetting⟩⟩

/-- The setting of a container's record. -/
theorem field?_recordOf (k : Kind) {name : String} (setting : Value) (fields : List (Text × Value))
    (hname : name ≠ "type") :
    (recordOf k ((name, setting) :: fields)).field? name = some setting := by
  rw [recordOf, Value.field?, lookup_ofString, if_neg hname, lookup_ofString, if_pos rfl]

/-- A block of good shape can be read back from its record. -/
theorem ofRecord_toRecord {room depth : Nat} (hroom : room + depth = maxDepth + 1) {b : Block}
    (h : Shaped depth b) : ∃ v, b.toRecord = .ok v ∧ ofRecord room v = .ok b := by
  induction h generalizing room with
  | @node depth b hdepth hshape _ ih =>
    obtain ⟨room, rfl⟩ : ∃ n, room = n + 1 := ⟨room - 1, by omega⟩
    have hsmall (c : Block) (hc : c ∈ b.children) :
        ∃ v, c.toRecord = .ok v ∧ ofRecord room v = .ok c := ih c hc (by omega)
    -- the children have records that are read back, so the record of the block does too
    obtain ⟨vs, hvs, hread⟩ := exists_records hsmall
    cases b with
    | move direction =>
      cases direction with
      | known d =>
        refine ⟨_, by rw [toRecord], ?_⟩
        cases d <;> exact ofRecord_leaf room rfl
      | other v => cases hshape
    | collect => exact ⟨_, by rw [toRecord], ofRecord_leaf room rfl⟩
    | wait => exact ⟨_, by rw [toRecord], ofRecord_leaf room rfl⟩
    | breakOut => exact ⟨_, by rw [toRecord], ofRecord_leaf room rfl⟩
    | loop count body =>
      cases count with
      | int n =>
        have hvs : toRecords body = .ok vs := hvs
        refine ⟨_, by rw [toRecord, hvs]; rfl, ofRecord_container rfl (by decide) hread ?_⟩
        rw [container, field?_recordOf _ _ _ (by decide)]
        rfl
      | _ => cases hshape
    | conditional condition body =>
      cases condition with
      | known c =>
        have hvs : toRecords body = .ok vs := hvs
        refine ⟨_, by rw [toRecord, hvs]; rfl, ofRecord_container rfl (by decide) hread ?_⟩
        rw [container, field?_recordOf _ _ _ (by decide)]
        dsimp only
        rw [conditionNamed?_eq_some_iff.2 (spells_condition c)]
        rfl
      | other v => cases hshape
    | function name body =>
      have hvs : toRecords body = .ok vs := hvs
      refine ⟨_, by rw [toRecord, hvs]; rfl, ofRecord_container rfl (by decide) hread ?_⟩
      have hname : name.isTruthy = true := hshape
      rw [container, functionName, field?_recordOf _ _ _ (by decide)]
      simp [hname]
      rfl
    | foreign v => cases hshape
    | derived name base => cases hshape

end Block

namespace Program

/-- A program of good shape can be read back from its records. -/
theorem ofRecords_toRecords {p : Program} (h : p.WellShaped) :
    ∃ data, p.toRecords = .ok data ∧ ofRecords data = .ok p := by
  have hblock (b : Block) (hb : b ∈ p) := Block.ofRecord_toRecord rfl (wellShaped_iff.1 h b hb)
  obtain ⟨vs, hvs, hread⟩ := Block.exists_records hblock
  refine ⟨.list vs, ?_, ofRecords_eq_ok_iff.2 ⟨vs, rfl, hread⟩⟩
  rw [toRecords, hvs]
  rfl

/-- What can be read is well shaped. -/
theorem wellShaped_of_ofRecords {data : Value} {p : Program} (h : ofRecords data = .ok p) :
    p.WellShaped := by
  obtain ⟨vs, -, hread⟩ := ofRecords_eq_ok_iff.1 h
  rw [wellShaped_iff]
  intro b hb
  obtain ⟨i, hi⟩ := List.mem_iff_getElem?.1 hb
  obtain ⟨v, -, hv⟩ := Block.exists_left_of_forall₂ hread hi
  exact Block.shaped_of_ofRecord rfl hv

/-- No node of good shape belongs to a derived class. -/
theorem WellShaped.genuine {p : Program} (h : p.WellShaped) : p.Genuine := by
  intro n hn
  have hshape := (h n hn).1
  cases hnode : n.2 with
  | derived name b =>
    rw [hnode] at hshape
    cases hshape
  | _ => rfl

/-- The records of a program are lossless, and reading brings records into that form. A program of
good shape can be read back from its records, every program that is read has good shape, and so
what is read can be written and read again without a change. -/
theorem records_lossless :
    (∀ p : Program, p.WellShaped → ∃ data, p.toRecords = .ok data ∧ ofRecords data = .ok p) ∧
      (∀ data p, ofRecords data = .ok p → p.WellShaped) ∧
      ∀ data p, ofRecords data = .ok p →
        ∃ data', p.toRecords = .ok data' ∧ ofRecords data' = .ok p := by
  refine ⟨?_, ?_, ?_⟩
  · intro p h
    exact ofRecords_toRecords h
  · intro data p h
    exact wellShaped_of_ofRecords h
  · intro data p h
    exact ofRecords_toRecords (wellShaped_of_ofRecords h)

/-- A program with settings that no level would take, but of good shape. -/
def oddSettings : Program := [
  .loop (.int (-12)) [.conditional (.known .wallAhead) [.move (.known .left), .breakOut]],
  .function (.list [.bool false]) [.loop (.int 0) [], .collect]]

/-- Records of a loop and a function that use what reading is lenient about. -/
def looseRecords : Value := .list [
  .record [("children", .list [.record [("type", .text "wait"), ("value", .null)]]),
    ("value", .int 3), ("type", .text "Loop")],
  .record [("type", .text "function"), ("name", .text ""), ("functionName", .text "Go")]]

/-- Settings that no level allows come back as they were, and so does what was read from loose
records. -/
theorem records_lossless_oddSettings :
    (oddSettings.WellShaped ∧
      ∃ data, oddSettings.toRecords = .ok data ∧ ofRecords data = .ok oddSettings) ∧
    ∃ p, ofRecords looseRecords = .ok p ∧ p.WellShaped ∧
      ∃ data, p.toRecords = .ok data ∧ ofRecords data = .ok p := by
  have hshape : oddSettings.WellShaped := by decide
  have hread : ofRecords looseRecords =
      .ok [.loop (.int 3) [.wait], .function (.text "Go") []] := by decide +kernel
  exact ⟨⟨hshape, records_lossless.1 _ hshape⟩, _, hread, records_lossless.2.1 _ _ hread,
    records_lossless.2.2 _ _ hread⟩

end Program

end GridRobot
