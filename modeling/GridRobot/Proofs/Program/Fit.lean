import GridRobot.Proofs.Program.Shape

/-!
# Programs that fit

Of what a check can find, little is left for a program that was read from records: it has good
shape, so only the palette, the range of loop counts and the budget can be at fault. Those can be
looked up in the records themselves.

* `Program.concernsFit_of_mem_issues`: nothing else is wrong with a program that was read;
* `Program.check_ofRecords_eq_nil_iff`: a program that was read is without issues exactly if its
  records suit the rules.
-/

namespace GridRobot

/-! ## Issues and nodes -/

namespace Block

variable {r : Rules} {path : Path} {b : Block}

/-- An issue among siblings is one of theirs. -/
theorem mem_issuesFrom {index : Nat} {bs : List Block} {issue : Issue}
    (h : issue ∈ issuesFrom r path index bs) :
    ∃ (i : Nat) (b : Block), bs[i]? = some b ∧ issue ∈ b.issues r (path ++ [index + i]) := by
  induction bs generalizing index with
  | nil => simp [issuesFrom] at h
  | cons b bs ih =>
    rw [issuesFrom, List.mem_append] at h
    rcases h with hb | hbs
    · exact ⟨0, b, rfl, hb⟩
    · obtain ⟨i, c, hc, hissue⟩ := ih hbs
      refine ⟨i + 1, c, hc, ?_⟩
      rwa [← Nat.add_assoc, Nat.add_right_comm]

/-- Every issue is a fault of a node. -/
theorem exists_node_of_mem_issues {issue : Issue} (h : issue ∈ b.issues r path) :
    ∃ n ∈ b.walk path, ∃ f ∈ n.2.faults r n.1.length, issue = .node n.1 f := by
  induction b using children_induction generalizing path with
  | node b ih =>
    rw [issues_eq, List.mem_append] at h
    rcases h with hself | hbelow
    · obtain ⟨f, hf, rfl⟩ := List.mem_map.1 hself
      exact ⟨_, mem_walk_self path b, f, hf, rfl⟩
    · split at hbelow
      · obtain ⟨i, c, hc, hissue⟩ := mem_issuesFrom hbelow
        obtain ⟨n, hn, hfault⟩ := ih c (List.mem_of_getElem? hc) hissue
        exact ⟨n, mem_walk_of_mem_walkFrom (mem_walkFrom_iff.2 ⟨i, c, hc, hn⟩), hfault⟩
      · exact absurd hbelow List.not_mem_nil

/-! ## One node -/

/-- A block that has a kind and is not too deep can only lack in the palette and in its settings. -/
theorem faults_of_kind {depth : Nat} (hdepth : depth ≤ maxDepth) {k : Kind} (h : b.kind? = .ok k) :
    b.faults r depth = paletteFaults r k ++ b.settingFaults := by
  rw [faults, h]
  exact if_neg (Nat.not_lt.2 hdepth)

theorem paletteFaults_eq_nil_iff {k : Kind} : paletteFaults r k = [] ↔ r.allows k = true := by
  unfold paletteFaults
  split <;> simp_all

theorem inRange_iff {n : Int} : (minCount ≤ n && n ≤ maxCount) = true ↔ 2 ≤ n ∧ n ≤ 6 := by
  rw [Bool.and_eq_true, decide_eq_true_eq, decide_eq_true_eq]
  rfl

/-- A count is right from two to six. -/
theorem countFaults_eq_nil_iff {n : Int} : countFaults (.int n) = [] ↔ 2 ≤ n ∧ n ≤ 6 := by
  rw [← inRange_iff, countFaults]
  split <;> simp_all

end Block

/-- Is the issue one with the palette, the range of loop counts or the budget? -/
def Issue.concernsFit : Issue → Bool
  | .node _ (.unavailable _) | .node _ (.countOutOfRange _) | .budget _ _ => true
  | .node _ _ => false

namespace Block

variable {r : Rules} {path : Path} {b : Block}

/-- A block with a shape has a kind. -/
theorem exists_kind_of_hasShape (h : b.hasShape = true) : ∃ k, b.kind? = .ok k := by
  cases b with
  | move direction =>
    cases direction with
    | known d => exact ⟨_, rfl⟩
    | other v => cases h
  | conditional condition body =>
    cases condition with
    | known c => exact ⟨_, rfl⟩
    | other v => cases h
  | foreign v => cases h
  | derived name b => cases h
  | _ => exact ⟨_, rfl⟩

/-- Of the settings of good shape only a loop count can be at fault. -/
theorem settingFaults_of_hasShape (h : b.hasShape = true) :
    b.settingFaults = [] ∨ ∃ n body, b = .loop (.int n) body := by
  cases b with
  | loop count body =>
    cases count with
    | int n => exact Or.inr ⟨n, body, rfl⟩
    | _ => cases h
  | conditional condition body =>
    cases condition with
    | known c => exact Or.inl rfl
    | other v => cases h
  | function name body => exact Or.inl (if_pos h)
  | derived name b => cases h
  | _ => exact Or.inl rfl

/-- A node of good shape that is not too deep can only have a kind that is not allowed, or a loop
count that is out of range. -/
theorem concernsFit_of_mem_faults (hshape : b.hasShape = true) (hdepth : path.length ≤ maxDepth)
    {f : NodeFault} (hf : f ∈ b.faults r path.length) : (Issue.node path f).concernsFit = true := by
  obtain ⟨k, hkind⟩ := exists_kind_of_hasShape hshape
  rw [faults_of_kind hdepth hkind, List.mem_append] at hf
  rcases hf with hpalette | hsetting
  · unfold paletteFaults at hpalette
    split at hpalette
    · cases hpalette
    · cases List.mem_singleton.1 hpalette
      rfl
  · rcases settingFaults_of_hasShape hshape with hnone | ⟨n, body, rfl⟩
    · rw [hnone] at hsetting
      cases hsetting
    · rw [settingFaults, countFaults] at hsetting
      split at hsetting
      · cases hsetting
      · cases List.mem_singleton.1 hsetting
        rfl

end Block

/-! ## Records that suit -/

namespace Grammar

/-- The nodes that are reached from a value are of allowed kinds, and their loop counts are in
range. -/
def Suits (allowed : Kind → Prop) (data : Value) : Prop :=
  ∀ path node k, Stands data path node → OfKind node k →
    allowed k ∧ (k = .loop → ∃ n, node.field? "value" = some (.int n) ∧ 2 ≤ n ∧ n ≤ 6)

variable {allowed : Kind → Prop} {data : Value} {k : Kind} {vs : List Value}

/-- A record of a leaf suits if its kind is allowed. -/
theorem suits_leaf_iff (hkind : OfKind data k) (hleaf : k.isContainer = false) :
    Suits allowed data ↔ allowed k := by
  constructor
  · intro h
    exact (h [] data k (.here data) hkind).1
  · intro hallowed path node k' hstands hkind'
    cases hstands with
    | here =>
      cases hkind.unique hkind'
      refine ⟨hallowed, ?_⟩
      rintro rfl
      cases hleaf
    | child hkind'' hholds =>
      cases hkind.unique hkind''
      rw [hleaf] at hholds
      cases hholds

/-- A record of a container suits if its kind is allowed, its count is right and its children suit.
-/
theorem suits_container_iff (hkind : OfKind data k) (hholds : k.isContainer = true)
    (hbody : Body data vs) :
    Suits allowed data ↔
      (allowed k ∧ (k = .loop → ∃ n, data.field? "value" = some (.int n) ∧ 2 ≤ n ∧ n ≤ 6)) ∧
        ∀ v ∈ vs, Suits allowed v := by
  constructor
  · intro h
    refine ⟨h [] data k (.here data) hkind, ?_⟩
    intro v hv path node k' hstands
    obtain ⟨i, hi⟩ := List.mem_iff_getElem?.1 hv
    exact h (i :: path) node k' (.child hkind hholds hbody hi hstands)
  · rintro ⟨hself, hbelow⟩ path node k' hstands hkind'
    cases hstands with
    | here =>
      cases hkind.unique hkind'
      exact hself
    | child hkind'' _ hbody' hchild hnode =>
      cases hbody.unique hbody'
      exact hbelow _ (List.mem_of_getElem? hchild) _ node k' hnode hkind'

end Grammar

namespace Block

open Grammar

variable {r : Rules} {data : Value} {b : Block}

/-- The faults of a container that was read show in its record. -/
theorem faults_container_eq_nil_iff {k : Kind} {body : List Block} {depth : Nat}
    (hdepth : depth ≤ maxDepth) (hholds : k.isContainer = true)
    (h : container k data body = .ok b) :
    b.faults r depth = [] ↔ r.allows k = true ∧
      (k = .loop → ∃ n, data.field? "value" = some (.int n) ∧ 2 ≤ n ∧ n ≤ 6) := by
  rcases container_eq_ok hholds h with ⟨n, rfl, hn, rfl⟩ | ⟨c, rfl, rfl⟩ | ⟨rfl, rfl⟩
  · rw [faults_of_kind hdepth rfl, List.append_eq_nil_iff, paletteFaults_eq_nil_iff, settingFaults,
      countFaults_eq_nil_iff, hn]
    simp
  · rw [faults_of_kind hdepth rfl, List.append_eq_nil_iff, paletteFaults_eq_nil_iff]
    simp [settingFaults]
  · rw [faults_of_kind hdepth rfl, List.append_eq_nil_iff, paletteFaults_eq_nil_iff]
    simp [settingFaults, isTruthy_functionName]

/-- What holds of each sibling that was read holds of all of them. -/
theorem issuesFrom_ofRecord_eq_nil_iff {room : Nat} (path : Path) {vs : List Value}
    {bs : List Block} {Fits : Value → Prop}
    (hread : List.Forall₂ (fun v c => ofRecord room v = .ok c) vs bs)
    (hfits : ∀ i v c, ofRecord room v = .ok c → (c.issues r (path ++ [i]) = [] ↔ Fits v)) :
    issuesFrom r path 0 bs = [] ↔ ∀ v ∈ vs, Fits v := by
  rw [issuesFrom_eq_nil_iff]
  constructor
  · intro h v hv
    obtain ⟨i, hi⟩ := List.mem_iff_getElem?.1 hv
    obtain ⟨c, hc, hvc⟩ := exists_right_of_forall₂ hread hi
    exact (hfits _ v c hvc).1 (h i c hc)
  · intro h i c hc
    obtain ⟨v, hv, hvc⟩ := exists_left_of_forall₂ hread hc
    exact (hfits _ v c hvc).2 (h v (List.mem_of_getElem? hv))

/-- A block that was read is without issues exactly if its record suits the rules. -/
theorem issues_ofRecord_eq_nil_iff {room : Nat} (path : Path)
    (hroom : room + path.length = maxDepth + 1) (h : ofRecord room data = .ok b) :
    b.issues r path = [] ↔ Suits (fun k => r.allows k = true) data := by
  induction room generalizing path data b with
  | zero => cases h
  | succ room ih =>
    -- what was read is never too deep, so the check looks below every node that reading reached
    have hdepth : path.length ≤ maxDepth := by omega
    obtain ⟨k, hkind, ⟨hleaf, rfl⟩ | ⟨hholds, vs, body, hbody, hread, hcontainer⟩⟩ :=
      ofRecord_succ_eq_ok_iff.1 h
    · have hsetting : (ofKind k).settingFaults = [] := by
        cases k with
        | loop | conditional | function => cases hleaf
        | _ => rfl
      obtain ⟨-, hnone⟩ := ofKind_shape k
      rw [suits_leaf_iff hkind hleaf, issues_eq_nil_iff, faults_of_kind hdepth (kind?_ofKind k),
        hsetting, List.append_nil, paletteFaults_eq_nil_iff, hnone, issuesFrom]
      simp
    · obtain ⟨-, hchildren⟩ := container_shape hholds hcontainer
      rw [suits_container_iff hkind hholds hbody, issues_eq_nil_iff,
        faults_container_eq_nil_iff hdepth hholds hcontainer, hchildren]
      refine and_congr_right (fun _ => issuesFrom_ofRecord_eq_nil_iff path hread ?_)
      intro i v c hvc
      refine ih (path ++ [i]) ?_ hvc
      rw [List.length_append, List.length_singleton]
      omega

end Block

/-! ## Whole programs -/

namespace Program

open Grammar

variable {vs : List Value} {p : Program}

/-- A program that was read is without issues exactly if its records suit the rules, and the budget
affords them. -/
theorem check_ofRecords_eq_nil_iff (r : Rules) (h : ofRecords (.list vs) = .ok p) :
    (p.check r).issues = [] ↔
      (∀ v ∈ vs, Suits (fun k => r.allows k = true) v) ∧ r.affords vs.length := by
  obtain ⟨ws, hws, hread⟩ := ofRecords_eq_ok_iff.1 h
  cases hws
  have hblock (i : Nat) (v : Value) (b : Block) (hb : Block.ofRecord Block.maxDepth v = .ok b) :
      b.issues r [i] = [] ↔ Suits (fun k => r.allows k = true) v :=
    Block.issues_ofRecord_eq_nil_iff [i] rfl hb
  rw [check, List.append_eq_nil_iff, budgetIssues_eq_nil_iff, hread.length_eq]
  exact and_congr_left (fun _ => Block.issuesFrom_ofRecord_eq_nil_iff [] hread hblock)

/-- Nothing but the palette, the range of loop counts and the budget can be at fault in a program
that was read. -/
theorem concernsFit_of_mem_issues {data : Value} (h : ofRecords data = .ok p) {r : Rules}
    {issue : Issue} (hissue : issue ∈ (p.check r).issues) : issue.concernsFit = true := by
  have hshape := wellShaped_of_ofRecords h
  rw [check, List.mem_append] at hissue
  rcases hissue with hnode | hbudget
  · obtain ⟨i, b, hb, hnode⟩ := Block.mem_issuesFrom hnode
    obtain ⟨n, hn, f, hf, rfl⟩ := Block.exists_node_of_mem_issues hnode
    obtain ⟨hself, hdepth⟩ := hshape n (Block.mem_walkFrom_iff.2 ⟨i, b, hb, hn⟩)
    exact Block.concernsFit_of_mem_faults hself hdepth hf
  · unfold budgetIssues at hbudget
    split at hbudget
    · split at hbudget
      · cases hbudget
      · cases List.mem_singleton.1 hbudget
        rfl
    · cases hbudget

end Program

end GridRobot
