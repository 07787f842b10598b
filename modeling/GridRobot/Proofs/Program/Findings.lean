import GridRobot.Proofs.Program.Fit
import GridRobot.Proofs.Program.Splice

/-!
# What a check finds

A check goes down the tree and stops below every block that is too deep. What it finds is the same
as if it went through the nodes of the program one by one and left out those that are two levels too
deep or more: nothing is found twice, nothing is passed over, and everything comes in the order of
the nodes.

* `Block.mem_faults_iff`: the faults of a node are those that the rules give it;
* `Block.Visits.visitFrom_eq`: a visit of the tree that stops at the greatest depth is a pass over
  its nodes;
* `Block.faults_eq_nil_iff`: which nodes are without faults;
* `Block.issues_eq_nil_iff_walk`: a tree is without issues if its nodes are without faults.
-/

namespace GridRobot

namespace Block

variable {r : Rules} {depth : Nat} {b : Block} {f : NodeFault}

/-! ## One node -/

/-- A setting of a block that is not derived is not what it should be. -/
inductive Misset : Block → NodeFault → Prop
  | countNotWhole {v : Value} (body : List Block) (hv : ∀ n, v ≠ .int n) :
    Misset (.loop v body) (.countNotWhole v)
  | countOutOfRange {n : Int} (body : List Block) (hn : ¬ (2 ≤ n ∧ n ≤ 6)) :
    Misset (.loop (.int n) body) (.countOutOfRange n)
  | unknownCondition (v : Value) (body : List Block) :
    Misset (.conditional (.other v) body) (.unknownCondition v)
  | emptyName {name : Value} (body : List Block) (hname : name.isTruthy = false) :
    Misset (.function name body) .emptyName

/-- The node at a depth has the fault. A node of a derived class has the settings of its base. Of a
node that is no block, of a block that is too deep and of a move without a direction nothing else is
said. -/
inductive AtFault (r : Rules) (depth : Nat) (b : Block) : NodeFault → Prop
  | notABlock (hblock : b.isBlock = false) : AtFault r depth b (.notABlock b.sort)
  | tooDeep (hblock : b.isBlock = true) (hdeep : 16 < depth) : AtFault r depth b .tooDeep
  | unknownDirection {v : Value} (hdepth : depth ≤ 16) (hmove : b.base = .move (.other v)) :
    AtFault r depth b (.unknownDirection v)
  | unavailable {k : Kind} {kinds : List Kind} (hdepth : depth ≤ 16)
      (hkind : b.kind? = .ok k) (hpalette : r.palette = some kinds) (hk : k ∉ kinds) :
    AtFault r depth b (.unavailable k)
  | misset {f : NodeFault} (hdepth : depth ≤ 16) (h : b.base.Misset f) : AtFault r depth b f

/-- A kind is at fault if there is a palette that lacks it. -/
theorem mem_paletteFaults_iff {k : Kind} : f ∈ paletteFaults r k ↔
    ∃ kinds, r.palette = some kinds ∧ k ∉ kinds ∧ f = .unavailable k := by
  unfold paletteFaults Rules.allows
  cases r.palette with
  | none => simp
  | some kinds =>
    by_cases hk : k ∈ kinds
    · simp [hk]
    · simp [hk]

/-- The faults of the settings are what is wrong with those of the base. -/
theorem mem_settingFaults_iff : f ∈ b.settingFaults ↔ b.base.Misset f := by
  have hbase := isDerived_base b
  rw [← settingFaults_base]
  -- a base is of one of the block classes itself, so the derived case is void
  generalize b.base = b at hbase ⊢
  constructor
  · intro h
    cases b with
    | loop count body =>
      cases count with
      | int n =>
        rw [settingFaults, countFaults] at h
        split at h
        · cases h
        · next hrange =>
          rw [List.mem_singleton.1 h]
          exact .countOutOfRange body (fun hn => hrange (inRange_iff.2 hn))
      | _ =>
        rw [List.mem_singleton.1 h]
        exact .countNotWhole body (by simp)
    | conditional condition body =>
      cases condition with
      | known c => cases h
      | other v =>
        rw [List.mem_singleton.1 h]
        exact .unknownCondition v body
    | function name body =>
      rw [settingFaults] at h
      split at h
      · cases h
      · next hname =>
        rw [List.mem_singleton.1 h]
        exact .emptyName body (by simpa using hname)
    | derived name b => cases hbase
    | _ => cases h
  · intro h
    cases h with
    | @countNotWhole v body hv =>
      cases v with
      | int n => exact absurd rfl (hv n)
      | _ => exact List.mem_singleton.2 rfl
    | countOutOfRange body hn =>
      rw [settingFaults, countFaults, if_neg (fun hrange => hn (inRange_iff.1 hrange))]
      exact List.mem_singleton.2 rfl
    | unknownCondition v body => exact List.mem_singleton.2 rfl
    | emptyName body hname =>
      rw [settingFaults, hname]
      exact List.mem_singleton.2 rfl

/-- A node is no block, or a move without a direction, or a block that has a kind. -/
theorem kind?_cases (b : Block) :
    b.isBlock = false ∨
      (∃ v, b.base = .move (.other v) ∧ b.isBlock = true ∧ b.kind? = .error (.direction v)) ∨
      ∃ k, b.isBlock = true ∧ b.kind? = .ok k := by
  cases hblock : b.isBlock with
  | false => exact Or.inl rfl
  | true =>
    refine Or.inr ?_
    have hbase := isDerived_base b
    rw [← isBlock_base] at hblock
    rw [← kind?_base (isBlock_base b ▸ hblock)]
    generalize b.base = b at hblock hbase ⊢
    cases b with
    | foreign v => cases hblock
    | derived name b => cases hbase
    | move direction =>
      cases direction with
      | known d => exact Or.inr ⟨_, rfl, rfl⟩
      | other v => exact Or.inl ⟨v, rfl, rfl, rfl⟩
    | _ => exact Or.inr ⟨_, rfl, rfl⟩

/-- Only blocks have settings. -/
theorem Misset.isBlock (h : b.base.Misset f) : b.isBlock = true := by
  rw [← isBlock_base]
  generalize b.base = b at h ⊢
  cases h <;> rfl

/-- A block that is too deep has no other fault. -/
theorem atFault_iff_of_deep (hblock : b.isBlock = true) (hdeep : 16 < depth) :
    b.AtFault r depth f ↔ f = .tooDeep := by
  constructor
  · intro h
    cases h with
    | notABlock hno => exact absurd (hno.symm.trans hblock) Bool.false_ne_true
    | tooDeep => rfl
    | unknownDirection hdepth => omega
    | unavailable hdepth => omega
    | misset hdepth => omega
  · rintro rfl
    exact .tooDeep hblock hdeep

/-- The faults of a node are those that the rules give it. -/
theorem mem_faults_iff : f ∈ b.faults r depth ↔ b.AtFault r depth f := by
  rcases b.kind?_cases with hno | ⟨v, hmove, hblock, hkind⟩ | ⟨k, hblock, hkind⟩
  · -- what is no block is at fault at any depth, and nothing else is said of it
    have hfaults : b.faults r depth = [.notABlock b.sort] := by
      rw [faults, kind?_of_isBlock_false hno]
    rw [hfaults, List.mem_singleton]
    constructor
    · rintro rfl
      exact .notABlock hno
    · intro h
      cases h with
      | notABlock => rfl
      | tooDeep hblock => exact absurd (hno.symm.trans hblock) Bool.false_ne_true
      | unknownDirection _ hmove =>
        rw [← isBlock_base, hmove] at hno
        cases hno
      | unavailable _ hkind =>
        rw [kind?_of_isBlock_false hno] at hkind
        cases hkind
      | misset _ h => exact absurd (hno.symm.trans h.isBlock) Bool.false_ne_true
  · -- a move without a direction has one fault, and the depth decides which
    rcases Nat.lt_or_ge 16 depth with hdeep | hdepth
    · rw [atFault_iff_of_deep hblock hdeep, ← List.mem_singleton, faults, hkind]
      exact iff_of_eq (congrArg (f ∈ ·) (if_pos hdeep))
    · have hfaults : b.faults r depth = [.unknownDirection v] := by
        rw [faults, hkind]
        exact if_neg (Nat.not_lt.2 hdepth)
      rw [hfaults, List.mem_singleton]
      constructor
      · rintro rfl
        exact .unknownDirection hdepth hmove
      · intro h
        cases h with
        | notABlock hno => exact absurd (hno.symm.trans hblock) Bool.false_ne_true
        | tooDeep _ hdeep => omega
        | unknownDirection _ hmove' =>
          cases hmove.symm.trans hmove'
          rfl
        | unavailable _ hkind' => cases hkind.symm.trans hkind'
        | misset _ h =>
          rw [hmove] at h
          cases h
  · -- a block with a kind may have one that is not allowed, and settings that are at fault
    rcases Nat.lt_or_ge 16 depth with hdeep | hdepth
    · rw [atFault_iff_of_deep hblock hdeep, ← List.mem_singleton, faults, hkind]
      exact iff_of_eq (congrArg (f ∈ ·) (if_pos hdeep))
    · rw [faults_of_kind hdepth hkind, List.mem_append, mem_paletteFaults_iff,
        mem_settingFaults_iff]
      constructor
      · rintro (⟨kinds, hpalette, hk, rfl⟩ | hset)
        · exact .unavailable hdepth hkind hpalette hk
        · exact .misset hdepth hset
      · intro h
        cases h with
        | notABlock hno => exact absurd (hno.symm.trans hblock) Bool.false_ne_true
        | tooDeep _ hdeep => omega
        | unknownDirection _ hmove =>
          rw [← kind?_base hblock, hmove] at hkind
          cases hkind
        | unavailable _ hkind' hpalette hk =>
          cases hkind.symm.trans hkind'
          exact Or.inl ⟨_, hpalette, hk, rfl⟩
        | misset _ hset => exact Or.inr hset

/-- The settings have one fault at most. -/
theorem settingFaults_cases (b : Block) : b.settingFaults = [] ∨ ∃ f, b.settingFaults = [f] := by
  have hbase := isDerived_base b
  rw [← settingFaults_base]
  generalize b.base = b at hbase ⊢
  cases b with
  | derived name b => cases hbase
  | loop count body =>
    cases count with
    | int n =>
      rw [settingFaults, countFaults]
      split
      · exact Or.inl rfl
      · exact Or.inr ⟨_, rfl⟩
    | _ => exact Or.inr ⟨_, rfl⟩
  | conditional condition body =>
    cases condition with
    | known c => exact Or.inl rfl
    | other v => exact Or.inr ⟨_, rfl⟩
  | function name body =>
    rw [settingFaults]
    split
    · exact Or.inl rfl
    · exact Or.inr ⟨_, rfl⟩
  | _ => exact Or.inl rfl

/-- A node has one fault at most, or one with the palette and then one more. -/
theorem faults_pairwise (r : Rules) (depth : Nat) (b : Block) :
    (b.faults r depth).Pairwise
      (fun f g => (∃ k, f = .unavailable k) ∧ ∀ k, g ≠ .unavailable k) := by
  rcases b.kind?_cases with hno | ⟨v, -, -, hkind⟩ | ⟨k, -, hkind⟩
  · rw [faults, kind?_of_isBlock_false hno]
    exact List.pairwise_singleton _ _
  · rw [faults, hkind]
    dsimp only
    split
    · exact List.pairwise_singleton _ _
    · exact List.pairwise_singleton _ _
  · rw [faults, hkind]
    dsimp only
    split
    · exact List.pairwise_singleton _ _
    · -- a fault of the palette, if any, stands in front of a fault of the settings, if any
      refine List.pairwise_append.2 ⟨?_, ?_, ?_⟩
      · rw [paletteFaults]
        split
        · exact List.Pairwise.nil
        · exact List.pairwise_singleton _ _
      · rcases b.settingFaults_cases with hnone | ⟨f, hone⟩
        · rw [hnone]
          exact List.Pairwise.nil
        · rw [hone]
          exact List.pairwise_singleton _ _
      · intro f hf g hg
        rcases mem_paletteFaults_iff.1 hf with ⟨kinds, -, -, rfl⟩
        refine ⟨⟨k, rfl⟩, ?_⟩
        rintro k' rfl
        have hmisset := mem_settingFaults_iff.1 hg
        generalize b.base = b at hmisset
        cases hmisset

/-! ## A pass over the nodes -/

/-- A visit of the tree tells its own of each node, and goes on below the node unless that is too
deep. -/
structure Visits {α : Type} (own : Path × Block → List α) (visit : Path → Block → List α)
    (visitFrom : Path → Nat → List Block → List α) : Prop where
  node : ∀ path b, visit path b =
    own (path, b) ++ if path.length ≤ maxDepth then visitFrom path 0 b.children else []
  nil : ∀ path index, visitFrom path index [] = []
  cons : ∀ path index b bs,
    visitFrom path index (b :: bs) = visit (path ++ [index]) b ++ visitFrom path (index + 1) bs

namespace Visits

variable {α : Type} {own : Path × Block → List α} {visit : Path → Block → List α}
  {visitFrom : Path → Nat → List Block → List α}

/-- What is told of some nodes one by one, without those that are two levels too deep or more. -/
def pass (own : Path × Block → List α) (nodes : List (Path × Block)) : List α :=
  (nodes.filter (fun n => n.1.length ≤ maxDepth + 1)).flatMap own

theorem pass_append (own : Path × Block → List α) (ns ms : List (Path × Block)) :
    pass own (ns ++ ms) = pass own ns ++ pass own ms := by
  rw [pass, List.filter_append, List.flatMap_append]
  rfl

/-- What is told only of nodes that are not too deep is told in a pass over these. -/
theorem pass_shallow (own : Path × Block → List α) (nodes : List (Path × Block)) :
    pass (fun n => if n.1.length ≤ maxDepth then own n else []) nodes =
      (nodes.filter (fun n => n.1.length ≤ maxDepth)).flatMap own := by
  induction nodes with
  | nil => rfl
  | cons n nodes ih =>
    rw [← List.singleton_append, pass_append, ih, List.filter_append, List.flatMap_append]
    congr 1
    by_cases hdepth : n.1.length ≤ maxDepth
    · simp [pass, hdepth, Nat.le_succ_of_le hdepth]
    · by_cases hnext : n.1.length ≤ maxDepth + 1
      · simp [pass, hdepth, hnext]
      · simp [pass, hdepth, hnext]

theorem visitFrom_eq_of (h : Visits own visit visitFrom) {path : Path} {bs : List Block}
    (hbs : ∀ b ∈ bs, ∀ index, visit (path ++ [index]) b = pass own (b.walk (path ++ [index])))
    (index : Nat) : visitFrom path index bs = pass own (walkFrom path index bs) := by
  induction bs generalizing index with
  | nil =>
    rw [h.nil, walkFrom]
    rfl
  | cons b bs ih =>
    have hb := hbs b List.mem_cons_self index
    have hrest := ih (fun c hc => hbs c (List.mem_cons_of_mem b hc)) (index + 1)
    rw [h.cons, walkFrom, pass_append, hb, hrest]

/-- A visit tells of the nodes what a pass over them tells. -/
theorem visit_eq (h : Visits own visit visitFrom) {path : Path} (hpath : path.length ≤ maxDepth + 1)
    (b : Block) : visit path b = pass own (b.walk path) := by
  induction b using children_induction generalizing path with
  | node b ih =>
    have hself : pass own (b.walk path) =
        own (path, b) ++ pass own (walkFrom path 0 b.children) := by
      rw [walk_eq, pass, List.filter_cons_of_pos (by simpa using hpath), List.flatMap_cons]
      rfl
    rw [h.node, hself]
    congr 1
    by_cases hdepth : path.length ≤ maxDepth
    · rw [if_pos hdepth]
      refine h.visitFrom_eq_of (fun c hc index => ih c hc ?_) 0
      rw [List.length_append, List.length_singleton]
      omega
    · -- the visit stops here, and all nodes below are left out of the pass
      rw [if_neg hdepth, pass, List.filter_eq_nil_iff.2]
      · rfl
      · intro n hn
        have hlt := length_lt_of_mem_walkFrom hn
        rw [decide_eq_true_eq]
        omega

/-- A visit of a program collects what its nodes have, in the order of the walk. -/
theorem visitFrom_eq (h : Visits own visit visitFrom) (p : Program) :
    visitFrom [] 0 p = pass own p.walk :=
  h.visitFrom_eq_of (fun b _ index => h.visit_eq (by simp [maxDepth]) b) 0

end Visits

/-- Looking for issues is a visit that tells the faults of each node. -/
theorem visits_issues (r : Rules) :
    Visits (fun n => (n.2.faults r n.1.length).map (.node n.1)) (issues r) (issuesFrom r) where
  node := issues_eq r
  nil := fun _ _ => by rw [issuesFrom]
  cons := fun _ _ _ _ => by rw [issuesFrom]

/-- A node of a derived class is warned of as its base is. -/
theorem warnings_derived (path : Path) (name : String) (b : Block) :
    (Block.derived name b).warnings path = b.warnings path := by
  cases hblock : b.isBlock with
  | true => rw [warnings, warnings, kind?, if_pos hblock, body?]
  | false =>
    have hkind := kind?_of_isBlock_false hblock
    have hderived : (Block.derived name b).isBlock = false := hblock
    rw [warnings, warnings, hkind, kind?_of_isBlock_false hderived]

/-- Looking for warnings is a visit that tells those of each node that is not too deep. -/
theorem visits_cautions :
    Visits (fun n => if n.1.length ≤ maxDepth then n.2.warnings n.1 else [])
      cautions cautionsFrom where
  node := by
    intro path b
    induction b using base_induction with
    | derived name b ih => rw [cautions, ih, warnings_derived, children_derived]
    | other b hb =>
      cases b with
      | derived name b => cases hb
      | _ =>
        by_cases hdepth : path.length ≤ maxDepth
        · simp [cautions, cautionsFrom, warnings, hdepth, kind?, children, body?]
        · simp [cautions, hdepth]
  nil := fun _ _ => by rw [cautionsFrom]
  cons := fun _ _ _ _ => by rw [cautionsFrom]

/-! ## Nodes without faults -/

/-- The node is a block that is not derived, and its settings are what they should be. -/
def WellConfigured : Block → Prop
  | .move direction => ∃ d, direction = .known d
  | .loop count _ => ∃ n, count = .int n ∧ 2 ≤ n ∧ n ≤ 6
  | .conditional condition _ => ∃ c, condition = .known c
  | .function name _ => name.isTruthy = true
  | .collect | .wait | .breakOut => True
  | .foreign _ | .derived .. => False

/-- A block without faulty settings is well configured. -/
theorem forall_not_misset_iff {k : Kind} (hblock : b.isBlock = true) (hkind : b.kind? = .ok k) :
    (∀ f, ¬ b.base.Misset f) ↔ b.base.WellConfigured := by
  have hbase := isDerived_base b
  rw [← kind?_base hblock] at hkind
  generalize b.base = b at hkind hbase ⊢
  constructor
  · -- each kind has one setting at most that can be wrong
    intro h
    cases b with
    | move direction =>
      cases direction with
      | known d => exact ⟨d, rfl⟩
      | other v => cases hkind
    | loop count body =>
      cases count with
      | int n =>
        refine ⟨n, rfl, ?_⟩
        by_contra hn
        exact h _ (.countOutOfRange body hn)
      | _ => exact absurd (.countNotWhole body (by simp)) (h _)
    | conditional condition body =>
      cases condition with
      | known c => exact ⟨c, rfl⟩
      | other v => exact absurd (.unknownCondition v body) (h _)
    | function name body =>
      by_contra hname
      exact h _ (.emptyName body (Bool.eq_false_iff.2 hname))
    | foreign v => cases hkind
    | derived name b => cases hbase
    | collect => trivial
    | wait => trivial
    | breakOut => trivial
  · intro h f hset
    cases hset with
    | countNotWhole body hv =>
      rcases h with ⟨n, hn, -⟩
      exact hv n hn
    | countOutOfRange body hn =>
      rcases h with ⟨n, heq, hrange⟩
      cases heq
      exact hn hrange
    | unknownCondition v body =>
      rcases h with ⟨c, hc⟩
      cases hc
    | emptyName body hname => exact absurd (hname.symm.trans h) Bool.false_ne_true

/-- A node without faults is a block of an allowed kind whose base is well configured, and it is not
too deep. -/
theorem faults_eq_nil_iff : b.faults r depth = [] ↔
    depth ≤ 16 ∧ b.base.WellConfigured ∧
      ∃ k, b.kind? = .ok k ∧ ∀ kinds, r.palette = some kinds → k ∈ kinds := by
  rw [List.eq_nil_iff_forall_not_mem]
  simp only [mem_faults_iff]
  constructor
  · intro h
    -- the faults are ruled out one by one, in the order in which they are looked for
    have hblock : b.isBlock = true := by
      by_contra hno
      exact h _ (.notABlock (Bool.eq_false_iff.2 hno))
    have hdepth : depth ≤ 16 := by
      by_contra hdeep
      exact h _ (.tooDeep hblock (Nat.lt_of_not_le hdeep))
    rcases b.kind?_cases with hno | ⟨v, hmove, -, -⟩ | ⟨k, -, hkind⟩
    · exact absurd (hno.symm.trans hblock) Bool.false_ne_true
    · exact absurd (.unknownDirection hdepth hmove) (h _)
    · have hset := forall_not_misset_iff hblock hkind
      refine ⟨hdepth, hset.1 (fun f hf => h f (.misset hdepth hf)), k, hkind, ?_⟩
      intro kinds hpalette
      by_contra hk
      exact h _ (.unavailable hdepth hkind hpalette hk)
  · rintro ⟨hdepth, hset, k, hkind, hallowed⟩ f hfault
    cases hfault with
    | notABlock hno =>
      rw [kind?_of_isBlock_false hno] at hkind
      cases hkind
    | tooDeep _ hdeep => omega
    | unknownDirection _ hmove =>
      rw [hmove] at hset
      obtain ⟨d, hd⟩ := hset
      cases hd
    | unavailable _ hkind' hpalette hk =>
      cases hkind.symm.trans hkind'
      exact hk (hallowed _ hpalette)
    | misset _ hmisset => exact (forall_not_misset_iff hmisset.isBlock hkind).2 hset f hmisset

/-- A tree is without issues exactly if each of its nodes is without faults. -/
theorem issues_eq_nil_iff_walk {path : Path} :
    b.issues r path = [] ↔ ∀ n ∈ b.walk path, n.2.faults r n.1.length = [] := by
  induction b using children_induction generalizing path with
  | node b ih =>
    rw [issues_eq_nil_iff, issuesFrom_eq_nil_iff, walk_eq, List.forall_mem_cons]
    refine and_congr_right (fun _ => ?_)
    constructor
    · intro h n hn
      rcases mem_walkFrom_iff.1 hn with ⟨i, c, hc, hn⟩
      exact (ih c (List.mem_of_getElem? hc)).1 (h i c hc) n hn
    · intro h i c hc
      refine (ih c (List.mem_of_getElem? hc)).2 (fun n hn => ?_)
      exact h n (mem_walkFrom_iff.2 ⟨i, c, hc, hn⟩)

/-- A warning is about a container with nothing in it. -/
theorem warnings_cases (path : Path) (b : Block) :
    (∃ k, b.kind? = .ok k ∧ b.body? = some [] ∧ b.warnings path = [.emptyBody path k]) ∨
      b.body? ≠ some [] ∧ b.warnings path = [] := by
  by_cases hbody : b.body? = some []
  · rcases b.kind?_cases with hno | ⟨v, hmove, -, -⟩ | ⟨k, -, hkind⟩
    · rw [body?_of_isBlock_false hno] at hbody
      cases hbody
    · rw [← body?_base, hmove] at hbody
      cases hbody
    · refine Or.inl ⟨k, hkind, hbody, ?_⟩
      rw [warnings, hkind, hbody]
  · refine Or.inr ⟨hbody, ?_⟩
    unfold warnings
    split
    · next h => exact absurd h hbody
    · rfl

end Block

namespace Program

variable {r : Rules} {p : Program}

theorem budgetIssues_eq : p.budgetIssues r =
    ((r.limit.filter (fun limit => limit.below (.int p.length))).map
      (.budget p.length)).toList := by
  unfold budgetIssues Rules.affords
  cases r.limit with
  | none => rfl
  | some limit =>
    by_cases hbelow : limit.below (.int p.length)
    · simp [Option.filter, hbelow]
    · simp [Option.filter, hbelow]

/-- A program is valid if no node has a fault and the budget is kept. -/
theorem valid_iff_walk : (p.check r).valid ↔
    (∀ n ∈ p.walk, n.2.faults r n.1.length = []) ∧
      ∀ limit, r.limit = some limit → ¬ limit.below (.int p.length) := by
  rw [check_valid_iff, Block.issuesFrom_eq_nil_iff]
  refine and_congr ?_ ?_
  · constructor
    · intro h n hn
      rcases Block.mem_walkFrom_iff.1 hn with ⟨i, b, hb, hn⟩
      exact Block.issues_eq_nil_iff_walk.1 (h i b hb) n hn
    · intro h i b hb
      exact Block.issues_eq_nil_iff_walk.2
        (fun n hn => h n (Block.mem_walkFrom_iff.2 ⟨i, b, hb, hn⟩))
  · unfold Rules.affords
    cases r.limit with
    | none => simp
    | some limit => simp

/-- What a check finds, node by node: the faults of the nodes in their order, without those that are
two levels too deep or more, and then the budget. -/
def findings (r : Rules) (p : Program) : List Issue :=
  (p.walk.filter (fun n => n.1.length ≤ 17)).flatMap
      (fun n => (n.2.faults r n.1.length).map (.node n.1)) ++
    ((r.limit.filter (fun limit => limit.below (.int p.length))).map (.budget p.length)).toList

/-- What a check warns of, node by node: the containers with nothing in them. -/
def remarks (p : Program) : List Warning :=
  (if p.isEmpty then [.emptyProgram] else []) ++
    (p.walk.filter (fun n => n.1.length ≤ 16)).flatMap (fun n => n.2.warnings n.1)

/-- The issues of a check are the findings of the walk. -/
theorem issues_eq_findings (r : Rules) (p : Program) : (p.check r).issues = p.findings r := by
  rw [check, (Block.visits_issues r).visitFrom_eq p, budgetIssues_eq]
  rfl

/-- The warnings of a check are the remarks of the walk. -/
theorem warnings_eq_remarks (r : Rules) (p : Program) : (p.check r).warnings = p.remarks := by
  rw [check, Block.visits_cautions.visitFrom_eq p, Block.Visits.pass_shallow]
  rfl

/-- There is a report if all findings can be written. -/
theorem report?_eq_some_iff {report : Report} : p.report? r = some report ↔
    report = p.check r ∧ ∀ issue ∈ p.findings r, issue.isWritable = true := by
  rw [← issues_eq_findings, ← List.all_eq_true, report?]
  split
  · next h => simp [h, eq_comm]
  · next h => simp [h]

theorem report?_eq_none_iff : p.report? r = none ↔
    ∃ issue ∈ p.findings r, issue.isWritable = false := by
  rw [Option.eq_none_iff_forall_ne_some]
  constructor
  · intro h
    by_contra hall
    refine h (p.check r) (report?_eq_some_iff.2 ⟨rfl, ?_⟩)
    intro issue hissue
    by_contra hno
    exact hall ⟨issue, hissue, Bool.eq_false_iff.2 hno⟩
  · rintro ⟨issue, hissue, hno⟩ report hreport
    have hyes := (report?_eq_some_iff.1 hreport).2 issue hissue
    exact absurd (hno.symm.trans hyes) Bool.false_ne_true

/-- A program has a valid report exactly if it is without issues. -/
theorem exists_valid_report_iff :
    (∃ report, p.report? r = some report ∧ report.valid) ↔ (p.check r).valid := by
  constructor
  · rintro ⟨report, hreport, hvalid⟩
    rwa [(report?_eq_some_iff.1 hreport).1] at hvalid
  · intro hvalid
    refine ⟨p.check r, report?_eq_some_iff.2 ⟨rfl, ?_⟩, hvalid⟩
    have hnone : (p.check r).issues = [] := List.isEmpty_iff.1 hvalid
    rw [← issues_eq_findings, hnone]
    exact List.forall_mem_nil _

/-- A check reports the faults of the nodes in their order, with the budget at the end, and warns of
the containers with nothing in them. There is no report at all exactly if one of the faults holds an
integer too long to be written. So a program is found valid exactly if each of its nodes is a block
of an allowed kind that is well configured and not too deep, and the budget is kept. -/
theorem check_reports_nodes (r : Rules) (p : Program) :
    ((∀ report, p.report? r = some report →
        report.issues = p.findings r ∧ report.warnings = p.remarks) ∧
      (p.report? r = none ↔ ∃ issue ∈ p.findings r, issue.isWritable = false)) ∧
    (∀ (depth : Nat) (b : Block),
      (∀ f, f ∈ b.faults r depth ↔ b.AtFault r depth f) ∧
      (b.faults r depth).Pairwise
        (fun f g => (∃ k, f = .unavailable k) ∧ ∀ k, g ≠ .unavailable k)) ∧
    (∀ (path : Path) (b : Block),
      (∃ k, b.kind? = .ok k ∧ b.body? = some [] ∧ b.warnings path = [.emptyBody path k]) ∨
      b.body? ≠ some [] ∧ b.warnings path = []) ∧
    ((∃ report, p.report? r = some report ∧ report.valid) ↔
      (∀ n ∈ p.walk, n.1.length ≤ 16 ∧ n.2.base.WellConfigured ∧
        ∃ k, n.2.kind? = .ok k ∧ ∀ kinds, r.palette = some kinds → k ∈ kinds) ∧
      ∀ limit, r.limit = some limit → ¬ limit.below (.int p.length)) := by
  refine ⟨⟨?_, report?_eq_none_iff⟩, ?_, Block.warnings_cases, ?_⟩
  · intro report hreport
    rw [(report?_eq_some_iff.1 hreport).1]
    exact ⟨issues_eq_findings r p, warnings_eq_remarks r p⟩
  · intro depth b
    exact ⟨fun f => Block.mem_faults_iff, Block.faults_pairwise r depth b⟩
  · rw [exists_valid_report_iff, valid_iff_walk]
    simp only [Block.faults_eq_nil_iff]

/-- A loop with a count too long to be written has one fault, and yet there is no report. -/
theorem no_report_of_tooBig :
    findings {} [.loop (.int Numeral.tooBig) []] =
        [.node [0] (.countOutOfRange Numeral.tooBig)] ∧
      report? {} [.loop (.int Numeral.tooBig) []] = none := by
  have hcount : Block.countFaults (.int Numeral.tooBig) = [.countOutOfRange Numeral.tooBig] := by
    rw [Block.countFaults, if_neg]
    rw [Block.inRange_iff]
    have hlt : (6 : Int) < Numeral.tooBig := Numeral.lt_tooBig (by decide)
    omega
  have hfindings : findings {} [.loop (.int Numeral.tooBig) []] =
      [Issue.node [0] (.countOutOfRange Numeral.tooBig)] := by
    simp [findings, walk, Block.walkFrom, Block.walk, Block.faults, Block.kind?, Block.maxDepth,
      Block.paletteFaults, Rules.allows, Block.settingFaults, hcount]
  have hmem : Issue.node [0] (.countOutOfRange Numeral.tooBig) ∈
      findings {} [.loop (.int Numeral.tooBig) []] := by
    rw [hfindings]
    exact List.mem_singleton_self _
  exact ⟨hfindings, report?_eq_none_iff.2 ⟨_, hmem, Numeral.fits_tooBig⟩⟩

end Program

end GridRobot
