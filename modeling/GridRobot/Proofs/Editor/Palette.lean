import GridRobot.Proofs.Editor.Budget
import GridRobot.Proofs.Program.Fit

/-!
# Editing from the palette

Blocks of the palette have settings that pass every check, and there are edits that keep it so:
those that add blocks by their kind, remove blocks, or give a setting a value that it is made for.
Nothing in them looks at the depth of a block. So an editor that was used in no other way hands out
its program unless a block is too deep.

* `Block.Blameless`: a node has no fault, wherever it stands, unless it stands too deep;
* `Editor.Changes.blameless`, `Editor.blameless_after`: such edits keep all nodes blameless;
* `Program.tooDeep_of_mem_issues`: nothing but depth can be wrong with a program of such nodes.
-/

namespace GridRobot

/-! ## Nodes -/

namespace Block

variable {r : Rules} {b : Block}

/-- The node is a block of a kind that is allowed, and its settings have no faults. -/
structure Blameless (r : Rules) (b : Block) : Prop where
  allowed : ∃ k, b.kind? = .ok k ∧ r.allows k = true
  settings : b.settingFaults = []

/-- A blameless node can only stand too deep. -/
theorem Blameless.tooDeep (h : b.Blameless r) {depth : Nat} {f : NodeFault}
    (hf : f ∈ b.faults r depth) : f = .tooDeep ∧ maxDepth < depth := by
  rcases h.allowed with ⟨k, hkind, hallowed⟩
  rw [faults, hkind] at hf
  dsimp only at hf
  split at hf
  · next hdeep => exact ⟨List.mem_singleton.1 hf, hdeep⟩
  · rw [paletteFaults_eq_nil_iff.2 hallowed, h.settings] at hf
    cases hf

/-- A node of a derived class is blamed as its base is. -/
theorem blameless_derived_iff {name : String} :
    (Block.derived name b).Blameless r ↔ b.Blameless r := by
  have hkind {k : Kind} : (Block.derived name b).kind? = .ok k ↔ b.kind? = .ok k := by
    cases hblock : b.isBlock with
    | true => rw [kind?, if_pos hblock]
    | false =>
      have hderived : (Block.derived name b).isBlock = false := hblock
      rw [kind?_of_isBlock_false hblock, kind?_of_isBlock_false hderived]
      simp
  constructor
  · rintro ⟨⟨k, hk, hallowed⟩, hsettings⟩
    exact ⟨⟨k, hkind.1 hk, hallowed⟩, hsettings⟩
  · rintro ⟨⟨k, hk, hallowed⟩, hsettings⟩
    exact ⟨⟨k, hkind.2 hk, hallowed⟩, hsettings⟩

/-- What a node is blamed for does not come from its body. -/
theorem Blameless.withBody (h : b.Blameless r) (body : List Block) :
    (b.withBody body).Blameless r := by
  induction b using base_induction with
  | derived name b ih => exact blameless_derived_iff.2 (ih (blameless_derived_iff.1 h))
  | other b hb =>
    cases b with
    | conditional condition _ => cases condition <;> exact ⟨h.allowed, h.settings⟩
    | derived => cases hb
    | _ => exact ⟨h.allowed, h.settings⟩

/-- A new block of an allowed kind is blameless. -/
theorem blameless_ofKind {k : Kind} (h : r.allows k = true) : (ofKind k).Blameless r where
  allowed := ⟨k, kind?_ofKind k, h⟩
  settings := by cases k <;> rfl

end Block

/-- Does the update give a setting a value that it is made for? -/
def Update.isPlain (r : Rules) : Update → Bool
  | .direction (.known d) => r.allows (.ofDirection d)
  | .condition (.known _) => true
  | .count (.int n) => 2 ≤ n && n ≤ 6
  | .name (.text t) => !t.isEmpty
  | _ => false

namespace Block

variable {r : Rules} {b : Block} {u : Update}

/-- A plain update keeps a node blameless, and its body as it is. -/
theorem Blameless.update (h : b.Blameless r) (hu : u.isPlain r = true) :
    (b.update u).Blameless r ∧ (b.update u).children = b.children := by
  induction b using base_induction with
  | derived name b ih =>
    rcases ih (blameless_derived_iff.1 h) with ⟨hbase, hchildren⟩
    rw [Block.update]
    exact ⟨blameless_derived_iff.2 hbase, hchildren⟩
  | other b hb =>
    -- a plain update sets a value that the check accepts, or one that the block does not have
    cases u with
    | direction d =>
      cases d with
      | other v => cases hu
      | known d =>
        cases b with
        | move => exact ⟨⟨⟨.ofDirection d, rfl, hu⟩, rfl⟩, rfl⟩
        | derived => cases hb
        | _ => exact ⟨h, rfl⟩
    | condition c =>
      cases c with
      | other v => cases hu
      | known c =>
        cases b with
        | conditional => exact ⟨⟨h.allowed, rfl⟩, rfl⟩
        | derived => cases hb
        | _ => exact ⟨h, rfl⟩
    | count v =>
      cases v with
      | int n =>
        cases b with
        | loop =>
          have hcount : 2 ≤ n ∧ n ≤ 6 := by simpa [Update.isPlain] using hu
          exact ⟨⟨h.allowed, countFaults_eq_nil_iff.2 hcount⟩, rfl⟩
        | derived => cases hb
        | _ => exact ⟨h, rfl⟩
      | _ => cases hu
    | name v =>
      cases v with
      | text t =>
        cases b with
        | function => exact ⟨⟨h.allowed, if_pos hu⟩, rfl⟩
        | derived => cases hb
        | _ => exact ⟨h, rfl⟩
      | _ => cases hu
    | body blocks => cases hu
    | unknown key => cases hu

/-- Plain updates keep a block blameless and leave its children alone. -/
theorem Blameless.updates {us : List Update} (h : b.Blameless r)
    (hus : ∀ u ∈ us, u.isPlain r = true) :
    (us.foldl Block.update b).Blameless r ∧ (us.foldl Block.update b).children = b.children := by
  induction us generalizing b with
  | nil => exact ⟨h, rfl⟩
  | cons u us ih =>
    rcases h.update (hus u List.mem_cons_self) with ⟨hb, hchildren⟩
    rw [List.foldl_cons, ← hchildren]
    exact ih hb (fun u' hu' => hus u' (List.mem_cons_of_mem u hu'))

end Block

/-! ## Edits -/

variable {ι : Type} [RouteIndex ι]

/-- Is the edit one of those that keep to the palette? Blocks are added by their kind, and settings
are given the values that they are made for. -/
def Edit.isPlain (r : Rules) : Edit ι → Bool
  | .add (.kind _) | .addChild _ (.kind _) _ => true
  | .add (.block _) | .addChild _ (.block _) _ => false
  | .configure _ updates => updates.all (Update.isPlain r)
  | .remove _ | .removeChild _ | .clear | .get _ | .build => true

namespace Editor

variable {e : Editor} {r : Rules}

/-- Does every edit keep to the palette, or change nothing? -/
def keepsToPalette (e : Editor) : List (Edit ι) → Bool
  | [] => true
  | edit :: edits =>
    (edit.isPlain e.rules || (e.perform edit).2 = e) && (e.perform edit).2.keepsToPalette edits

/-- What is offered by its kind is blameless. -/
theorem blameless_of_offers {k : Kind} (h : r.Offers (.kind k)) :
    Program.Everywhere (Block.Blameless r) [(Supply.kind k).toBlock] := by
  have hallowed : r.allows k = true := by
    unfold Rules.allows
    cases hpalette : r.palette with
    | none => rfl
    | some kinds =>
      rcases h kinds hpalette with ⟨k', hmem, hkind⟩
      rw [Supply.toBlock, Block.kind?_ofKind] at hkind
      cases hkind
      simpa using hmem
  rw [Program.everywhere_singleton, Supply.toBlock, (Block.ofKind_shape k).2]
  exact ⟨Block.blameless_ofKind hallowed, Program.everywhere_nil⟩

theorem mem_of_mem_without {n : Int} {body : List Block} {b : Block} (h : b ∈ without n body) :
    b ∈ body := by
  rw [without, List.mem_append] at h
  rcases h with hfront | hback
  · unfold frontOf at hfront
    split at hfront <;> exact List.mem_of_mem_take hfront
  · unfold backFrom at hback
    split at hback <;> exact List.mem_of_mem_drop hback

/-- An edit that keeps to the palette leaves blameless nodes only. -/
theorem Changes.blameless {edit : Edit ι} {answer : Except (EditFault ι) (EditAnswer ι)}
    {blocks : Program} (hchanges : e.Changes edit answer blocks)
    (hplain : edit.isPlain e.rules = true)
    (h : e.blocks.Everywhere (Block.Blameless e.rules)) :
    blocks.Everywhere (Block.Blameless e.rules) := by
  -- in a gap, it is enough to look at the new block and at what is below it
  have hgap {gap : Gap} {b c : Block} (hblocks : e.blocks = gap.fill b)
      (hc : Program.Everywhere (Block.Blameless e.rules) [b] →
        Program.Everywhere (Block.Blameless e.rules) [c]) :
      (gap.fill c).Everywhere (Block.Blameless e.rules) := by
    rw [hblocks] at h
    exact Gap.Everywhere.refill (fun b body hb => hb.withBody body) h
      (hc (Gap.Everywhere.of_fill h))
  -- blocks come in by their kind only, since the edit is plain
  cases hchanges with
  | @added s hoffers hroom =>
    cases s with
    | block b => cases hplain
    | kind k => exact Program.everywhere_append.2 ⟨h, blameless_of_offers hoffers⟩
  | removed hedit hblocks hmeans =>
    rw [hblocks, Program.everywhere_append, Program.everywhere_cons] at h
    exact Program.everywhere_append.2 ⟨h.1, h.2.2⟩
  | cleared => exact Program.everywhere_nil
  | @childAdded route s form gap parent body _ hoffers hblocks hreached hbody hanswer =>
    cases s with
    | block b => cases hplain
    | kind k =>
      apply hgap hblocks
      intro hparent
      rw [Program.everywhere_singleton, Block.children_of_body? hbody] at hparent
      rw [Program.everywhere_singleton, Block.children_withBody (Option.isSome_of_mem hbody),
        Program.everywhere_append]
      exact ⟨hparent.1.withBody _, hparent.2, blameless_of_offers hoffers⟩
  | @childRemoved above last n gap parent b front back hblocks hreached hbody hn hmeans =>
    apply hgap hblocks
    intro hparent
    rw [Program.everywhere_singleton, Block.children_of_body? hbody,
      Program.everywhere_iff] at hparent
    rw [Program.everywhere_singleton, Block.children_withBody (Option.isSome_of_mem hbody),
      Program.everywhere_iff]
    exact ⟨hparent.1.withBody _, fun c hc => hparent.2 c (mem_of_mem_without hc)⟩
  | configured hblocks hreached htakes =>
    apply hgap hblocks
    intro hb
    rw [Program.everywhere_singleton] at hb ⊢
    rcases hb.1.updates (List.all_eq_true.1 hplain) with ⟨hself, hchildren⟩
    rw [hchildren]
    exact ⟨hself, hb.2⟩
  | found hget => exact h
  | built hkept => exact h

/-- Edits that keep to the palette, and edits that change nothing, leave blameless nodes only. -/
theorem blameless_after {edits : List (Edit ι)} (hkeeps : e.keepsToPalette edits = true)
    (h : e.blocks.Everywhere (Block.Blameless e.rules)) :
    (e.after edits).blocks.Everywhere (Block.Blameless e.rules) := by
  induction edits generalizing e with
  | nil => exact h
  | cons edit edits ih =>
    rw [keepsToPalette, Bool.and_eq_true, Bool.or_eq_true, decide_eq_true_eq] at hkeeps
    rcases hkeeps with ⟨hplain | hsame, hrest⟩
    · rw [after]
      rcases e.perform_cases edit with ⟨f, hrefused⟩ | ⟨answer, blocks, hdone, hchanges⟩
      · rw [hrefused] at hrest ⊢
        exact ih hrest h
      · rw [hdone] at hrest ⊢
        exact ih hrest (hchanges.blameless hplain h)
    · rw [hsame] at hrest
      rw [after, hsame]
      exact ih hrest h

end Editor

/-! ## Handing out the program -/

/-- In a program of blameless nodes that the budget affords, every issue is a node that stands too
deep. -/
theorem Program.tooDeep_of_mem_issues {r : Rules} {p : Program}
    (h : p.Everywhere (Block.Blameless r)) (hbudget : r.affords p.length = true) {issue : Issue}
    (hissue : issue ∈ (p.check r).issues) :
    ∃ n ∈ p.walk, Block.maxDepth < n.1.length ∧ issue = .node n.1 .tooDeep := by
  rw [check, budgetIssues_eq_nil_iff.2 hbudget, List.append_nil] at hissue
  rcases Block.mem_issuesFrom hissue with ⟨i, b, hb, hbelow⟩
  rcases Block.exists_node_of_mem_issues hbelow with ⟨n, hn, f, hf, rfl⟩
  have hnode : n ∈ p.walk := Block.mem_walkFrom_iff.2 ⟨i, b, hb, hn⟩
  rcases (h n hnode).tooDeep hf with ⟨rfl, hdeep⟩
  exact ⟨n, hnode, hdeep, rfl⟩

namespace Editor

/-- An editor that was used to add blocks of the palette, to remove blocks and to give settings the
values they are made for, whether its edits were refused or not, hands out its program exactly if no
block stands deeper than sixteen levels. Other edits may be tried meanwhile if they change nothing.
When the program is not handed out, depth is all that the editor complains about. -/
theorem palette_edits_fail_on_depth_only (limit : Option Nat) (palette : Option (List Kind))
    {edits : List (Edit ι)}
    (hkeeps : (ofLimits (limit.map Int.ofNat) palette).keepsToPalette edits = true) :
    let e := (ofLimits (limit.map Int.ofNat) palette).after edits
    ((∃ p, (e.build : Except (EditFault ι) Program) = .ok p) ↔
        ∀ n ∈ e.blocks.walk, n.1.length ≤ 16) ∧
      (∀ p, (e.build : Except (EditFault ι) Program) = .ok p → p = e.blocks) ∧
      ∀ f, (e.build : Except (EditFault ι) Program) = .error f →
        ∃ issues, f = .rejected issues ∧
          ∀ issue ∈ issues, ∃ n ∈ e.blocks.walk, issue = .node n.1 .tooDeep := by
  intro e
  have hrules : e.rules = (ofLimits (limit.map Int.ofNat) palette).rules := rules_after _ edits
  have hblameless : e.blocks.Everywhere (Block.Blameless e.rules) := by
    rw [hrules]
    exact blameless_after hkeeps Program.everywhere_nil
  have hbudget : e.rules.affords e.blocks.length = true := by
    cases limit with
    | none =>
      rw [hrules]
      rfl
    | some n =>
      have hwithin : e.WithinBudget n := withinBudget_after n palette edits
      have hle := hwithin.length_le
      rw [Rules.affords_iff hwithin.limit]
      omega
  -- nothing is left to be blamed but the depth
  have hissues (issue : Issue) (hissue : issue ∈ (e.blocks.check e.rules).issues) :=
    Program.tooDeep_of_mem_issues hblameless hbudget hissue
  refine ⟨⟨?_, ?_⟩, ?_, ?_⟩
  · rintro ⟨p, hbuild⟩ n hn
    have hvalid : (e.blocks.check e.rules).valid :=
      List.isEmpty_iff.2 (build_eq_ok_iff.1 hbuild).2
    exact Block.depth_le_of_faults (Program.faults_of_valid hvalid hn)
  · intro hshallow
    refine ⟨e.blocks, build_eq_ok_iff.2 ⟨rfl, List.eq_nil_iff_forall_not_mem.2 ?_⟩⟩
    intro issue hissue
    rcases hissues issue hissue with ⟨n, hn, hdeep, -⟩
    exact absurd (hshallow n hn) (Nat.not_le.2 hdeep)
  · intro p hbuild
    exact (build_eq_ok_iff.1 hbuild).1
  · intro f hbuild
    -- a fault of depth holds no integer, so it can be told
    have hwritable : (e.blocks.check e.rules).issues.all Issue.isWritable = true := by
      rw [List.all_eq_true]
      intro issue hissue
      rcases hissues issue hissue with ⟨n, -, -, rfl⟩
      rfl
    refine ⟨_, (eq_told_of_build hbuild).trans (if_pos hwritable), ?_⟩
    intro issue hissue
    rcases hissues issue hissue with ⟨n, hn, -, hnode⟩
    exact ⟨n, hn, hnode⟩

/-- Functions in functions, as deep as it takes, with an edit among them that is refused. -/
def nestedFunctions (depth : Nat) : List Edit :=
  .add (.kind .function) :: .add (.block (.foreign .null)) ::
    (List.range depth).map (fun n => .addChild (List.replicate (n + 1) 0) (.kind .function))

/-- With sixteen functions below the first one, the last one stands too deep, and nothing else is
wrong. -/
theorem palette_edits_fail_on_depth_only_nested :
    (ofLimits none (some [.function])).keepsToPalette (nestedFunctions 16) = true ∧
      let e := (ofLimits none (some [.function])).after (nestedFunctions 16)
      (∃ n ∈ e.blocks.walk, 16 < n.1.length) ∧
        (¬ ∃ p, (e.build : Except (EditFault Int) Program) = .ok p) ∧
        ∀ f, (e.build : Except (EditFault Int) Program) = .error f →
          ∃ issues, f = .rejected issues ∧
            ∀ issue ∈ issues, ∃ n ∈ e.blocks.walk, issue = .node n.1 .tooDeep := by
  have hkeeps : (ofLimits none (some [.function])).keepsToPalette (nestedFunctions 16) = true := by
    decide +kernel
  refine ⟨hkeeps, ?_⟩
  intro e
  have hdeep : ∃ n ∈ e.blocks.walk, 16 < n.1.length := by decide +kernel
  rcases palette_edits_fail_on_depth_only none (some [.function]) hkeeps with
    ⟨hiff, -, hcomplaints⟩
  refine ⟨hdeep, ?_, hcomplaints⟩
  intro hbuilt
  rcases hdeep with ⟨n, hn, hlong⟩
  exact Nat.not_le.2 hlong (hiff.1 hbuilt n hn)

end Editor

end GridRobot
