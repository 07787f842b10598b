import GridRobot.Machine
import GridRobot.Proofs.Program.Tree
import GridRobot.Proofs.Execution.Steps

/-!
# Where a run breaks off

A run stops in the middle when it comes to a node that it has no handler for, to a move without a
direction, to a loop whose count is no integer or to a condition that is none. Such a node is an
obstacle. The only obstacles of a valid program are nodes of derived classes: they count as blocks
when the program is checked, but a handler is looked up by the class itself.

* `Block.exec_obstacle`: a run that breaks off does so at an obstacle of its program;
* `Machine.turn_cases_of_nodes`: neither does a machine fail in a turn but at an obstacle, or
  because its host cancels it, and it has less work left after every action;
* `Program.run_of_valid`: how a valid program goes, in one go and turn by turn.
-/

namespace GridRobot

variable {κ : Type} [Coordinate κ]

/-! ## Obstacles -/

namespace Block

/-- What stops a run that comes to the node at a path, whatever is below the node. -/
def obstacle? (path : Path) : Block → Option RunFault
  | .move (.other v) => some (.badDirection v)
  | .loop count _ => if count.count?.isSome then none else some (.badCount count)
  | .conditional (.other v) _ => some (if v.isWritable then .unknownCondition v else .unwritable)
  | .foreign v => some (.noHandler v.typeName path)
  | .derived name _ => some (.noHandler name path)
  | _ => none

/-- One of the nodes stops a run with the fault. -/
def Hinder (nodes : List (Path × Block)) (f : RunFault) : Prop :=
  ∃ n ∈ nodes, n.2.obstacle? n.1 = some f

theorem Hinder.mono {nodes nodes' : List (Path × Block)} {f : RunFault} (h : Hinder nodes f)
    (hsub : nodes ⊆ nodes') : Hinder nodes' f := by
  obtain ⟨n, hn, hf⟩ := h
  exact ⟨n, hsub hn, hf⟩

/-- No node cancels a run. -/
theorem obstacle_ne_cancelled (path : Path) (b : Block) : b.obstacle? path ≠ some .cancelled := by
  unfold obstacle?
  split
  · simp
  · split <;> simp
  · split <;> simp
  · simp
  · simp
  · simp

/-- A node without faults is no obstacle, unless its class is derived from another one. -/
theorem obstacle_of_faults {r : Rules} {depth : Nat} {b : Block} (h : b.faults r depth = [])
    {path : Path} {f : RunFault} (hf : b.obstacle? path = some f) :
    ∃ name base, b = .derived name base ∧ f = .noHandler name path := by
  have hdepth : ¬ maxDepth < depth := Nat.not_lt.2 (depth_le_of_faults h)
  cases b with
  | move direction =>
    cases direction with
    | known d => cases hf
    | other v => simp [faults, kind?, hdepth] at h
  | loop count body =>
    -- a count without faults is an integer
    cases count with
    | int n => cases hf
    | _ => simp [faults, kind?, hdepth, settingFaults, countFaults] at h
  | conditional condition body =>
    cases condition with
    | known c => cases hf
    | other v => simp [faults, kind?, hdepth, settingFaults] at h
  | foreign v => simp [faults, kind?] at h
  | function name body => cases hf
  | collect => cases hf
  | wait => cases hf
  | breakOut => cases hf
  | derived name base =>
    cases hf
    exact ⟨name, base, rfl, rfl⟩

end Block

/-- The program has a node of a derived class at which a run breaks off with the fault. -/
def Program.HindersByDerived (p : Program) (f : RunFault) : Prop :=
  ∃ path name base, (path, Block.derived name base) ∈ p.walk ∧ f = .noHandler name path

/-- The obstacles of a valid program are its nodes of derived classes. -/
theorem Program.hindersByDerived_of_valid {r : Rules} {p : Program} (hp : (p.check r).valid)
    {f : RunFault} (h : Block.Hinder p.walk f) : p.HindersByDerived f := by
  obtain ⟨⟨path, b⟩, hn, hf⟩ := h
  obtain ⟨name, base, rfl, rfl⟩ := Block.obstacle_of_faults (faults_of_valid hp hn) hf
  exact ⟨path, name, base, hn, rfl⟩

/-- A genuine program has no such nodes. -/
theorem Program.Genuine.not_hinders {p : Program} (hp : p.Genuine) (f : RunFault) :
    ¬ p.HindersByDerived f := by
  rintro ⟨path, name, base, hn, -⟩
  cases hp _ hn

/-! ## Running in one go -/

/-- A repetition that breaks off does so in its body. -/
theorem repeatBody_error {κ : Type} {body : State κ → Result κ} {n : Nat} {s : State κ}
    {f : RunFault} (h : (repeatBody body n s).1 = .error f) : ∃ t, (body t).1 = .error f := by
  induction n generalizing s with
  | zero => cases h
  | succ n ih =>
    rw [repeatBody] at h
    split at h
    · exact ih h
    · cases h
    · next heq => exact ⟨s, by rw [heq]; exact h⟩

namespace Block

/-- Siblings stop only at an obstacle if each of them does. -/
theorem execFrom_obstacle_of {w : World κ} {f : RunFault} {bs : List Block}
    (hbs : ∀ b ∈ bs, ∀ path s, (b.exec w path s).1 = .error f → Hinder (b.walk path) f)
    {path : Path} {index : Nat} {s : State κ}
    (h : (execFrom w path index bs s).1 = .error f) : Hinder (walkFrom path index bs) f := by
  induction bs generalizing index s with
  | nil =>
    rw [execFrom] at h
    cases h
  | cons b bs ih =>
    rw [walkFrom]
    rw [execFrom] at h
    split at h
    · exact (ih (fun c hc => hbs c (List.mem_cons_of_mem _ hc)) h).mono
        (List.subset_append_right _ _)
    · cases h
    · next heq =>
      exact (hbs b List.mem_cons_self (path ++ [index]) s (by rw [heq]; exact h)).mono
        (List.subset_append_left _ _)

/-- A block that breaks off does so at an obstacle at or below it. -/
theorem exec_obstacle {w : World κ} {f : RunFault} (b : Block) {path : Path} {s : State κ}
    (h : (b.exec w path s).1 = .error f) : Hinder (b.walk path) f := by
  induction b using children_induction generalizing path s with
  | node b ih =>
    -- either the node itself stops the run, or something in its body does
    have hself (hf : b.obstacle? path = some f) : Hinder (b.walk path) f :=
      ⟨(path, b), mem_walk_self path b, hf⟩
    have hbody {t : State κ} (ht : (execFrom w path 0 b.children t).1 = .error f) :
        Hinder (b.walk path) f :=
      (execFrom_obstacle_of (fun c hc path s hs => ih c hc hs) ht).mono
        (fun n hn => mem_walk_of_mem_walkFrom hn)
    cases b with
    | move direction =>
      cases direction with
      | known d =>
        rw [exec] at h
        cases h
      | other v =>
        rw [exec] at h
        cases h
        exact hself rfl
    | collect =>
      rw [exec] at h
      cases h
    | wait =>
      rw [exec] at h
      cases h
    | breakOut =>
      rw [exec] at h
      cases h
    | loop count body =>
      rw [exec] at h
      split at h
      · obtain ⟨t, ht⟩ := repeatBody_error h
        exact hbody ht
      · next hcount =>
        cases h
        exact hself (by simp [obstacle?, hcount])
    | conditional condition body =>
      -- the body runs only if the condition holds
      cases condition with
      | known c =>
        rw [exec, Setting.test] at h
        cases hc : c.holds w s with
        | true =>
          rw [hc] at h
          exact hbody h
        | false =>
          rw [hc] at h
          cases h
      | other v =>
        rw [exec, Setting.test] at h
        cases h
        exact hself rfl
    | function name body =>
      rw [exec] at h
      exact hbody h
    | foreign v =>
      rw [exec] at h
      cases h
      exact hself rfl
    | derived name base =>
      rw [exec] at h
      cases h
      exact hself rfl

end Block

/-- A program that breaks off does so at one of its obstacles. -/
theorem Program.obstacle_of_run {p : Program} {w : World κ} {g : Goal κ} {f : RunFault}
    (h : p.run w g = .error f) : Block.Hinder p.walk f := by
  unfold Program.run at h
  split at h
  · cases h
  · next heq =>
    cases h
    exact Block.execFrom_obstacle_of (fun b _ _ _ hs => Block.exec_obstacle b hs) (by rw [heq])

/-- A valid program that is genuine runs to its end. -/
theorem Program.run_ok_of_genuine {r : Rules} {p : Program} (hp : (p.check r).valid)
    (hgen : p.Genuine) (w : World κ) (g : Goal κ) : ∃ es o, p.run w g = .ok (es, o) := by
  cases hrun : p.run w g with
  | ok result => exact ⟨result.1, result.2, rfl⟩
  | error f =>
    exact absurd (hindersByDerived_of_valid hp (obstacle_of_run hrun)) (hgen.not_hinders f)

/-! ## Looking for the next action -/

/-- The block that does what is intended. -/
def Intent.block : Intent → Block
  | .act a => a.block
  | .badMove v => .move (.other v)

namespace Frame

/-- The nodes that a frame holds. -/
def nodes : Frame → List (Path × Block)
  | .siblings path index blocks => Block.walkFrom path index blocks
  | .repetitions path _ body => Block.walkFrom path 0 body

/-- The nodes that a stack of frames holds. -/
def nodesAll (frames : List Frame) : List (Path × Block) := frames.flatMap nodes

theorem nodesAll_cons (f : Frame) (fs : List Frame) : nodesAll (f :: fs) = f.nodes ++ nodesAll fs :=
  List.flatMap_cons

theorem nodesAll_append (fs gs : List Frame) : nodesAll (fs ++ gs) = nodesAll fs ++ nodesAll gs :=
  List.flatMap_append

theorem workAll_append (fs gs : List Frame) : workAll (fs ++ gs) = workAll fs + workAll gs := by
  induction fs with
  | nil => simp [workAll]
  | cons f fs ih => simp [workAll, ih, Nat.add_assoc]

end Frame

/-- What is found comes from the nodes, and so does everything that is left then; less work than the
bound is left. A fault is that of an obstacle. -/
def Search.Within (nodes : List (Path × Block)) (bound : Nat) : Search → Prop
  | .nothing => True
  | .found intent path rest =>
    (path, intent.block) ∈ nodes ∧ Frame.nodesAll rest ⊆ nodes ∧ Frame.workAll rest < bound
  | .fault f => Block.Hinder nodes f

namespace Search.Within

variable {s : Search} {nodes nodes' : List (Path × Block)} {m n : Nat}

/-- What is found among some nodes is found among more of them. -/
theorem mono (h : s.Within nodes m) (hsub : nodes ⊆ nodes') (hmn : m ≤ n) : s.Within nodes' n := by
  cases s with
  | nothing => trivial
  | found intent path rest =>
    obtain ⟨hself, hrest, hwork⟩ := h
    exact ⟨hsub hself, List.Subset.trans hrest hsub, Nat.lt_of_lt_of_le hwork hmn⟩
  | fault f => exact Block.Hinder.mono h hsub

/-- More frames behind what was found add their nodes and their work. -/
theorem append {intent : Intent} {path : Path} {rest : List Frame}
    (h : (Search.found intent path rest).Within nodes n) (frames : List Frame) :
    (Search.found intent path (rest ++ frames)).Within (nodes ++ Frame.nodesAll frames)
      (n + Frame.workAll frames) := by
  obtain ⟨hself, hrest, hwork⟩ := h
  refine ⟨List.mem_append_left _ hself, ?_, ?_⟩
  · rw [Frame.nodesAll_append]
    exact List.append_subset.2 ⟨List.Subset.trans hrest (List.subset_append_left _ _),
      List.subset_append_right _ _⟩
  · rw [Frame.workAll_append]
    exact Nat.add_lt_add_right hwork _

/-- A frame that follows adds its own nodes and work. -/
theorem followedBy (h : s.Within nodes n) (frame : Frame) :
    (s.followedBy frame).Within (nodes ++ frame.nodes) (n + frame.work) := by
  cases s with
  | nothing => trivial
  | found intent path rest =>
    simpa [Frame.workAll, Frame.nodesAll, Search.followedBy] using append h [frame]
  | fault f => exact Block.Hinder.mono h (List.subset_append_left _ _)

/-- The repetitions of a body hold its nodes again. -/
theorem repetitions {path : Path} {body : List Block}
    (h : s.Within (Block.walkFrom path 0 body) (Block.workAll body)) (n : Nat) :
    (s.followedBy (.repetitions path n body)).Within (Block.walkFrom path 0 body)
      ((n + 1) * Block.workAll body) := by
  refine (h.followedBy (.repetitions path n body)).mono ?_ (Nat.le_of_eq ?_)
  · exact List.append_subset.2 ⟨List.Subset.refl _, List.Subset.refl _⟩
  · show Block.workAll body + n * Block.workAll body = (n + 1) * Block.workAll body
    rw [Nat.succ_mul, Nat.add_comm]

end Search.Within

namespace Block

/-- A search among siblings stays among their nodes if each search does. -/
theorem searchFrom_within_of {w : World κ} {s : State κ} {bs : List Block}
    (hbs : ∀ b ∈ bs, ∀ path, (b.search w s path).Within (b.walk path) b.work)
    (path : Path) (index : Nat) :
    (searchFrom w s path index bs).Within (walkFrom path index bs) (workAll bs) := by
  induction bs generalizing index with
  | nil =>
    rw [searchFrom]
    trivial
  | cons b bs ih =>
    have hb := hbs b List.mem_cons_self (path ++ [index])
    rw [searchFrom, walkFrom, workAll]
    split
    · exact (ih (fun c hc => hbs c (List.mem_cons_of_mem _ hc)) (index + 1)).mono
        (List.subset_append_right _ _) (Nat.le_add_left _ _)
    · exact hb.followedBy (.siblings path (index + 1) bs)

/-- In a block there is nothing to do, or something that uses up some of its work, or an
obstacle. -/
theorem search_within (w : World κ) (s : State κ) (b : Block) (path : Path) :
    (b.search w s path).Within (b.walk path) b.work := by
  induction b using children_induction generalizing path with
  | node b ih =>
    -- the search goes into the body, finds the node itself, or stops at it
    have hsub : walkFrom path 0 b.children ⊆ b.walk path := fun n hn => mem_walk_of_mem_walkFrom hn
    have hbody : (searchFrom w s path 0 b.children).Within (walkFrom path 0 b.children)
        (workAll b.children) := searchFrom_within_of ih path 0
    have hleaf (intent : Intent) (hb : b = intent.block) :
        (Search.found intent path []).Within (b.walk path) 1 :=
      ⟨hb ▸ mem_walk_self path b, List.nil_subset _, Nat.one_pos⟩
    have hself {f : RunFault} (hf : b.obstacle? path = some f) : Hinder (b.walk path) f :=
      ⟨(path, b), mem_walk_self path b, hf⟩
    cases b with
    | move direction =>
      cases direction with
      | known d => simpa [search, work] using hleaf (.act (.move d)) rfl
      | other v => simpa [search, work] using hleaf (.badMove v) rfl
    | collect => simpa [search, work] using hleaf (.act .collect) rfl
    | wait => simpa [search, work] using hleaf (.act .wait) rfl
    | breakOut => simpa [search, work] using hleaf (.act .breakOut) rfl
    | loop count body =>
      -- a loop that goes round no more has nothing to be found in it
      rw [search, work]
      split
      · trivial
      · next n hcount =>
        rw [hcount]
        exact (hbody.repetitions n).mono hsub (Nat.le_refl _)
      · next hcount => exact hself (by simp [obstacle?, hcount])
    | conditional condition body =>
      cases condition with
      | known c =>
        rw [search, work, Setting.test]
        cases c.holds w s with
        | true => exact hbody.mono hsub (Nat.le_refl _)
        | false => trivial
      | other v =>
        rw [search, Setting.test]
        exact hself rfl
    | function name body =>
      rw [search, work]
      exact hbody.mono hsub (Nat.le_refl _)
    | foreign v =>
      rw [search]
      exact hself rfl
    | derived name base =>
      rw [search]
      exact hself rfl

end Block

/-- A search through a frame stays among its nodes and within its work. -/
theorem Frame.search_within (w : World κ) (s : State κ) (f : Frame) :
    (f.search w s).Within f.nodes f.work := by
  have hbody (path : Path) (index : Nat) (bs : List Block) :
      (Block.searchFrom w s path index bs).Within (Block.walkFrom path index bs)
        (Block.workAll bs) :=
    Block.searchFrom_within_of (fun b _ path => b.search_within w s path) path index
  cases f with
  | siblings path index blocks => exact hbody path index blocks
  | repetitions path count body =>
    cases count with
    | zero => trivial
    | succ n => exact (hbody path 0 body).repetitions n

/-- The same for a stack of frames. -/
theorem Frame.searchStack_within (w : World κ) (s : State κ) (frames : List Frame) :
    (Frame.searchStack w s frames).Within (Frame.nodesAll frames) (Frame.workAll frames) := by
  induction frames with
  | nil => trivial
  | cons f fs ih =>
    have hf := f.search_within w s
    rw [searchStack, workAll, nodesAll_cons]
    split
    · exact ih.mono (List.subset_append_right _ _) (Nat.le_add_left _ _)
    · next heq =>
      rw [heq] at hf
      exact hf.append fs
    · next heq =>
      rw [heq] at hf
      exact Block.Hinder.mono hf (List.subset_append_left _ _)

/-! ## Running turn by turn -/

/-- A break leaves some of the frames, and no more work than there was. -/
theorem Frame.leaveLoop_some {rest frames : List Frame} (h : Frame.leaveLoop rest = some frames) :
    Frame.nodesAll frames ⊆ Frame.nodesAll rest ∧ Frame.workAll frames ≤ Frame.workAll rest := by
  induction rest with
  | nil => cases h
  | cons f rest ih =>
    rw [nodesAll_cons, workAll]
    cases f with
    | siblings path index blocks =>
      obtain ⟨hsub, hwork⟩ := ih h
      exact ⟨List.Subset.trans hsub (List.subset_append_right _ _), by omega⟩
    | repetitions path count body =>
      cases h
      exact ⟨List.subset_append_right _ _, by omega⟩

namespace Machine

/-- The nodes that are left to run. -/
def nodes (m : Machine κ) : List (Path × Block) := Frame.nodesAll m.frames

omit [Coordinate κ] in
/-- A new machine has all nodes of the program ahead. -/
theorem nodes_start (w : World κ) (p : Program) : (start w p).nodes = p.walk := by
  simp [nodes, start, Frame.nodesAll, Frame.nodes, Program.walk]

/-- An action leaves nothing to do that was not left behind it already. -/
theorem perform_within (m : Machine κ) (a : Action) (path : Path) (rest : List Frame) :
    (m.perform a path rest).nodes ⊆ Frame.nodesAll rest ∧
      (m.perform a path rest).work ≤ Frame.workAll rest := by
  unfold perform
  dsimp only
  split
  · -- a break goes on behind the innermost loop; outside of loops nothing is left to do
    split
    · next heq => exact Frame.leaveLoop_some heq
    · exact ⟨List.nil_subset _, Nat.zero_le _⟩
  · exact ⟨List.Subset.refl _, Nat.le_refl _⟩

/-- In a turn a machine comes to its end, is cancelled by its host, comes to an obstacle, or acts
and then has less work left. Nothing is left to run that was not left before. -/
theorem turn_cases_of_nodes (m : Machine κ) (cancel : Nat → Bool) :
    (m.turn cancel).2.nodes ⊆ m.nodes ∧
      ((m.turn cancel).1 = .ended ∨
        ((m.turn cancel).1 = .failed .cancelled ∧ cancel m.checks) ∨
        (∃ f, (m.turn cancel).1 = .failed f ∧ Block.Hinder m.nodes f) ∨
        (∃ e, (m.turn cancel).1 = .acted e) ∧ (m.turn cancel).2.work < m.work) := by
  have hnext : m.next.Within m.nodes m.work := Frame.searchStack_within m.world m.state m.frames
  unfold Machine.turn
  split
  · exact ⟨List.Subset.refl _, Or.inl rfl⟩
  · next f heq =>
    rw [heq] at hnext
    exact ⟨List.Subset.refl _, Or.inr (Or.inr (Or.inl ⟨f, rfl, hnext⟩))⟩
  · next intent path rest heq =>
    rw [heq] at hnext
    obtain ⟨hself, hrest, hwork⟩ := hnext
    -- the host is asked only when there is something to do
    by_cases hc : cancel m.checks
    · rw [if_pos hc]
      exact ⟨List.Subset.refl _, Or.inr (Or.inl ⟨rfl, hc⟩)⟩
    · rw [if_neg hc]
      cases intent with
      | badMove v =>
        refine ⟨List.Subset.refl _, Or.inr (Or.inr (Or.inl ⟨_, rfl, ?_⟩))⟩
        exact ⟨_, hself, rfl⟩
      | act a =>
        obtain ⟨hsub, hle⟩ := m.perform_within a path rest
        exact ⟨List.Subset.trans hsub hrest,
          Or.inr (Or.inr (Or.inr ⟨⟨_, rfl⟩, Nat.lt_of_le_of_lt hle hwork⟩))⟩

/-- A machine after so many turns. -/
def after (cancel : Nat → Bool) : Nat → Machine κ → Machine κ
  | 0, m => m
  | n + 1, m => after cancel n (m.turn cancel).2

/-- No turn brings new nodes. -/
theorem nodes_after (m : Machine κ) (cancel : Nat → Bool) (n : Nat) :
    (m.after cancel n).nodes ⊆ m.nodes := by
  induction n generalizing m with
  | zero => exact List.Subset.refl _
  | succ n ih => exact List.Subset.trans (ih (m.turn cancel).2) (m.turn_cases_of_nodes cancel).1

/-- Whatever a machine fails with in some turn, its host has cancelled it, or it has come to an
obstacle. -/
theorem obstacle_of_turn {m : Machine κ} {cancel : Nat → Bool} {n : Nat} {f : RunFault}
    (h : ((m.after cancel n).turn cancel).1 = .failed f) :
    (f = .cancelled ∧ cancel (m.after cancel n).checks) ∨ Block.Hinder m.nodes f := by
  rcases ((m.after cancel n).turn_cases_of_nodes cancel).2 with
    hended | ⟨hcancelled, hc⟩ | ⟨f', hfailed, hf'⟩ | ⟨⟨e, hacted⟩, -⟩
  · rw [hended] at h
    cases h
  · rw [hcancelled] at h
    cases h
    exact Or.inl ⟨rfl, hc⟩
  · rw [hfailed] at h
    cases h
    exact Or.inr (hf'.mono (m.nodes_after cancel n))
  · rw [hacted] at h
    cases h

/-- A machine that is not cancelled comes to its end, or to an obstacle, within as many turns as it
has work. -/
theorem stops (m : Machine κ) :
    ∃ n ≤ m.work, ((m.after (fun _ => false) n).turn (fun _ => false)).1 = .ended ∨
      ∃ f, ((m.after (fun _ => false) n).turn (fun _ => false)).1 = .failed f := by
  induction hwork : m.work using Nat.strongRecOn generalizing m with
  | ind k ih =>
    rcases (m.turn_cases_of_nodes (fun _ => false)).2 with
      hended | ⟨-, hcancel⟩ | ⟨f, hfailed, -⟩ | ⟨-, hless⟩
    · exact ⟨0, Nat.zero_le _, Or.inl hended⟩
    · cases hcancel
    · exact ⟨0, Nat.zero_le _, Or.inr ⟨f, hfailed⟩⟩
    · rw [hwork] at hless
      obtain ⟨n, hn, hend⟩ := ih _ hless _ rfl
      exact ⟨n + 1, by omega, hend⟩

end Machine

/-! ## Valid programs -/

/-- Whatever the nodes of a valid program hold: in every world it runs to its end, with finitely
many events and an outcome, or it breaks off at a node of a derived class, for which there is no
handler. Turn by turn it comes to no other fault either, unless its host cancels it, and it stops
within as many turns as the program has work. A program without nodes of derived classes always runs
to its end. -/
theorem Program.run_of_valid {p : Program} (hp : (p.check {}).valid) (w : World κ) (g : Goal κ) :
    (∀ f, p.run w g = .error f → p.HindersByDerived f) ∧
      (∀ cancel n f,
        (((Machine.start w p).after cancel n).turn cancel).1 = .failed f →
          (f = .cancelled ∧ cancel ((Machine.start w p).after cancel n).checks) ∨
            p.HindersByDerived f) ∧
      (∃ n ≤ Block.workAll p,
        (((Machine.start w p).after (fun _ => false) n).turn (fun _ => false)).1 = .ended ∨
          ∃ f, (((Machine.start w p).after (fun _ => false) n).turn (fun _ => false)).1 =
            .failed f) ∧
      (p.Genuine →
        (∃ es o, p.run w g = .ok (es, o)) ∧
          (∀ cancel n f,
            (((Machine.start w p).after cancel n).turn cancel).1 = .failed f →
              f = .cancelled ∧ cancel ((Machine.start w p).after cancel n).checks) ∧
          ∃ n ≤ Block.workAll p,
            (((Machine.start w p).after (fun _ => false) n).turn (fun _ => false)).1 =
              .ended) := by
  have hwork : (Machine.start w p).work = Block.workAll p := by
    simp [Machine.work, Machine.start, Frame.workAll, Frame.work]
  have hturns (cancel : Nat → Bool) (n : Nat) (f : RunFault)
      (hf : (((Machine.start w p).after cancel n).turn cancel).1 = .failed f) :
      (f = .cancelled ∧ cancel ((Machine.start w p).after cancel n).checks) ∨
        p.HindersByDerived f := by
    rcases Machine.obstacle_of_turn hf with hcancelled | hobstacle
    · exact Or.inl hcancelled
    · rw [Machine.nodes_start] at hobstacle
      exact Or.inr (hindersByDerived_of_valid hp hobstacle)
  have hstops := (Machine.start w p).stops
  rw [hwork] at hstops
  refine ⟨fun f hf => hindersByDerived_of_valid hp (obstacle_of_run hf), hturns, hstops, ?_⟩
  intro hgen
  refine ⟨run_ok_of_genuine hp hgen w g, ?_, ?_⟩
  · intro cancel n f hf
    exact (hturns cancel n f hf).resolve_right (hgen.not_hinders f)
  · obtain ⟨n, hn, hended | ⟨f, hfailed⟩⟩ := hstops
    · exact ⟨n, hn, hended⟩
    · -- nobody cancels here, so there would have to be a derived node
      rcases hturns _ n f hfailed with ⟨-, hcancel⟩ | hhinders
      · cases hcancel
      · exact absurd hhinders (hgen.not_hinders f)

/-- A loop around a function and a conditional break is valid and genuine, so it runs to its end. -/
theorem Program.run_of_valid_nested :
    (Program.check {} [.loop (.int 3) [.function (.text "step") [.move (.known .right)],
      .conditional (.known .goalAhead) [.breakOut]]]).valid ∧
    ∃ es o, Program.run [.loop (.int 3) [.function (.text "step") [.move (.known .right)],
      .conditional (.known .goalAhead) [.breakOut]]]
        (⟨2, ⟨0, 1⟩, ⟨1, 0⟩, [], []⟩ : World) Goal.reach = .ok (es, o) :=
  ⟨by decide, ((Program.run_of_valid (by decide) _ _).2.2.2 (by decide)).1⟩

/-- A program whose only node belongs to a class derived from that of moves is valid, and yet its
run breaks off: there is no handler for the node. -/
theorem Program.valid_without_handler :
    (Program.check {} [.derived "Dash" (.move (.known .right))]).valid ∧
      Program.run [.derived "Dash" (.move (.known .right))]
        (⟨2, ⟨0, 1⟩, ⟨1, 0⟩, [], []⟩ : World) Goal.reach = .error (.noHandler "Dash" [0]) :=
  ⟨by decide, rfl⟩

end GridRobot
