import GridRobot.Proofs.Execution.Inlining
import GridRobot.Proofs.Program.Gap

/-!
# How often a block acts

An event tells the path of the block that acted. With each round of a loop the blocks in its body
may act again, so a block acts at most as often as the loops around it have rounds in all. It acts
that often if nothing can keep the robot from it: there is no break in the program, and no condition
around the block.

* `Program.mem_walk_of_mem_trace`: events are told of the blocks that act;
* `Program.ancestors_cons`, `Program.rounds_cons`: the blocks around a block, from the outside in;
* `Block.adds_execFrom`: what a run of siblings adds to the events of a block at or below them.
-/

namespace GridRobot

variable {κ : Type}

/-- The number of events of the block at a path. -/
def State.visits (q : Path) (s : State κ) : Nat := s.trace.countP (fun e => e.path = q)

/-- From a state on there are at most so many further events of the block at a path. If it is sure,
there are exactly so many, and no break, unless the run breaks off. -/
structure Result.Adds (q : Path) (k : Nat) (sure : Prop) (s : State κ) (r : Result κ) : Prop where
  most : r.2.visits q ≤ s.visits q + k
  all : sure → ∀ signal, r.1 = .ok signal → signal = .proceed ∧ r.2.visits q = s.visits q + k

section Adds

variable {q : Path} {k l : Nat} {sure sure' : Prop} {s : State κ} {r r' : Result κ}

theorem Result.Adds.mono (h : r.Adds q k sure' s) (hsure : sure → sure') : r.Adds q k sure s where
  most := h.most
  all := fun h' => h.all (hsure h')

/-- What goes on after a result adds to what the result has added. -/
theorem Result.Adds.andThen {next : Signal → State κ → Result κ} (h : r.Adds q k sure s)
    (hgo : ∀ t, (next .proceed t).Adds q l sure t) (hbroke : ∀ t, (next .broke t).2 = t) :
    (r.andThen next).Adds q (k + l) sure s := by
  rcases r with ⟨fault | signal, t⟩
  · exact ⟨Nat.le_trans h.most (Nat.add_le_add_left (Nat.le_add_right k l) _), nofun⟩
  · cases signal with
    | proceed =>
      constructor
      · have hfirst := h.most
        have hnext := (hgo t).most
        dsimp only at hfirst
        rw [andThen_ok]
        omega
      · intro hsure signal hok
        rcases h.all hsure .proceed rfl with ⟨-, hfirst⟩
        rcases (hgo t).all hsure signal hok with ⟨hsignal, hnext⟩
        refine ⟨hsignal, ?_⟩
        dsimp only at hfirst
        rw [andThen_ok]
        omega
    | broke =>
      -- after a break nothing more is added, and a run that is sure to add does not break
      constructor
      · have hfirst := h.most
        dsimp only at hfirst
        rw [andThen_ok, hbroke]
        omega
      · intro hsure
        cases (h.all hsure .broke rfl).1

end Adds

variable [Coordinate κ] {w : World κ} {s : State κ} {q path : Path}

/-! ## Actions -/

/-- An action adds one event of its own block at most, and one exactly if it is no collect. -/
theorem State.visits_perform (w : World κ) (path q : Path) (s : State κ) (a : Action) :
    (path ≠ q → (a.perform w path s).visits q = s.visits q) ∧
      (a.perform w path s).visits q ≤ s.visits q + 1 ∧
      (path = q → a ≠ .collect → (a.perform w path s).visits q = s.visits q + 1) := by
  rcases Action.journal_perform w path s a with ⟨entry, hjournal, -, hevent, hnone⟩
  have hvisits : (a.perform w path s).visits q =
      s.visits q + entry.toList.countP (fun e => e.path = q) := by
    rw [visits, trace_of_journal hjournal, List.countP_append]
    rfl
  rw [hvisits]
  cases entry with
  | none => exact ⟨fun _ => rfl, Nat.le_succ _, fun _ hcollect => absurd (hnone rfl) hcollect⟩
  | some e =>
    have hown : e.path = path := (hevent e rfl).1
    by_cases hpath : path = q
    · simp [hown, hpath]
    · simp [hown, hpath]

/-! ## Where events come from -/

/-- Every event points at the block that acted. -/
theorem Program.mem_walk_of_mem_trace (p : Program) (w : World κ) :
    ∀ e ∈ (Block.execFrom w [] 0 p (State.initial w)).2.trace,
      (e.path, e.deed.block) ∈ p.walk := by
  refine Block.execFrom_preserves
    (P := fun s => ∀ e ∈ s.trace, (e.path, e.deed.block) ∈ p.walk) ?_ ?_
  · intro path a hnode s hs e he
    rcases Action.journal_perform w path s a with ⟨entry, hjournal, -, hevent, -⟩
    rw [State.trace_of_journal hjournal, List.mem_append, Option.mem_toList] at he
    rcases he with he | he
    · exact hs e he
    · rw [(hevent e he).1, (hevent e he).2]
      exact hnode
  · intro e he
    cases he

/-- The block at a path has as many events as before if none of the blocks that run is there. -/
theorem Block.visits_execFrom_of_not_mem {bs : List Block} {index : Nat}
    (h : ∀ a : Action, (q, a.block) ∉ walkFrom path index bs) (s : State κ) :
    (execFrom w path index bs s).2.visits q = s.visits q := by
  refine execFrom_preserves (P := fun t => t.visits q = s.visits q) ?_ rfl
  intro path' a hnode t ht
  rw [← ht]
  refine (State.visits_perform w path' q t a).1 ?_
  rintro rfl
  exact h a hnode

/-! ## The blocks around a block -/

/-- How often the body of the block runs, if at all and unless it is broken. -/
def Block.turns : Block → Nat
  | .loop count _ => count.count?.getD 0
  | .conditional _ _ | .function _ _ => 1
  | .move _ | .collect | .wait | .breakOut | .foreign _ => 1
  | .derived _ b => b.turns

namespace Program

variable {p : Program} {i : Nat} {b : Block} {rest : Path}

/-- The blocks around the block at a path, from the outside in. -/
def ancestors (p : Program) (q : Path) : List Block :=
  (p.walk.filter (fun n => n.1 <+: q ∧ n.1 ≠ q)).map Prod.snd

/-- The product of the counts of the loops around the block at a path. -/
def rounds (p : Program) (q : Path) : Nat := (p.ancestors q).foldr (fun b n => b.turns * n) 1

theorem ancestors_singleton (p : Program) (i : Nat) : p.ancestors [i] = [] := by
  rw [ancestors, List.map_eq_nil_iff, List.filter_eq_nil_iff]
  intro n hn habove
  rw [decide_eq_true_eq] at habove
  have hlength := Block.length_lt_of_mem_walkFrom hn
  have heq := habove.1.eq_of_length (Nat.le_antisymm habove.1.length_le hlength)
  exact habove.2 heq

/-- The outermost block around a block is the top-level block to which its path leads first. -/
theorem ancestors_cons (hb : p[i]? = some b) (hrest : rest ≠ []) :
    p.ancestors (i :: rest) = b :: ancestors b.children rest := by
  have hbelow : p.walk.filter (fun n => n.1 <+: i :: rest ∧ n.1 ≠ i :: rest) =
      (b.walk [i]).filter (fun n => n.1 <+: i :: rest ∧ n.1 ≠ i :: rest) := by
    have hown := Block.walkFrom_filter hb [] 0
    rw [List.nil_append, Nat.zero_add] at hown
    rw [← hown, List.filter_filter]
    refine List.filter_congr (fun n hn => ?_)
    have hfirst (h : n.1 <+: i :: rest) : [i] <+: n.1 :=
      List.prefix_of_prefix_length_le (List.prefix_append [i] rest) h
        (Block.length_lt_of_mem_walkFrom hn)
    by_cases habove : n.1 <+: i :: rest
    · simp [habove, hfirst habove]
    · simp [habove]
  rw [ancestors, hbelow, Block.walk_singleton, List.filter_cons_of_pos, List.filter_map,
    List.map_cons, List.map_map, ancestors]
  · congr 2
    refine List.filter_congr (fun n _ => ?_)
    simp [List.cons_prefix_cons]
  · rw [decide_eq_true_eq]
    refine ⟨List.prefix_append [i] rest, fun heq => hrest ?_⟩
    exact (List.cons.inj heq).2.symm

/-- A path goes through the rounds of the first block, each time through those below it. -/
theorem rounds_cons (hb : p[i]? = some b) (hrest : rest ≠ []) :
    p.rounds (i :: rest) = b.turns * rounds b.children rest := by
  rw [rounds, ancestors_cons hb hrest]
  rfl

end Program

/-! ## Programs without breaks -/

namespace Program

/-- No block of the program breaks. -/
def Calm (p : Program) : Prop := p.Everywhere (· ≠ .breakOut)

variable {p : Program} {i : Nat} {b : Block} {rest : Path}

theorem Calm.of_cons (h : Calm (b :: p)) : Calm [b] ∧ Calm p := by
  have hboth := everywhere_cons.1 h
  exact ⟨everywhere_singleton.2 hboth.1, hboth.2⟩

/-- What is below a node of a calm program is calm. -/
theorem Calm.children (h : p.Calm) (hb : p[i]? = some b) : Calm b.children :=
  (everywhere_iff.1 h b (List.mem_of_getElem? hb)).2

/-- What does not break off proceeds. -/
theorem Calm.proceeds (h : p.Calm) (path : Path) (index : Nat) (s : State κ) (signal : Signal)
    (hok : (Block.execFrom w path index p s).1 = .ok signal) : signal = .proceed := by
  have hbreaks : p.BreaksNothing := fun q hq => absurd rfl (h (q, .breakOut) hq)
  cases signal with
  | proceed => rfl
  | broke =>
    refine absurd ?_ (hbreaks.execFrom_ne (w := w) path index s (Block.execFrom w path index p s).2)
    rw [← hok]

/-- The block at a path acts in every round: nothing breaks, no condition is around the block, and
its action always has an event. -/
structure Steady (p : Program) (q : Path) : Prop where
  calm : p.Calm
  unconditional : ∀ b ∈ p.ancestors q, ∀ c body, b ≠ .conditional c body
  acts : ∃ b, (q, b) ∈ p.walk ∧ ((∃ direction, b = .move direction) ∨ b = .wait)

/-- A steady path of one index leads to a move or a wait. -/
theorem Steady.own (h : p.Steady [i]) (hb : p[i]? = some b) :
    (∃ direction, b = .move direction) ∨ b = .wait := by
  rcases h.acts with ⟨c, hnode, hc⟩
  rcases mem_walk_iff.1 hnode with ⟨_, _, b', heq, hb', ⟨-, rfl⟩ | hbelow⟩
  · cases heq
    cases hb.symm.trans hb'
    exact hc
  · cases heq
    rcases mem_walk_iff.1 hbelow with ⟨_, _, _, heq, -⟩
    cases heq

/-- Below its first index, a steady path is steady in the body there. -/
theorem Steady.below (h : p.Steady (i :: rest)) (hb : p[i]? = some b) (hrest : rest ≠ []) :
    Steady b.children rest where
  calm := h.calm.children hb
  unconditional := by
    intro c hc
    exact h.unconditional c (by rw [ancestors_cons hb hrest]; exact List.mem_cons_of_mem b hc)
  acts := by
    rcases h.acts with ⟨c, hnode, hc⟩
    rcases mem_walk_iff.1 hnode with ⟨_, _, b', heq, hb', ⟨hnil, -⟩ | hbelow⟩
    · cases heq
      exact absurd hnil hrest
    · cases heq
      cases hb.symm.trans hb'
      exact ⟨c, hbelow, hc⟩

end Program

/-! ## Siblings -/

namespace Block

variable {bs : List Block} {b : Block} {index i k l : Nat} {sure : Prop}

/-- Siblings at other places have no node below a place. -/
theorem not_mem_walkFrom (bs : List Block) (index : Nat) {j : Nat} (hq : path ++ [j] <+: q)
    (hj : ∀ i < bs.length, index + i ≠ j) (c : Block) : (q, c) ∉ walkFrom path index bs := by
  intro hn
  rcases mem_walkFrom_iff.1 hn with ⟨i, d, hd, hn⟩
  exact hj i (List.getElem?_eq_some_iff.1 hd).1 (index_eq_of_mem_walk hn hq)

/-- Siblings that are not on the path add nothing. -/
theorem adds_none (hnone : ∀ c, (q, c) ∉ walkFrom path index bs)
    (hcalm : sure → Program.Calm bs) (s : State κ) :
    (execFrom w path index bs s).Adds q 0 sure s := by
  have hkept := visits_execFrom_of_not_mem (w := w) (fun a => hnone a.block) s
  constructor
  · rw [hkept]
    exact Nat.le_refl _
  · intro hsure signal hok
    exact ⟨(hcalm hsure).proceeds path index s signal hok, hkept⟩

/-- What a body adds is added in each of its rounds. -/
theorem adds_repeatBody (h : ∀ t, (execFrom w path 0 bs t).Adds q k sure t) (n : Nat)
    (s : State κ) : (repeatBody (execFrom w path 0 bs) n s).Adds q (n * k) sure s := by
  induction n generalizing s with
  | zero =>
    rw [Nat.zero_mul]
    refine ⟨Nat.le_refl _, fun _ signal hok => ?_⟩
    cases hok
    exact ⟨rfl, rfl⟩
  | succ n ih =>
    rw [Nat.succ_mul, Nat.add_comm, repeatBody_succ]
    refine (h s).andThen (fun t => ?_) (fun t => rfl)
    rw [Frame.resume_proceed]
    simpa [Frame.exec] using ih t

/-- The events at a path are those of the first block and those of its younger siblings. -/
theorem adds_cons (hb : (b.exec w (path ++ [index]) s).Adds q k sure s)
    (hbs : ∀ t, (execFrom w path (index + 1) bs t).Adds q l sure t) :
    (execFrom w path index (b :: bs) s).Adds q (k + l) sure s := by
  rw [execFrom_cons]
  refine hb.andThen (fun t => ?_) (fun t => rfl)
  rw [resume_siblings]
  exact hbs t

/-- Siblings add what the one of them adds that is on the path. -/
theorem adds_siblings (hb : bs[i]? = some b) (hq : path ++ [index + i] <+: q)
    (hcalm : sure → Program.Calm bs)
    (h : ∀ t, (b.exec w (path ++ [index + i]) t).Adds q k sure t) (s : State κ) :
    (execFrom w path index bs s).Adds q k sure s := by
  induction bs generalizing index i s with
  | nil => cases hb
  | cons c bs ih =>
    have hfirst (hsure : sure) : Program.Calm [c] := (hcalm hsure).of_cons.1
    have hrest (hsure : sure) : Program.Calm bs := (hcalm hsure).of_cons.2
    cases i with
    | zero =>
      cases hb
      -- the siblings behind are not on the path
      have hnone := not_mem_walkFrom bs (index + 1) hq (fun i _ => by omega)
      exact adds_cons (h s) (adds_none hnone hrest)
    | succ i =>
      -- the path leads past this one
      have hnone := not_mem_walkFrom [c] index hq
        (fun j hj => by rw [List.length_singleton] at hj; omega)
      have hkeeps : (c.exec w (path ++ [index]) s).Adds q 0 sure s := by
        rw [← execFrom_singleton]
        exact adds_none hnone hfirst s
      have hindex : index + (i + 1) = index + 1 + i := by omega
      rw [hindex] at hq h
      have hboth := adds_cons hkeeps (ih hb hq hrest h)
      rwa [Nat.zero_add] at hboth

/-! ## Below a path -/

/-- A block adds one event of its own at most. -/
theorem adds_here (w : World κ) (path : Path) (b : Block)
    (hsure : sure → (∃ direction, b = .move direction) ∨ b = .wait) (s : State κ) :
    (b.exec w path s).Adds path 1 sure s := by
  -- what is in the body has longer paths
  have hbody (t : State κ) : (execFrom w path 0 b.children t).2.visits path = t.visits path := by
    refine visits_execFrom_of_not_mem (fun a hnode => ?_) t
    exact absurd (length_lt_of_mem_walkFrom hnode) (Nat.lt_irrefl _)
  have haction (a : Action) (hproceeds : a.signal = .proceed) (hne : a ≠ .collect) :
      Result.Adds path 1 sure s (.ok a.signal, a.perform w path s) := by
    have hvisits := State.visits_perform w path path s a
    refine ⟨hvisits.2.1, fun _ signal hok => ?_⟩
    cases hok
    exact ⟨hproceeds, hvisits.2.2 rfl hne⟩
  -- all other blocks have no event of their own, or are not sure to have one
  have hquiet {r : Result κ} (hr : r.2.visits path ≤ s.visits path + 1)
      (hb : ¬ ((∃ direction, b = .move direction) ∨ b = .wait)) : r.Adds path 1 sure s :=
    ⟨hr, fun h => absurd (hsure h) hb⟩
  have hstops (f : RunFault) : Result.Adds path 1 sure s (.error f, s) := by
    refine ⟨Nat.le_add_right _ _, fun _ signal hok => ?_⟩
    cases hok
  cases b with
  | move direction =>
    cases direction with
    | known d =>
      rw [exec]
      exact haction (.move d) rfl (by simp)
    | other v =>
      rw [exec]
      exact hstops _
  | wait =>
    rw [exec]
    exact haction .wait rfl (by simp)
  | collect =>
    rw [exec]
    exact hquiet (State.visits_perform w path path s _).2.1 (by simp)
  | breakOut =>
    rw [exec]
    exact hquiet (State.visits_perform w path path s _).2.1 (by simp)
  | loop count body =>
    refine hquiet (Nat.le_succ_of_le (Nat.le_of_eq ?_)) (by simp)
    rw [exec]
    split
    · exact repeatBody_preserves (P := fun t => t.visits path = s.visits path)
        (fun t ht => (hbody t).trans ht) _ rfl
    · rfl
  | conditional condition body =>
    refine hquiet (Nat.le_succ_of_le (Nat.le_of_eq ?_)) (by simp)
    rw [exec]
    split
    · exact hbody s
    · rfl
    · rfl
  | function name body =>
    refine hquiet (Nat.le_succ_of_le (Nat.le_of_eq ?_)) (by simp)
    rw [exec]
    exact hbody s
  | foreign v =>
    rw [exec]
    exact hstops _
  | derived name base =>
    rw [exec]
    exact hstops _

/-- A block adds in each of its rounds what its body adds to a block further down. -/
theorem adds_below {rest : Path} (hrest : rest ≠ []) (b : Block)
    (hbody : ∀ t, (execFrom w path 0 b.children t).Adds (path ++ rest) k
      (Program.Steady b.children rest) t)
    (hsure : sure → Program.Steady b.children rest ∧ ∀ c body, b ≠ .conditional c body)
    (s : State κ) : (b.exec w path s).Adds (path ++ rest) (b.turns * k) sure s := by
  have hne : path ≠ path ++ rest := fun heq => hrest (List.self_eq_append_right.1 heq)
  -- a block without a body adds nothing, and nothing in it is steady
  have hleaf {r : Result κ} (hr : r.2.visits (path ++ rest) = s.visits (path ++ rest))
      (hb : b.children = []) : r.Adds (path ++ rest) (b.turns * k) sure s := by
    refine ⟨by omega, fun h => ?_⟩
    rcases (hsure h).1.acts with ⟨c, hnode, -⟩
    rw [hb] at hnode
    cases hnode
  have haction (a : Action) :
      (a.perform w path s).visits (path ++ rest) = s.visits (path ++ rest) :=
    (State.visits_perform w path (path ++ rest) s a).1 hne
  -- nor does a run that breaks off here
  have hfault (f : RunFault) :
      Result.Adds (path ++ rest) (b.turns * k) sure s (.error f, s) :=
    ⟨Nat.le_add_right _ _, nofun⟩
  cases b with
  | move direction =>
    cases direction with
    | known d =>
      rw [exec]
      exact hleaf (haction _) rfl
    | other v =>
      rw [exec]
      exact hfault _
  | collect =>
    rw [exec]
    exact hleaf (haction _) rfl
  | wait =>
    rw [exec]
    exact hleaf (haction _) rfl
  | breakOut =>
    rw [exec]
    exact hleaf (haction _) rfl
  | loop count body =>
    rw [exec]
    split
    · next n hcount =>
      rw [turns, hcount]
      exact (adds_repeatBody hbody n s).mono (fun h => (hsure h).1)
    · exact hfault _
  | conditional condition body =>
    -- below a condition nothing is sure
    rw [exec, turns, Nat.one_mul]
    refine ⟨?_, fun h => absurd rfl ((hsure h).2 condition body)⟩
    split
    · exact (hbody s).most
    · exact Nat.le_add_right _ _
    · exact Nat.le_add_right _ _
  | function name body =>
    rw [exec, turns, Nat.one_mul]
    exact (hbody s).mono (fun h => (hsure h).1)
  | foreign v =>
    rw [exec]
    exact hfault _
  | derived name base =>
    rw [exec]
    exact hfault _

/-- A path that leads nowhere has no events. -/
theorem adds_nowhere {rest : Path} (hnone : ∀ c, (rest, c) ∉ Program.walk bs) (s : State κ) :
    (execFrom w path 0 bs s).Adds (path ++ rest) k (Program.Steady bs rest) s := by
  have hkept : (execFrom w path 0 bs s).2.visits (path ++ rest) = s.visits (path ++ rest) :=
    visits_execFrom_of_not_mem (fun a hnode => hnone a.block (mem_walkFrom_of_append hnode)) s
  refine ⟨by omega, fun h => ?_⟩
  rcases h.acts with ⟨c, hnode, -⟩
  exact absurd hnode (hnone c)

/-- A run of siblings adds at most one event per round to a block at or below them, and exactly one
if the block is steady. -/
theorem adds_execFrom (w : World κ) (rest path : Path) (bs : List Block) (s : State κ) :
    (execFrom w path 0 bs s).Adds (path ++ rest) (Program.rounds bs rest)
      (Program.Steady bs rest) s := by
  -- the first index tells the sibling, and the rest of the path goes on in its body
  induction rest generalizing path bs s with
  | nil =>
    refine adds_nowhere (fun c hnode => ?_) s
    rcases Program.mem_walk_iff.1 hnode with ⟨_, _, _, heq, -⟩
    cases heq
  | cons i rest ih =>
    cases hb : bs[i]? with
    | none =>
      refine adds_nowhere (fun c hnode => ?_) s
      rcases Program.mem_walk_iff.1 hnode with ⟨_, _, b, heq, hb', -⟩
      cases heq
      rw [hb] at hb'
      cases hb'
    | some b =>
      refine adds_siblings hb ?_ (fun h => h.calm) ?_ s
      · rw [Nat.zero_add, List.append_cons path i rest]
        exact List.prefix_append _ _
      · intro t
        rw [Nat.zero_add, List.append_cons path i rest]
        by_cases hrest : rest = []
        · -- the path ends at this sibling
          subst hrest
          rw [List.append_nil, Program.rounds, Program.ancestors_singleton]
          exact adds_here w (path ++ [i]) b (fun h => h.own hb) t
        · rw [Program.rounds_cons hb hrest]
          refine adds_below hrest b (fun t => ih (path ++ [i]) b.children t) (fun h => ?_) t
          refine ⟨h.below hb hrest, ?_⟩
          refine h.unconditional b ?_
          rw [Program.ancestors_cons hb hrest]
          exact List.mem_cons_self

end Block

/-! ## Valid programs -/

/-- Every event of a valid program tells the path of a block that does such a deed. A block acts at
most as often as the loops around it have rounds in all. Where the program runs to its end, the
block acts exactly that often if nothing in the program breaks, no condition is around the block,
and it is a move or a wait. A genuine program runs to its end. -/
theorem Program.events_within_rounds {p : Program} (hp : (p.check {}).valid) (w : World κ)
    (g : Goal κ) :
    (p.Genuine → ∃ es o, p.run w g = .ok (es, o)) ∧
      (∀ es o, p.run w g = .ok (es, o) →
        (∀ e ∈ es, (e.path, e.deed.block) ∈ p.walk) ∧
          ∀ q, es.countP (fun e => e.path = q) ≤ p.rounds q ∧
            ((∀ n ∈ p.walk, n.2 ≠ .breakOut) →
              (∀ b ∈ p.ancestors q, ∀ c body, b ≠ .conditional c body) →
              (∃ b, (q, b) ∈ p.walk ∧ ((∃ direction, b = .move direction) ∨ b = .wait)) →
              es.countP (fun e => e.path = q) = p.rounds q)) ∧
      ∀ f, p.run w g = .error f →
        (∀ e ∈ (p.course w g).1, (e.path, e.deed.block) ∈ p.walk) ∧
          ∀ q, (p.course w g).1.countP (fun e => e.path = q) ≤ p.rounds q := by
  have hevents := p.mem_walk_of_mem_trace w
  have hadds (q : Path) : Result.Adds q (p.rounds q) (p.Steady q) (State.initial w)
      (Block.execFrom w [] 0 p (State.initial w)) := by
    simpa using Block.adds_execFrom w q [] p (State.initial w)
  have hmost (q : Path) :
      (Block.execFrom w [] 0 p (State.initial w)).2.visits q ≤ p.rounds q := by
    have hq := (hadds q).most
    rwa [show (State.initial w).visits q = 0 from rfl, Nat.zero_add] at hq
  refine ⟨fun hgen => run_ok_of_genuine hp hgen w g, ?_, ?_⟩
  · intro es o hrun
    rcases Program.run_eq_ok_iff.1 hrun with ⟨signal, s, hexec, rfl, -⟩
    rw [hexec] at hevents hmost hadds
    refine ⟨hevents, fun q => ⟨hmost q, ?_⟩⟩
    intro hbreak hcondition hacts
    have hall := ((hadds q).all ⟨hbreak, hcondition, hacts⟩ signal rfl).2
    rwa [show (State.initial w).visits q = 0 from rfl, Nat.zero_add] at hall
  · intro f _
    exact ⟨hevents, hmost⟩

/-- A wait in a function, with a loop inside and a loop outside. -/
def Program.nestedWait : Program :=
  [.loop (.int 3) [.collect, .function (.text "f") [.loop (.int 2) [.wait]]]]

/-- The wait has six events: two in each of the three rounds of the outer loop. -/
theorem Program.events_within_rounds_nestedWait :
    ∃ es o, nestedWait.run (⟨2, ⟨0, 1⟩, ⟨1, 0⟩, [], []⟩ : World) Goal.reach = .ok (es, o) ∧
      es.countP (fun e => e.path = [0, 1, 0, 0]) = 6 := by
  rcases events_within_rounds (p := nestedWait) (by decide) (⟨2, ⟨0, 1⟩, ⟨1, 0⟩, [], []⟩ : World)
    Goal.reach with ⟨hends, hruns, -⟩
  rcases hends (by decide) with ⟨es, o, hrun⟩
  have hrounds := (hruns es o hrun).2
  have habove : nestedWait.ancestors [0, 1, 0, 0] =
      [.loop (.int 3) [.collect, .function (.text "f") [.loop (.int 2) [.wait]]],
        .function (.text "f") [.loop (.int 2) [.wait]], .loop (.int 2) [.wait]] := by
    decide
  have hcondition : ∀ b ∈ nestedWait.ancestors [0, 1, 0, 0], ∀ c body,
      b ≠ .conditional c body := by
    rw [habove]
    simp
  refine ⟨es, o, hrun, ?_⟩
  rw [(hrounds [0, 1, 0, 0]).2 (by decide) hcondition ⟨.wait, by decide, Or.inr rfl⟩]
  decide

end GridRobot
