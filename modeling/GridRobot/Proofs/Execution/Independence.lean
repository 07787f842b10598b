import GridRobot.Proofs.Execution.Safety

/-!
# What a program does not look at

Two runs of one program, in two worlds, go along side by side as long as no action and no condition
tells their states apart. So a program that does not ask for the goal does the same wherever the
goal is, and a program that does not ask for items moves the same way whatever items there are: it
may collect other ones, and then it has other events in between.

* `Block.exec_alike`: a relation between states that the leaves and the conditions of a tree respect
  is kept by the two runs of the tree;
* `Program.run_alike`: so for the two runs of a program;
* `Program.blind_to_goal`, `Program.blind_to_items`: a program that does not ask for the goal, or
  for items, respects that all is equal, or equal but for items.
-/

namespace GridRobot

variable {κ : Type}

/-! ## Two runs side by side -/

/-- The results have the same signal, or the same fault, and their states are related. -/
structure Result.Alike (R : State κ → State κ → Prop) (r r' : Result κ) : Prop where
  signal : r.1 = r'.1
  states : R r.2 r'.2

section Alike

variable {R : State κ → State κ → Prop}

/-- A result that is alike has the same ending, in a related state. -/
theorem Result.Alike.exists_eq {r r' : Result κ} (h : r.Alike R r') {s : State κ}
    {x : Except RunFault Signal} (hr : r = (x, s)) : ∃ t, r' = (x, t) ∧ R s t := by
  subst hr
  obtain ⟨y, t⟩ := r'
  obtain ⟨hsignal, hstates⟩ := h
  cases hsignal
  exact ⟨t, rfl, hstates⟩

/-- Bodies that go along side by side do so however often they are repeated. -/
theorem repeatBody_alike {body body' : State κ → Result κ}
    (hbody : ∀ s t, R s t → (body s).Alike R (body' t)) (n : Nat) {s t : State κ} (hst : R s t) :
    (repeatBody body n s).Alike R (repeatBody body' n t) := by
  induction n generalizing s t with
  | zero => exact ⟨rfl, hst⟩
  | succ n ih =>
    have hround := hbody s t hst
    rw [repeatBody, repeatBody]
    split
    · next hs =>
      obtain ⟨t', ht, hst'⟩ := hround.exists_eq hs
      rw [ht]
      exact ih hst'
    · next hs =>
      obtain ⟨t', ht, hst'⟩ := hround.exists_eq hs
      rw [ht]
      exact ⟨rfl, hst'⟩
    · next hs =>
      obtain ⟨t', ht, hst'⟩ := hround.exists_eq hs
      rw [ht]
      exact ⟨rfl, hst'⟩

variable [Coordinate κ]

/-- In two worlds, neither the actions nor the conditions of some nodes tell related states
apart. -/
structure Block.Blind (w w' : World κ) (R : State κ → State κ → Prop)
    (nodes : List (Path × Block)) : Prop where
  acts : ∀ path a, (path, Action.block a) ∈ nodes → ∀ s t, R s t →
    R (a.perform w path s) (a.perform w' path t)
  asks : ∀ path c body, (path, Block.conditional (.known c) body) ∈ nodes → ∀ s t, R s t →
    c.holds w s = c.holds w' t

namespace Block

variable {w w' : World κ}

theorem Blind.mono {nodes nodes' : List (Path × Block)} (h : Blind w w' R nodes)
    (hsub : ∀ n ∈ nodes', n ∈ nodes) : Blind w w' R nodes' where
  acts := fun path a hnode => h.acts path a (hsub _ hnode)
  asks := fun path c body hnode => h.asks path c body (hsub _ hnode)

/-- Siblings run alike if each of them does. -/
theorem execFrom_alike_of {bs : List Block}
    (hbs : ∀ b ∈ bs, ∀ path, Blind w w' R (b.walk path) → ∀ s t, R s t →
      (b.exec w path s).Alike R (b.exec w' path t))
    {path : Path} {index : Nat} (hblind : Blind w w' R (walkFrom path index bs)) {s t : State κ}
    (hst : R s t) :
    Result.Alike R (execFrom w path index bs s) (execFrom w' path index bs t) := by
  induction bs generalizing index s t with
  | nil =>
    rw [execFrom, execFrom]
    exact ⟨rfl, hst⟩
  | cons b bs ih =>
    rw [walkFrom] at hblind
    have hfirst := hbs b List.mem_cons_self (path ++ [index])
      (hblind.mono fun n hn => List.mem_append_left _ hn) s t hst
    have hrest {s t : State κ} (hst : R s t) :
        Result.Alike R (execFrom w path (index + 1) bs s) (execFrom w' path (index + 1) bs t) :=
      ih (fun c hc => hbs c (List.mem_cons_of_mem b hc))
        (hblind.mono fun n hn => List.mem_append_right _ hn) hst
    rw [execFrom, execFrom]
    -- the first sibling ends alike in both worlds: it goes on, breaks, or is at fault
    split
    · next hs =>
      obtain ⟨t', ht, hst'⟩ := hfirst.exists_eq hs
      rw [ht]
      exact hrest hst'
    · next hs =>
      obtain ⟨t', ht, hst'⟩ := hfirst.exists_eq hs
      rw [ht]
      exact ⟨rfl, hst'⟩
    · next hs =>
      obtain ⟨t', ht, hst'⟩ := hfirst.exists_eq hs
      rw [ht]
      exact ⟨rfl, hst'⟩

/-- What no node of a tree tells apart, no run of the tree tells apart. -/
theorem exec_alike (b : Block) {path : Path} (hblind : Blind w w' R (b.walk path)) {s t : State κ}
    (hst : R s t) : (b.exec w path s).Alike R (b.exec w' path t) := by
  induction b using children_induction generalizing path s t with
  | node b ih =>
    have hself : (path, b) ∈ b.walk path := mem_walk_self path b
    have haction (a : Action) (hb : b = a.block) : R (a.perform w path s) (a.perform w' path t) :=
      hblind.acts path a (hb ▸ hself) s t hst
    have hbody (s t : State κ) (hst : R s t) :
        Result.Alike R (execFrom w path 0 b.children s) (execFrom w' path 0 b.children t) :=
      execFrom_alike_of (fun c hc path hc' s t hst => ih c hc hc' hst)
        (hblind.mono fun n hn => mem_walk_of_mem_walkFrom hn) hst
    cases b with
    | move direction =>
      cases direction with
      | known d =>
        rw [exec, exec]
        exact ⟨rfl, haction (.move d) rfl⟩
      | other v =>
        rw [exec, exec]
        exact ⟨rfl, hst⟩
    | collect =>
      rw [exec, exec]
      exact ⟨rfl, haction .collect rfl⟩
    | wait =>
      rw [exec, exec]
      exact ⟨rfl, haction .wait rfl⟩
    | breakOut =>
      rw [exec, exec]
      exact ⟨rfl, haction .breakOut rfl⟩
    | loop count body =>
      rw [exec, exec]
      split
      · exact repeatBody_alike hbody _ hst
      · exact ⟨rfl, hst⟩
    | conditional condition body =>
      -- both runs enter the body, or neither does
      have htest : condition.test w s = condition.test w' t := by
        cases condition with
        | known c => rw [Setting.test, Setting.test, hblind.asks path c body hself s t hst]
        | other v => rfl
      rw [exec, exec, htest]
      split
      · exact hbody s t hst
      · exact ⟨rfl, hst⟩
      · exact ⟨rfl, hst⟩
    | function name body =>
      rw [exec, exec]
      exact hbody s t hst
    | foreign v =>
      rw [exec, exec]
      exact ⟨rfl, hst⟩
    | derived name base =>
      rw [exec, exec]
      exact ⟨rfl, hst⟩

end Block

/-- Two runs of a program that nothing tells apart end with the same signal or fault, in related
states. -/
theorem Program.exec_alike {w w' : World κ} {p : Program} (hblind : Block.Blind w w' R p.walk)
    (hinit : R (State.initial w) (State.initial w')) :
    Result.Alike R (Block.execFrom w [] 0 p (State.initial w))
      (Block.execFrom w' [] 0 p (State.initial w')) :=
  Block.execFrom_alike_of (fun b _ _ hb _ _ hst => Block.exec_alike b hb hst) hblind hinit

/-- If one of them comes to its end, so does the other. -/
theorem Program.run_alike {w w' : World κ} {p : Program} (hblind : Block.Blind w w' R p.walk)
    (hinit : R (State.initial w) (State.initial w')) {g : Goal κ} {es : List (Event κ)}
    {o : Outcome κ} (hrun : p.run w g = .ok (es, o)) (g' : Goal κ) :
    ∃ s t stoppedEarly, es = s.trace ∧ o = s.outcome w g stoppedEarly ∧
      p.run w' g' = .ok (t.trace, t.outcome w' g' stoppedEarly) ∧ R s t := by
  obtain ⟨signal, s, hs, hes, ho⟩ := Program.run_eq_ok_iff.1 hrun
  obtain ⟨t, ht, hst⟩ := (Program.exec_alike hblind hinit).exists_eq hs
  exact ⟨s, t, signal = .broke, hes, ho, Program.run_eq_ok_iff.2 ⟨signal, t, ht, rfl, rfl⟩, hst⟩

/-- If one of them breaks off, so does the other, with the same fault. -/
theorem Program.run_error_alike {w w' : World κ} {p : Program}
    (hblind : Block.Blind w w' R p.walk) (hinit : R (State.initial w) (State.initial w'))
    {g : Goal κ} {f : RunFault} (hrun : p.run w g = .error f) (g' : Goal κ) :
    p.run w' g' = .error f ∧
      ∃ s t, (p.course w g).1 = s.trace ∧ (p.course w' g').1 = t.trace ∧ R s t := by
  have halike := Program.exec_alike hblind hinit
  refine ⟨?_, _, _, rfl, rfl, halike.states⟩
  unfold Program.run at hrun ⊢
  split at hrun
  · cases hrun
  · next hs =>
    cases hrun
    obtain ⟨t, ht, -⟩ := halike.exists_eq hs
    rw [ht]

end Alike

/-! ## Conditions that a program asks -/

/-- Does the block ask whether the condition holds? -/
def Block.asks (c : Condition) : Block → Bool
  | .conditional (.known d) _ => d = c
  | _ => false

/-- Does a block of the program ask whether the condition holds? -/
def Program.asks (p : Program) (c : Condition) : Bool := p.walk.any (fun n => n.2.asks c)

/-- A condition that is not asked for stands at no node. -/
theorem Program.ne_of_not_asks {p : Program} {c d : Condition} (h : p.asks c = false) {path : Path}
    {body : List Block} (hnode : (path, Block.conditional (.known d) body) ∈ p.walk) : d ≠ c := by
  rintro rfl
  have hasks := List.any_eq_false.1 h _ hnode
  simp [Block.asks] at hasks

/-! ## Events but for items -/

/-- All that is shown of a run but for items: what the robot did, where it stood then and which
block acted, for every event in which nothing was collected. -/
def itemless (es : List (Event κ)) : List (Deed κ × Cell κ × Path) :=
  (es.filter (fun e => e.deed.item?.isNone)).map (fun e => (e.deed, e.position, e.path))

theorem itemless_append (es fs : List (Event κ)) :
    itemless (es ++ fs) = itemless es ++ itemless fs := by
  simp [itemless]

/-- An event of an item does not show among the others. -/
theorem itemless_emit (s : State κ) (path : Path) (deed : Deed κ) :
    itemless (s.emit path deed).trace =
      itemless s.trace ++ if deed.item?.isNone then [(deed, s.position, path)] else [] := by
  rw [State.trace_emit, itemless_append]
  congr 1
  split
  · next hnone => simp [itemless, hnone]
  · next hsome => simp [itemless, hsome]

/-- The robot stands at the same cell and has done the same, but for items. -/
def State.SameWay (s t : State κ) : Prop :=
  s.position = t.position ∧ itemless s.trace = itemless t.trace

/-- The same deed keeps two robots on the same way. -/
theorem State.SameWay.emit {s t : State κ} (h : s.SameWay t) (path : Path) (deed : Deed κ) :
    (s.emit path deed).SameWay (t.emit path deed) := by
  refine ⟨h.1, ?_⟩
  rw [itemless_emit, itemless_emit, h.1, h.2]

variable [Coordinate κ]

/-- To take an item changes nothing but what is known of items. -/
theorem Action.collect_sameWay (w : World κ) (path : Path) (s : State κ) :
    (Action.collect.perform w path s).SameWay s := by
  rw [Action.perform]
  split
  · refine ⟨rfl, ?_⟩
    rw [itemless_emit]
    exact List.append_nil _
  · refine ⟨rfl, ?_⟩
    rw [State.trace_note]

/-- Items do not change the way of an action. -/
theorem Action.perform_sameWay (w : World κ) (items : List (Item κ)) (path : Path) (a : Action)
    {s t : State κ} (h : s.SameWay t) :
    (a.perform w path s).SameWay (a.perform { w with items := items } path t) := by
  cases a with
  | move d =>
    have hpassable (c : Cell κ) : ({ w with items := items } : World κ).isPassable c =
        w.isPassable c := rfl
    rw [Action.perform, Action.perform, hpassable, ← h.1]
    have hmoved : ({ s with position := s.position.step d } : State κ).SameWay
        { t with position := s.position.step d } := ⟨rfl, h.2⟩
    split
    · exact hmoved.emit path _
    · exact h.emit path _
  | collect =>
    have hs := Action.collect_sameWay w path s
    have ht := Action.collect_sameWay { w with items := items } path t
    exact ⟨hs.1.trans (h.1.trans ht.1.symm), hs.2.trans (h.2.trans ht.2.symm)⟩
  | wait => exact h.emit path _
  | breakOut => exact h.emit path _

/-- An action does not look at the goal. -/
theorem Action.perform_of_goal (w : World κ) (goal : Cell κ) (path : Path) (s : State κ)
    (a : Action) : a.perform { w with goal := goal } path s = a.perform w path s := by
  cases a <;> rfl

/-! ## Programs -/

namespace Program

variable {p : Program}

/-- A program that never asks for the goal ahead does not see where the goal is. -/
theorem blind_to_goal (h : p.asks .goalAhead = false) (w : World κ) (goal : Cell κ) :
    Block.Blind w { w with goal := goal } Eq p.walk where
  acts := by
    rintro path a - s t rfl
    exact (Action.perform_of_goal w goal path s a).symm
  asks := by
    rintro path c body hnode s t rfl
    have hne := ne_of_not_asks h hnode
    cases c with
    | itemHere => rfl
    | wallAhead => rfl
    | goalAhead => exact absurd rfl hne

/-- A program that never asks for items does not see where they are. -/
theorem blind_to_items (h : p.asks .itemHere = false) (w : World κ) (items : List (Item κ)) :
    Block.Blind w { w with items := items } State.SameWay p.walk where
  acts := by
    intro path a _ s t hst
    exact Action.perform_sameWay w items path a hst
  asks := by
    intro path c body hnode s t hst
    have hne := ne_of_not_asks h hnode
    cases c with
    | itemHere => exact absurd rfl hne
    | wallAhead => rw [Condition.holds, Condition.holds, hst.1]; rfl
    | goalAhead => rw [Condition.holds, Condition.holds, hst.1]

/-- A valid program that does not ask for the goal has the same events wherever the goal is, and the
outcomes differ at most in the verdict. A valid program that does not ask for items goes the same
way whatever items there are: but for collected items it has the same events, apart from their
numbers and the marks of the items, it ends at the same cell, and it is stopped early in both worlds
or in neither. A genuine program has an outcome; one that breaks off does so in both worlds, with
the same fault and after the same events. -/
theorem unasked_without_influence {r : Rules} (hp : (p.check r).valid) (w : World κ)
    (g g' : Goal κ) :
    (p.Genuine → ∃ es o, p.run w g = .ok (es, o)) ∧
    (p.asks .goalAhead = false → ∀ goal : Cell κ,
      (∀ es o, p.run w g = .ok (es, o) → ∃ verdict,
        p.run { w with goal := goal } g' = .ok (es, { o with verdict := verdict })) ∧
      (∀ f, p.run w g = .error f → p.run { w with goal := goal } g' = .error f ∧
        (p.course { w with goal := goal } g').1 = (p.course w g).1)) ∧
    (p.asks .itemHere = false → ∀ items : List (Item κ),
      (∀ es o, p.run w g = .ok (es, o) → ∃ es' o',
        p.run { w with items := items } g' = .ok (es', o') ∧
        itemless es' = itemless es ∧ o'.position = o.position ∧
        o'.stoppedEarly = o.stoppedEarly) ∧
      (∀ f, p.run w g = .error f → p.run { w with items := items } g' = .error f ∧
        itemless (p.course { w with items := items } g').1 = itemless (p.course w g).1)) := by
  refine ⟨fun hgen => run_ok_of_genuine hp hgen w g, ?_, ?_⟩
  · intro hasks goal
    have hblind := blind_to_goal hasks w goal
    constructor
    · intro es o hrun
      -- the states at the end are equal, and only the verdict looks at the goal
      obtain ⟨s, t, stoppedEarly, rfl, rfl, ht, rfl⟩ := run_alike hblind rfl hrun g'
      exact ⟨_, ht⟩
    · intro f hrun
      obtain ⟨hrun', s, t, hs, ht, rfl⟩ := run_error_alike hblind rfl hrun g'
      exact ⟨hrun', ht.trans hs.symm⟩
  · intro hasks items
    have hblind := blind_to_items hasks w items
    constructor
    · intro es o hrun
      -- the robot has gone the same way, and may have taken other things
      obtain ⟨s, t, stoppedEarly, rfl, rfl, ht, hposition, hevents⟩ :=
        run_alike hblind ⟨rfl, rfl⟩ hrun g'
      exact ⟨_, _, ht, hevents.symm, hposition.symm, rfl⟩
    · intro f hrun
      obtain ⟨hrun', s, t, hs, ht, -, hevents⟩ := run_error_alike hblind ⟨rfl, rfl⟩ hrun g'
      refine ⟨hrun', ?_⟩
      rw [hs, ht, hevents]

/-- To the right along a row, taking what lies there and waiting below walls. -/
def lookout : Program :=
  [.loop (.int 2) [.move (.known .right), .collect, .conditional (.known .wallAhead) [.wait]]]

/-- With the goal elsewhere, the events are the same. With a key at the end of the row in place of a
gem in its middle, they are not, but the robot goes the same way. -/
theorem unasked_without_influence_lookout :
    let w : World := ⟨3, ⟨0, 1⟩, ⟨2, 0⟩, [⟨1, 0⟩], [⟨⟨1, 1⟩, .gem⟩]⟩
    (lookout.check {}).valid ∧ lookout.asks .goalAhead = false ∧ lookout.asks .itemHere = false ∧
      (∃ es o verdict, lookout.run w .reach = .ok (es, o) ∧
        lookout.run { w with goal := ⟨0, 0⟩ } .collectAll =
          .ok (es, { o with verdict := verdict })) ∧
      ∃ es o es' o', lookout.run w .reach = .ok (es, o) ∧
        lookout.run { w with items := [⟨⟨2, 1⟩, .key⟩] } .collectAll = .ok (es', o') ∧
        es' ≠ es ∧ itemless es' = itemless es ∧ o'.position = o.position ∧
        o'.stoppedEarly = o.stoppedEarly := by
  intro w
  have hvalid : (lookout.check {}).valid := by decide
  have hgoal : lookout.asks .goalAhead = false := by decide
  have hitems : lookout.asks .itemHere = false := by decide
  obtain ⟨hends, hsame, hway⟩ := unasked_without_influence hvalid w .reach .collectAll
  obtain ⟨es, o, hrun⟩ := hends (by decide)
  obtain ⟨verdict, hverdict⟩ := (hsame hgoal ⟨0, 0⟩).1 es o hrun
  obtain ⟨es', o', hrun', hevents, hposition, hstopped⟩ :=
    (hway hitems [⟨⟨2, 1⟩, .key⟩]).1 es o hrun
  have hdiffer :
      (lookout.run { w with items := [⟨⟨2, 1⟩, .key⟩] } .collectAll).toOption.map (·.1) ≠
        (lookout.run w .reach).toOption.map (·.1) := by decide
  rw [hrun, hrun'] at hdiffer
  exact ⟨hvalid, hgoal, hitems, ⟨es, o, verdict, hrun, hverdict⟩, es, o, es', o', hrun, hrun',
    fun h => hdiffer (congrArg some h), hevents, hposition, hstopped⟩

end Program

end GridRobot
