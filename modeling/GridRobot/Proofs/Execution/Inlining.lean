import GridRobot.Proofs.Execution.Scoping

/-!
# Functions in place, loops unrolled

What a block does depends on where the robot stands and on what has been taken, never on the place
of the block in the tree: the place only shows in the paths of the events. So a function may be
replaced by its body, and a loop that nothing breaks by as many copies of its body, at any place of
a program. The blocks behind move to other places, and all else stays the same.

* `Program.isCongruence_sameDeeds`: programs that do the same may be exchanged anywhere;
* `Program.sameDeeds_function`, `Program.sameDeeds_loop`: inlining and unrolling;
* `Program.SameDeeds.run`: programs that do the same have the same outcome, and the same events but
  for their paths.
-/

namespace GridRobot

variable {κ : Type}

/-! ## All but the places -/

/-- The event without the path of the block that acted. -/
def Event.unplaced (e : Event κ) : Event κ := { e with path := [] }

/-- The state without the paths of the blocks that acted. -/
def State.unplaced (s : State κ) : State κ :=
  { s with journal := s.journal.map (Option.map Event.unplaced) }

/-- Without the places, the events are the same. -/
theorem State.trace_unplaced (s : State κ) : s.unplaced.trace = s.trace.map Event.unplaced := by
  simp [trace, unplaced, List.filterMap_map, List.map_filterMap, List.map_reverse]

/-- The results are the same but for places, or both are faults. -/
def Result.SameDeeds (r r' : Result κ) : Prop :=
  r.1.toOption = r'.1.toOption ∧ r.2.unplaced = r'.2.unplaced

namespace Result.SameDeeds

variable {r r' : Result κ} {s t : State κ}

theorem of_ok {signal : Signal} (h : s.unplaced = t.unplaced) :
    Result.SameDeeds (.ok signal, s) (.ok signal, t) :=
  ⟨rfl, h⟩

theorem of_error {f f' : RunFault} (h : s.unplaced = t.unplaced) :
    Result.SameDeeds (.error f, s) (.error f', t) :=
  ⟨rfl, h⟩

/-- A result without a fault has a counterpart with the same signal. -/
theorem exists_ok {signal : Signal} (h : Result.SameDeeds (.ok signal, s) r') :
    ∃ t, r' = (.ok signal, t) ∧ s.unplaced = t.unplaced := by
  obtain ⟨fault | signal', t⟩ := r'
  · cases h.1
  · cases h.1
    exact ⟨t, rfl, h.2⟩

/-- A fault has a fault as its counterpart. -/
theorem exists_error {f : RunFault} (h : Result.SameDeeds (.error f, s) r') :
    ∃ f' t, r' = (.error f', t) ∧ s.unplaced = t.unplaced := by
  obtain ⟨fault | signal', t⟩ := r'
  · exact ⟨fault, t, rfl, h.2⟩
  · cases h.1

/-- What goes on alike after a result goes on alike after its counterpart. -/
theorem andThen {next next' : Signal → State κ → Result κ} (h : r.SameDeeds r')
    (hnext : ∀ signal s t, r = (.ok signal, s) → s.unplaced = t.unplaced →
      (next signal s).SameDeeds (next' signal t)) :
    (r.andThen next).SameDeeds (r'.andThen next') := by
  obtain ⟨fault | signal, s⟩ := r
  · obtain ⟨fault', t, rfl, hst⟩ := h.exists_error
    exact of_error hst
  · obtain ⟨t, rfl, hst⟩ := h.exists_ok
    exact hnext signal s t rfl hst

end Result.SameDeeds

/-- Bodies that do the same do so however often they are repeated. -/
theorem repeatBody_sameDeeds {body body' : State κ → Result κ}
    (hbody : ∀ s t, s.unplaced = t.unplaced → (body s).SameDeeds (body' t)) (n : Nat)
    {s t : State κ} (hst : s.unplaced = t.unplaced) :
    (repeatBody body n s).SameDeeds (repeatBody body' n t) := by
  induction n generalizing s t with
  | zero => exact .of_ok hst
  | succ n ih =>
    have hround := hbody s t hst
    rw [repeatBody, repeatBody]
    split
    · next s' hs =>
      rw [hs] at hround
      obtain ⟨t', ht, hst'⟩ := hround.exists_ok
      rw [ht]
      exact ih hst'
    · next s' hs =>
      rw [hs] at hround
      obtain ⟨t', ht, hst'⟩ := hround.exists_ok
      rw [ht]
      exact .of_ok hst'
    · next f s' hs =>
      rw [hs] at hround
      obtain ⟨f', t', ht, hst'⟩ := hround.exists_error
      rw [ht]
      exact .of_error hst'

variable [Coordinate κ]

/-- An action does the same at every place. -/
theorem Action.perform_unplaced (w : World κ) (path : Path) (s : State κ) (a : Action) :
    (a.perform w path s).unplaced = a.perform w [] s.unplaced := by
  cases a with
  | move d =>
    rw [Action.perform, Action.perform]
    have hposition : s.unplaced.position = s.position := rfl
    rw [hposition]
    split
    · rfl
    · rfl
  | collect =>
    rw [Action.perform, Action.perform]
    have htake : s.unplaced.pouch.take s.unplaced.position = s.pouch.take s.position := rfl
    rw [htake]
    split
    · rfl
    · rfl
  | wait => rfl
  | breakOut => rfl

/-- What a condition asks for does not depend on places. -/
theorem Setting.test_unplaced (w : World κ) (s : State κ) (c : Setting Condition) :
    c.test w s.unplaced = c.test w s := by
  cases c with
  | known c => cases c <;> rfl
  | other v => rfl

/-! ## Programs that do the same -/

namespace Program

/-- The programs do the same, wherever their blocks are and whatever was done before. -/
def SameDeeds (w : World κ) (p q : Program) : Prop :=
  ∀ path path' index index' s t, s.unplaced = t.unplaced →
    (Block.execFrom w path index p s).SameDeeds (Block.execFrom w path' index' q t)

variable {w : World κ} {p q : Program} {b c : Block}

theorem sameDeeds_singleton
    (h : ∀ path path' s t, s.unplaced = t.unplaced →
      (b.exec w path s).SameDeeds (c.exec w path' t)) : SameDeeds w [b] [c] := by
  intro path path' index index' s t hst
  rw [Block.execFrom_singleton, Block.execFrom_singleton]
  exact h (path ++ [index]) (path' ++ [index']) s t hst

/-- Doing the same one after the other is doing the same. -/
theorem SameDeeds.append {p' q' : Program} (hp : SameDeeds w p p') (hq : SameDeeds w q q') :
    SameDeeds w (p ++ q) (p' ++ q') := by
  intro path path' index index' s t hst
  rw [Block.execFrom_append, Block.execFrom_append]
  apply (hp path path' index index' s t hst).andThen
  intro signal s t _ hst
  cases signal with
  | broke => exact .of_ok hst
  | proceed =>
    rw [Block.resume_siblings, Block.resume_siblings]
    exact hq _ _ _ _ s t hst

/-- A block does the same with a body that does the same. -/
theorem SameDeeds.body {body : List Block} (h : SameDeeds w b.children body) :
    SameDeeds w [b] [b.withBody body] := by
  apply sameDeeds_singleton
  intro path path' s t hst
  have hbody (s t : State κ) (hst : s.unplaced = t.unplaced) :
      (Block.execFrom w path 0 b.children s).SameDeeds (Block.execFrom w path' 0 body t) :=
    h path path' 0 0 s t hst
  have haction (signal : Signal) (a : Action) :
      Result.SameDeeds (.ok signal, a.perform w path s) (.ok signal, a.perform w path' t) := by
    apply Result.SameDeeds.of_ok
    rw [Action.perform_unplaced, Action.perform_unplaced, hst]
  -- only containers look at the body; all other blocks stay as they are
  cases b with
  | move direction =>
    show Result.SameDeeds (Block.exec w path (.move direction) s)
      (Block.exec w path' (.move direction) t)
    cases direction with
    | known d =>
      rw [Block.exec, Block.exec]
      exact haction _ _
    | other v =>
      rw [Block.exec, Block.exec]
      exact .of_error hst
  | collect =>
    show Result.SameDeeds (Block.exec w path .collect s) (Block.exec w path' .collect t)
    rw [Block.exec, Block.exec]
    exact haction _ _
  | wait =>
    show Result.SameDeeds (Block.exec w path .wait s) (Block.exec w path' .wait t)
    rw [Block.exec, Block.exec]
    exact haction _ _
  | breakOut =>
    show Result.SameDeeds (Block.exec w path .breakOut s) (Block.exec w path' .breakOut t)
    rw [Block.exec, Block.exec]
    exact haction _ _
  | loop count old =>
    rw [Block.withBody, Block.exec, Block.exec]
    split
    · exact repeatBody_sameDeeds hbody _ hst
    · exact .of_error hst
  | conditional condition old =>
    -- the condition is tested where the robot stands, not where the block is
    rw [Block.withBody, Block.exec, Block.exec, ← Setting.test_unplaced w s, hst,
      Setting.test_unplaced w t]
    split
    · exact hbody s t hst
    · exact .of_ok hst
    · exact .of_error hst
  | function name old =>
    rw [Block.withBody, Block.exec, Block.exec]
    exact hbody s t hst
  | foreign v =>
    show Result.SameDeeds (Block.exec w path (.foreign v) s) (Block.exec w path' (.foreign v) t)
    rw [Block.exec, Block.exec]
    exact .of_error hst
  | derived name base =>
    rw [Block.withBody, Block.exec, Block.exec]
    exact .of_error hst

/-- Every program does the same as itself, at any two places. -/
theorem sameDeeds_refl (w : World κ) (p : Program) : SameDeeds w p p := by
  have hsiblings (bs : List Block) (hbs : ∀ b ∈ bs, SameDeeds w [b] [b]) : SameDeeds w bs bs := by
    induction bs with
    | nil =>
      intro path path' index index' s t hst
      rw [Block.execFrom, Block.execFrom]
      exact .of_ok hst
    | cons b bs ih =>
      have hrest := ih (fun c hc => hbs c (List.mem_cons_of_mem b hc))
      exact (hbs b List.mem_cons_self).append hrest
  have hblock (b : Block) : SameDeeds w [b] [b] := by
    induction b using Block.children_induction with
    | node b ih =>
      have hself : b.withBody b.children = b := b.withBody_children
      have hbody := SameDeeds.body (hsiblings b.children ih)
      rwa [hself] at hbody
  exact hsiblings p (fun b _ => hblock b)

/-- Programs that do the same may be exchanged anywhere. -/
theorem isCongruence_sameDeeds (w : World κ) : IsCongruence (SameDeeds w) where
  refl := sameDeeds_refl w
  append := SameDeeds.append
  body := SameDeeds.body

/-! ## Inlining and unrolling -/

/-- A function does what its body does. -/
theorem sameDeeds_function (w : World κ) (name : Value) (body : List Block) :
    SameDeeds w [.function name body] body := by
  intro path path' index index' s t hst
  rw [Block.execFrom_singleton, Block.exec]
  exact sameDeeds_refl w body (path ++ [index]) path' 0 index' s t hst

/-- Nothing in the program ends a loop around it. -/
def BreaksNothing (p : Program) : Prop :=
  ∀ path, (path, Block.breakOut) ∈ p.walk → p.inLoop path = true

instance (p : Program) : Decidable p.BreaksNothing :=
  decidable_of_iff (∀ n ∈ p.walk, n.2 = .breakOut → p.inLoop n.1 = true) (by
    constructor
    · intro h path hnode
      exact h (path, .breakOut) hnode rfl
    · rintro h ⟨path, b⟩ hnode rfl
      exact h path hnode)

/-- A program that breaks nothing never signals a break. -/
theorem BreaksNothing.execFrom_ne (hp : p.BreaksNothing) (path : Path) (index : Nat)
    (s t : State κ) : Block.execFrom w path index p s ≠ (.ok .broke, t) := by
  intro hexec
  obtain ⟨es, -, -, e, -, ⟨-, i, rest, -, hnode, houtside⟩, -⟩ :=
    Block.execFrom_explained w path index p s .broke t hexec
  rw [hp (i :: rest) hnode] at houtside
  cases houtside

/-- The rounds of a loop that nothing breaks are copies of its body one after the other. -/
theorem repeatBody_sameDeeds_copies (hp : p.BreaksNothing) (path path' : Path) (n index : Nat)
    {s t : State κ} (hst : s.unplaced = t.unplaced) :
    (repeatBody (Block.execFrom w path 0 p) n s).SameDeeds
      (Block.execFrom w path' index (List.replicate n p).flatten t) := by
  induction n generalizing index s t with
  | zero =>
    rw [List.replicate_zero, List.flatten_nil, Block.execFrom]
    exact .of_ok hst
  | succ n ih =>
    rw [List.replicate_succ, List.flatten_cons, Block.execFrom_append, Block.repeatBody_succ]
    apply (sameDeeds_refl w p path path' 0 index s t hst).andThen
    intro signal s t hround hst
    cases signal with
    | broke => exact absurd hround (hp.execFrom_ne path 0 _ s)
    | proceed =>
      rw [Block.resume_siblings, Frame.resume_proceed]
      simpa [Frame.exec] using ih (index + p.length) hst

/-- A loop that nothing breaks does what so many copies of its body do. -/
theorem sameDeeds_loop (w : World κ) {count : Value} {n : Nat} (hcount : count.count? = some n)
    {body : Program} (hbody : body.BreaksNothing) :
    SameDeeds w [.loop count body] (List.replicate n body).flatten := by
  intro path path' index index' s t hst
  rw [Block.execFrom_singleton, Block.exec, hcount]
  exact repeatBody_sameDeeds_copies hbody (path ++ [index]) path' n index' hst

/-! ## Whole programs -/

/-- Programs that do the same have the same outcome, and the same events but for their paths. -/
theorem SameDeeds.run (h : SameDeeds w p q) {g : Goal κ} {es : List (Event κ)} {o : Outcome κ}
    (hrun : p.run w g = .ok (es, o)) :
    ∃ es', q.run w g = .ok (es', o) ∧ es'.map Event.unplaced = es.map Event.unplaced := by
  obtain ⟨signal, s, hexec, rfl, rfl⟩ := run_eq_ok_iff.1 hrun
  have hsame := h [] [] 0 0 (State.initial w) (State.initial w) rfl
  rw [hexec] at hsame
  obtain ⟨t, hexec', hst⟩ := hsame.exists_ok
  have houtcome : s.unplaced.outcome w g (signal = .broke) =
      t.unplaced.outcome w g (signal = .broke) := by rw [hst]
  refine ⟨t.trace, run_eq_ok_iff.2 ⟨signal, t, hexec', rfl, houtcome⟩, ?_⟩
  rw [← State.trace_unplaced, ← State.trace_unplaced, hst]

/-- The second program breaks off where the first one does, after the same events but for their
paths. -/
def BreaksOffAlike (w : World κ) (g : Goal κ) (p q : Program) : Prop :=
  (∃ f, q.run w g = .error f) ∧
    (q.course w g).1.map Event.unplaced = (p.course w g).1.map Event.unplaced

/-- Programs that do the same break off alike. -/
theorem SameDeeds.breaksOffAlike (h : SameDeeds w p q) {g : Goal κ} {f : RunFault}
    (hrun : p.run w g = .error f) : BreaksOffAlike w g p q := by
  have hsame := h [] [] 0 0 (State.initial w) (State.initial w) rfl
  constructor
  · cases hq : q.run w g with
    | error f' => exact ⟨f', rfl⟩
    | ok result =>
      obtain ⟨signal, t, hexec, -⟩ := run_eq_ok_iff.1 hq
      rw [hexec] at hsame
      rw [run_eq_error_iff_course, course] at hrun
      rcases hp : Block.execFrom w [] 0 p (State.initial w) with ⟨f' | signal', s⟩
      · rw [hp] at hsame
        cases hsame.1
      · rw [hp] at hrun
        cases hrun
  · show List.map _ (State.trace _) = List.map _ (State.trace _)
    rw [← State.trace_unplaced, ← State.trace_unplaced, hsame.2]

/-- A valid program that is genuine has a run. At any place of the tree, a function may be replaced
by its body, and a loop that nothing breaks by as many copies of its body as it has rounds: then the
events are the same but for their paths, and the outcome is the same. The name of a function does
not show at all. All this is so up to the point where a program breaks off, if it does. -/
theorem inlining_keeps_run (hp : (p.check {}).valid) (w : World κ) (g : Goal κ) :
    (p.Genuine → ∃ es o, p.run w g = .ok (es, o)) ∧
    (∀ es o, p.run w g = .ok (es, o) →
      (∀ path name body, (path, .function name body) ∈ p.walk →
        ∃ es', (p.splice path body).run w g = .ok (es', o) ∧
          es'.map Event.unplaced = es.map Event.unplaced) ∧
      (∀ path n body, (path, .loop (.int n) body) ∈ p.walk → BreaksNothing body →
        ∃ es', (p.splice path (List.replicate n.toNat body).flatten).run w g = .ok (es', o) ∧
          es'.map Event.unplaced = es.map Event.unplaced) ∧
      ∀ path name name' body, (path, .function name body) ∈ p.walk →
        (p.splice path [.function name' body]).run w g = .ok (es, o)) ∧
    ∀ f, p.run w g = .error f →
      (∀ path name body, (path, .function name body) ∈ p.walk →
        BreaksOffAlike w g p (p.splice path body)) ∧
      (∀ path n body, (path, .loop (.int n) body) ∈ p.walk → BreaksNothing body →
        BreaksOffAlike w g p (p.splice path (List.replicate n.toNat body).flatten)) ∧
      ∀ path name name' body, (path, .function name body) ∈ p.walk →
        (p.splice path [.function name' body]).course w g = p.course w g := by
  have hinlined {path : Path} {name : Value} {body : List Block}
      (hnode : (path, .function name body) ∈ p.walk) :
      SameDeeds w p (p.splice path body) :=
    (isCongruence_sameDeeds w).splice hnode (sameDeeds_function w name body)
  have hunrolled {path : Path} {n : Int} {body : List Block}
      (hnode : (path, .loop (.int n) body) ∈ p.walk) (hbody : BreaksNothing body) :
      SameDeeds w p (p.splice path (List.replicate n.toNat body).flatten) :=
    (isCongruence_sameDeeds w).splice hnode (sameDeeds_loop w rfl hbody)
  -- under another name nothing moves, so that even the paths stay
  have hrenamed {path : Path} {name : Value} {body : List Block} (name' : Value)
      (hnode : (path, .function name body) ∈ p.walk) :
      SameRun w p (p.splice path [.function name' body]) := by
    apply (isCongruence_sameRun w).splice hnode
    apply sameRun_singleton
    intro path s
    rw [Block.exec, Block.exec]
  refine ⟨fun hgen => run_ok_of_genuine hp hgen w g, ?_, ?_⟩
  · intro es o hrun
    refine ⟨?_, ?_, ?_⟩
    · exact fun path name body hnode => (hinlined hnode).run hrun
    · exact fun path n body hnode hbody => (hunrolled hnode hbody).run hrun
    · intro path name name' body hnode
      rw [(hrenamed name' hnode).run_eq g, hrun]
  · intro f hrun
    refine ⟨?_, ?_, ?_⟩
    · exact fun path name body hnode => (hinlined hnode).breaksOffAlike hrun
    · exact fun path n body hnode hbody => (hunrolled hnode hbody).breaksOffAlike hrun
    · intro path name name' body hnode
      exact (hrenamed name' hnode).course_eq g

/-- A loop inside of a function inside of a loop; the break ends a third loop. -/
def nestedRounds : Program := [
  .loop (.int 2) [
    .function (.text "round") [
      .move (.known .up),
      .loop (.int 3) [.collect, .loop (.int 2) [.wait, .breakOut]]],
    .wait],
  .collect]

/-- In that program the function may be inlined, the loop inside of it unrolled, and the function
renamed. -/
theorem inlining_keeps_run_nestedRounds :
    let w : World := ⟨3, ⟨0, 2⟩, ⟨0, 0⟩, [], [⟨⟨0, 1⟩, .gem⟩]⟩
    let round : List Block := [.collect, .loop (.int 2) [.wait, .breakOut]]
    let inlined : Program := [
      .loop (.int 2) [.move (.known .up), .loop (.int 3) round, .wait], .collect]
    let unrolled : Program := [
      .loop (.int 2) [
        .function (.text "round") (.move (.known .up) :: (round ++ round ++ round)), .wait],
      .collect]
    let renamed : Program := [
      .loop (.int 2) [.function .null [.move (.known .up), .loop (.int 3) round], .wait],
      .collect]
    (nestedRounds.check {}).valid ∧ BreaksNothing round ∧
      ∃ es o, nestedRounds.run w Goal.reach = .ok (es, o) ∧
        (∃ es', inlined.run w Goal.reach = .ok (es', o) ∧
          es'.map Event.unplaced = es.map Event.unplaced) ∧
        (∃ es', unrolled.run w Goal.reach = .ok (es', o) ∧
          es'.map Event.unplaced = es.map Event.unplaced) ∧
        renamed.run w Goal.reach = .ok (es, o) := by
  intro w round inlined unrolled renamed
  have hvalid : (nestedRounds.check {}).valid := by decide
  have hround : BreaksNothing round := by decide
  have hfunction : ([0, 0], .function (.text "round") [.move (.known .up), .loop (.int 3) round]) ∈
      nestedRounds.walk := by decide
  have hloop : ([0, 0, 1], .loop (.int 3) round) ∈ nestedRounds.walk := by decide
  refine ⟨hvalid, hround, ?_⟩
  obtain ⟨hends, hkeeps, -⟩ := inlining_keeps_run hvalid w Goal.reach
  obtain ⟨es, o, hrun⟩ := hends (by decide)
  obtain ⟨hinline, hunroll, hrename⟩ := hkeeps es o hrun
  refine ⟨es, o, hrun, ?_, ?_, ?_⟩
  · exact hinline [0, 0] _ _ hfunction
  · exact hunroll [0, 0, 1] 3 round hloop hround
  · exact hrename [0, 0] _ .null _ hfunction

end Program

end GridRobot
