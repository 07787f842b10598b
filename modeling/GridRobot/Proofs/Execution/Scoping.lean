import GridRobot.Proofs.Execution.Resume
import GridRobot.Proofs.Program.Splice

/-!
# What a break ends

A break ends the innermost loop around it. Outside of every loop it ends the program, and then it
is the last event. So a trace tells by the place of its breaks whether the program was stopped, and
what stands behind a break in the body of a loop never matters, nor how often the loop would go
round.

* `Block.exec_explained`: the signal with which a block ends can be read off its events;
* `Program.isCongruence_sameRun`: blocks that run alike from every state may be exchanged anywhere;
* `Block.exec_loop_break`: a loop whose body has a break at its top level goes round once.
-/

namespace GridRobot

variable {κ : Type}

/-! ## Inside and outside of loops -/

namespace Program

/-- Is one of the blocks above the node at a path a loop? -/
def inLoop : Program → Path → Bool
  | _, [] => false
  | p, i :: path =>
    match p[i]? with
    | none => false
    | some b => (b.hasKind .loop && !path.isEmpty) || inLoop b.children path

/-- A path is in a loop if its first block is one and the path goes on, or if the rest is. -/
theorem inLoop_cons {p : Program} {i : Nat} {b : Block} (hb : p[i]? = some b) (path : Path) :
    p.inLoop (i :: path) = (b.hasKind .loop && !path.isEmpty || inLoop b.children path) := by
  rw [inLoop, hb]

end Program

/-- The event is a break among siblings below a path, the first of which is at an index. The break
is inside of a loop of theirs, or it is not. -/
def Event.BreaksIn (path : Path) (index : Nat) (bs : List Block) (looped : Bool) (e : Event κ) :
    Prop :=
  e.deed = .broke ∧ ∃ i rest, e.path = path ++ (index + i) :: rest ∧
    (i :: rest, Block.breakOut) ∈ Program.walk bs ∧ Program.inLoop bs (i :: rest) = looped

namespace Event.BreaksIn

variable {path : Path} {index : Nat} {bs cs : List Block} {b : Block} {looped : Bool} {e : Event κ}

/-- A break stays where it is when its siblings come to stand among others. -/
theorem among (k : Nat) (hsub : ∀ (i : Nat) (b : Block), bs[i]? = some b → cs[k + i]? = some b)
    (h : e.BreaksIn path (index + k) bs looped) : e.BreaksIn path index cs looped := by
  obtain ⟨hdeed, i, rest, hpath, hnode, hlooped⟩ := h
  obtain ⟨_, _, b, heq, hb, hbelow⟩ := Program.mem_walk_iff.1 hnode
  cases heq
  have hb' := hsub i b hb
  refine ⟨hdeed, k + i, rest, ?_, ?_, ?_⟩
  · rw [hpath, Nat.add_assoc]
  · exact Program.mem_walk_iff.2 ⟨k + i, rest, b, rfl, hb', hbelow⟩
  · rw [Program.inLoop_cons hb', ← Program.inLoop_cons hb, hlooped]

theorem head (h : e.BreaksIn path index [b] looped) : e.BreaksIn path index (b :: bs) looped := by
  refine among 0 ?_ h
  intro i c hc
  cases i with
  | zero => exact hc
  | succ i => cases hc

theorem tail (h : e.BreaksIn path (index + 1) bs looped) :
    e.BreaksIn path index (b :: bs) looped := by
  refine among 1 ?_ h
  intro i c hc
  rwa [Nat.add_comm]

/-- A break in the body of a block is inside of a loop if the block is one. -/
theorem below (h : e.BreaksIn (path ++ [index]) 0 b.children looped) :
    e.BreaksIn path index [b] (b.hasKind .loop || looped) := by
  obtain ⟨hdeed, i, rest, hpath, hnode, hlooped⟩ := h
  refine ⟨hdeed, 0, i :: rest, ?_, ?_, ?_⟩
  · rw [hpath, Nat.zero_add, Nat.add_zero, List.append_assoc, List.singleton_append]
  · exact Program.mem_walk_iff.2 ⟨0, i :: rest, b, rfl, rfl, Or.inr hnode⟩
  · rw [Program.inLoop_cons (b := b) rfl, hlooped, List.isEmpty_cons, Bool.not_false,
      Bool.and_true]

end Event.BreaksIn

/-! ## Events and signals -/

/-- The events account for the signal: siblings that break do so by their last event, outside of
every loop of theirs, and all other breaks are inside of one. -/
def Explains (path : Path) (index : Nat) (bs : List Block) : Signal → List (Event κ) → Prop
  | .proceed, es => ∀ e ∈ es, e.deed = .broke → e.BreaksIn path index bs true
  | .broke, es => ∃ front e, es = front ++ [e] ∧ e.BreaksIn path index bs false ∧
      ∀ f ∈ front, f.deed = .broke → f.BreaksIn path index bs true

namespace Explains

variable {path path' : Path} {index index' : Nat} {bs cs : List Block} {b : Block}
  {signal : Signal} {es fs : List (Event κ)}

theorem imp
    (hsub : ∀ e looped, Event.BreaksIn (κ := κ) path index bs looped e →
      Event.BreaksIn path' index' cs looped e)
    (h : Explains path index bs signal es) : Explains path' index' cs signal es := by
  cases signal with
  | proceed =>
    intro e he hdeed
    exact hsub e true (h e he hdeed)
  | broke =>
    obtain ⟨front, e, rfl, hlast, hfront⟩ := h
    refine ⟨front, e, rfl, hsub e false hlast, ?_⟩
    intro f hf hdeed
    exact hsub f true (hfront f hf hdeed)

theorem append (h : Explains path index bs .proceed es) (h' : Explains path index bs signal fs) :
    Explains path index bs signal (es ++ fs) := by
  cases signal with
  | proceed =>
    intro e he
    rcases List.mem_append.1 he with he | he
    · exact h e he
    · exact h' e he
  | broke =>
    obtain ⟨front, e, rfl, hlast, hfront⟩ := h'
    refine ⟨es ++ front, e, (List.append_assoc es front [e]).symm, hlast, ?_⟩
    intro f hf
    rcases List.mem_append.1 hf with hf | hf
    · exact h f hf
    · exact hfront f hf

/-- What is no loop passes on the signal of its body. -/
theorem pass (hkind : b.hasKind .loop = false)
    (h : Explains (path ++ [index]) 0 b.children signal es) :
    Explains path index [b] signal es := by
  refine h.imp ?_
  intro e looped he
  have hbelow := he.below
  rwa [hkind, Bool.false_or] at hbelow

/-- A loop takes in every break of its body, and so it goes on. -/
theorem absorb (hkind : b.hasKind .loop = true)
    (h : Explains (path ++ [index]) 0 b.children signal es) :
    Explains path index [b] .proceed es := by
  have hbelow {e : Event κ} {looped : Bool}
      (he : e.BreaksIn (path ++ [index]) 0 b.children looped) : e.BreaksIn path index [b] true := by
    have hloop := he.below
    rwa [hkind, Bool.true_or] at hloop
  cases signal with
  | proceed =>
    intro e he hdeed
    exact hbelow (h e he hdeed)
  | broke =>
    obtain ⟨front, e, rfl, hlast, hfront⟩ := h
    intro f hf hdeed
    rcases List.mem_append.1 hf with hf | hf
    · exact hbelow (hfront f hf hdeed)
    · rw [List.mem_singleton.1 hf]
      exact hbelow hlast

end Explains

namespace Program

/-- A break is as much inside of a loop as its path says. -/
theorem inLoop_of_breaksIn {p : Program} {looped : Bool} {e : Event κ}
    (h : e.BreaksIn [] 0 p looped) : p.inLoop e.path = looped := by
  obtain ⟨-, i, rest, hpath, -, hlooped⟩ := h
  rw [hpath, Nat.zero_add]
  exact hlooped

/-- A break outside of every loop is the last event. -/
theorem last_of_explains {p : Program} {signal : Signal} {es : List (Event κ)}
    (h : Explains [] 0 p signal es) {i : Nat} {e : Event κ} (he : es[i]? = some e)
    (hdeed : e.deed = .broke) (houtside : p.inLoop e.path = false) :
    signal = .broke ∧ i + 1 = es.length := by
  have hinside (front : List (Event κ)) (hmem : e ∈ front)
      (hfront : ∀ f ∈ front, f.deed = .broke → f.BreaksIn [] 0 p true) : False := by
    have hloop := inLoop_of_breaksIn (hfront e hmem hdeed)
    rw [houtside] at hloop
    cases hloop
  cases signal with
  | proceed => exact (hinside es (List.mem_of_getElem? he) h).elim
  | broke =>
    obtain ⟨front, last, rfl, -, hfront⟩ := h
    obtain ⟨hi, -⟩ := List.getElem?_eq_some_iff.1 he
    rw [List.length_append, List.length_singleton] at hi ⊢
    rcases Nat.lt_or_ge i front.length with hlt | hge
    · rw [List.getElem?_append_left hlt] at he
      exact (hinside front (List.mem_of_getElem? he) hfront).elim
    · exact ⟨rfl, by omega⟩

/-- A program signals a break exactly if one of its events is a break outside of all its loops. -/
theorem broke_iff_of_explains {p : Program} {signal : Signal} {es : List (Event κ)}
    (h : Explains [] 0 p signal es) :
    signal = .broke ↔ ∃ e ∈ es, e.deed = .broke ∧ p.inLoop e.path = false := by
  constructor
  · rintro rfl
    obtain ⟨front, e, rfl, hlast, -⟩ := h
    refine ⟨e, ?_, hlast.1, inLoop_of_breaksIn hlast⟩
    exact List.mem_append_right front List.mem_cons_self
  · rintro ⟨e, he, hdeed, houtside⟩
    obtain ⟨i, hi⟩ := List.mem_iff_getElem?.1 he
    exact (last_of_explains h hi hdeed houtside).1

end Program

/-- From a state on, siblings end with events that account for their signal, unless there is a
fault. -/
def Result.Explained (s : State κ) (path : Path) (index : Nat) (bs : List Block) (r : Result κ) :
    Prop :=
  ∀ signal t, r = (.ok signal, t) →
    ∃ es, t.trace = s.trace ++ es ∧ Explains path index bs signal es

/-- Siblings that do nothing have no events to account for. -/
theorem Result.explained_idle (s : State κ) (path : Path) (index : Nat) (bs : List Block) :
    Explained s path index bs (.ok .proceed, s) := by
  intro signal t h
  cases h
  refine ⟨[], (List.append_nil _).symm, ?_⟩
  intro e he
  cases he

variable [Coordinate κ]

omit [Coordinate κ] in
theorem Deed.block_eq_breakOut_iff {deed : Deed κ} : deed.block = .breakOut ↔ deed = .broke := by
  cases deed <;> simp [block]

/-- Only a break emits one. -/
theorem Action.trace_perform (w : World κ) (path : Path) (s : State κ) (a : Action) :
    ∃ es, (a.perform w path s).trace = s.trace ++ es ∧
      if a = .breakOut then ∃ e, es = [e] ∧ e.deed = .broke ∧ e.path = path
      else ∀ e ∈ es, e.deed ≠ .broke := by
  obtain ⟨entry, hjournal, -, hevent, hnone⟩ := Action.journal_perform w path s a
  refine ⟨entry.toList, State.trace_of_journal hjournal, ?_⟩
  split
  · next ha =>
    cases entry with
    | none =>
      rw [hnone rfl] at ha
      cases ha
    | some e =>
      obtain ⟨hpath, hblock⟩ := hevent e rfl
      rw [ha] at hblock
      exact ⟨e, rfl, Deed.block_eq_breakOut_iff.1 hblock, hpath⟩
  · next ha =>
    intro e he hdeed
    have hblock := (hevent e (Option.mem_toList.1 he)).2
    rw [Deed.block_eq_breakOut_iff.2 hdeed] at hblock
    cases a with
    | breakOut => exact ha rfl
    | _ => cases hblock

namespace Block

variable {w : World κ} {path : Path} {index : Nat}

/-- An action that is no break explains that the run goes on. -/
theorem explained_action (s : State κ) {a : Action} (ha : a ≠ .breakOut) (b : Block) :
    Result.Explained s path index [b] (.ok .proceed, a.perform w (path ++ [index]) s) := by
  intro signal t h
  cases h
  obtain ⟨es, htrace, hes⟩ := Action.trace_perform w (path ++ [index]) s a
  rw [if_neg ha] at hes
  refine ⟨es, htrace, ?_⟩
  intro e he hdeed
  exact absurd hdeed (hes e he)

/-- A break explains its own signal. -/
theorem explained_breakOut (s : State κ) :
    Result.Explained s path index [.breakOut]
      (.ok .broke, Action.breakOut.perform w (path ++ [index]) s) := by
  intro signal t h
  cases h
  obtain ⟨es, htrace, hes⟩ := Action.trace_perform w (path ++ [index]) s .breakOut
  rw [if_pos rfl] at hes
  obtain ⟨e, rfl, hdeed, hpath⟩ := hes
  refine ⟨[e], htrace, [], e, rfl, ⟨hdeed, 0, [], ?_, ?_, rfl⟩, ?_⟩
  · rw [hpath, Nat.add_zero]
  · exact Program.mem_walk_iff.2 ⟨0, [], .breakOut, rfl, rfl, Or.inl ⟨rfl, rfl⟩⟩
  · intro f hf
    cases hf

/-- Siblings pass on the first break among them. -/
theorem execFrom_explained_of {bs : List Block}
    (hbs : ∀ b ∈ bs, ∀ path index s,
      Result.Explained s path index [b] (b.exec w (path ++ [index]) s))
    (path : Path) (index : Nat) (s : State κ) :
    Result.Explained s path index bs (execFrom w path index bs s) := by
  induction bs generalizing index s with
  | nil =>
    rw [execFrom]
    exact Result.explained_idle s path index []
  | cons b bs ih =>
    have hfirst := hbs b List.mem_cons_self path index s
    intro signal t h
    rw [execFrom] at h
    split at h
    · next s' hb =>
      obtain ⟨es, hes, hexplains⟩ := hfirst .proceed s' hb
      obtain ⟨fs, hfs, hrest⟩ :=
        ih (fun c hc => hbs c (List.mem_cons_of_mem b hc)) (index + 1) s' signal t h
      refine ⟨es ++ fs, ?_, ?_⟩
      · rw [hfs, hes, List.append_assoc]
      · exact (hexplains.imp fun e looped he => he.head).append
          (hrest.imp fun e looped he => he.tail)
    · next s' hb =>
      cases h
      obtain ⟨es, hes, hexplains⟩ := hfirst .broke t hb
      exact ⟨es, hes, hexplains.imp fun e looped he => he.head⟩
    · cases h

omit [Coordinate κ] in
/-- The rounds of a loop go on one after the other until one of them breaks. -/
theorem repeatBody_explained {b : Block} (hkind : b.hasKind .loop = true)
    {body : State κ → Result κ}
    (hbody : ∀ s, Result.Explained s (path ++ [index]) 0 b.children (body s)) (n : Nat)
    (s : State κ) : Result.Explained s path index [b] (repeatBody body n s) := by
  induction n generalizing s with
  | zero => exact Result.explained_idle s path index [b]
  | succ n ih =>
    intro signal t h
    rw [repeatBody] at h
    split at h
    · next s' hround =>
      obtain ⟨es, hes, hexplains⟩ := hbody s .proceed s' hround
      obtain ⟨fs, hfs, hrest⟩ := ih s' signal t h
      refine ⟨es ++ fs, ?_, (hexplains.absorb hkind).append hrest⟩
      rw [hfs, hes, List.append_assoc]
    · next s' hround =>
      cases h
      obtain ⟨es, hes, hexplains⟩ := hbody s .broke t hround
      exact ⟨es, hes, hexplains.absorb hkind⟩
    · cases h

/-- The signal with which a block ends can be read off its events. -/
theorem exec_explained (w : World κ) (b : Block) (path : Path) (index : Nat) (s : State κ) :
    Result.Explained s path index [b] (b.exec w (path ++ [index]) s) := by
  induction b using children_induction generalizing path index s with
  | node b ih =>
    have hbody (s : State κ) : Result.Explained s (path ++ [index]) 0 b.children
        (execFrom w (path ++ [index]) 0 b.children s) :=
      execFrom_explained_of (fun c hc path index s => ih c hc path index s) (path ++ [index]) 0 s
    have hfault (f : RunFault) (t : State κ) :
        Result.Explained s path index [b] (.error f, t) := by
      intro signal t h
      cases h
    -- what is no loop passes a break of its body on
    have hpass (hkind : b.hasKind .loop = false) :
        Result.Explained s path index [b] (execFrom w (path ++ [index]) 0 b.children s) := by
      intro signal t h
      obtain ⟨es, hes, hexplains⟩ := hbody s signal t h
      exact ⟨es, hes, hexplains.pass hkind⟩
    cases b with
    | move direction =>
      rw [exec.eq_def]
      cases direction with
      | known d => exact explained_action s (by simp) _
      | other v => exact hfault _ _
    | collect =>
      rw [exec]
      exact explained_action s (by simp) _
    | wait =>
      rw [exec]
      exact explained_action s (by simp) _
    | breakOut =>
      rw [exec]
      exact explained_breakOut s
    | loop count body =>
      -- a loop keeps the breaks of its body to itself
      rw [exec]
      split
      · exact repeatBody_explained rfl hbody _ s
      · exact hfault _ _
    | conditional condition body =>
      rw [exec]
      split
      · exact hpass rfl
      · exact Result.explained_idle s path index _
      · exact hfault _ _
    | function name body =>
      rw [exec]
      exact hpass rfl
    | foreign v =>
      rw [exec]
      exact hfault _ _
    | derived name base =>
      rw [exec]
      exact hfault _ _

/-- The signal with which siblings end can be read off their events. -/
theorem execFrom_explained (w : World κ) (path : Path) (index : Nat) (bs : List Block)
    (s : State κ) : Result.Explained s path index bs (execFrom w path index bs s) :=
  execFrom_explained_of (fun b _ path index s => exec_explained w b path index s) path index s

/-! ## Exchanging blocks that run alike -/

variable {s : State κ}

/-- To resume siblings after no break is to run them. -/
theorem resume_siblings (path : Path) (index : Nat) (bs : List Block) :
    Frame.resume w .proceed [.siblings path index bs] s = execFrom w path index bs s := by
  rw [Frame.resume_proceed]
  simp [Frame.exec]

/-- Siblings one after the other: a break among the first passes by the others. -/
theorem execFrom_append (bs cs : List Block) (path : Path) (index : Nat) :
    execFrom w path index (bs ++ cs) s =
      (execFrom w path index bs s).andThen
        (fun signal s => Frame.resume w signal [.siblings path (index + bs.length) cs] s) := by
  induction bs generalizing index s with
  | nil =>
    rw [execFrom, Result.andThen_ok, resume_siblings]
    rfl
  | cons b bs ih =>
    rw [List.cons_append, execFrom_cons, execFrom_cons, Result.andThen_assoc]
    congr 1
    funext signal s
    cases signal with
    | broke => rfl
    | proceed =>
      rw [resume_siblings, resume_siblings, ih, List.length_cons, Nat.add_right_comm]
      rfl

theorem execFrom_singleton (b : Block) (path : Path) (index : Nat) :
    execFrom w path index [b] s = b.exec w (path ++ [index]) s := by
  rw [execFrom]
  split
  · next hb => rw [hb, execFrom]
  · next hb => rw [hb]
  · next hb => rw [hb]

/-- With a break at its top level a body never comes to its end, and what stands behind the break is
left out. -/
theorem execFrom_break (pre post : List Block) (path : Path) :
    execFrom w path 0 (pre ++ .breakOut :: post) s =
      (execFrom w path 0 pre s).andThen (fun signal s =>
        match signal with
        | .proceed => (.ok .broke, Action.breakOut.perform w (path ++ [pre.length]) s)
        | .broke => (.ok .broke, s)) := by
  rw [execFrom_append]
  congr 1
  funext signal s
  cases signal with
  | broke => rfl
  | proceed =>
    rw [resume_siblings, execFrom_cons, exec, Nat.zero_add]
    rfl

/-- A loop whose body has a break at its top level goes round once, whatever its count. -/
theorem exec_loop_break {n : Int} (hn : 1 ≤ n) (pre post : List Block) (path : Path) :
    exec w path (.loop (.int n) (pre ++ .breakOut :: post)) s =
      (execFrom w path 0 pre s).andThen (fun signal s =>
        match signal with
        | .proceed => (.ok .proceed, Action.breakOut.perform w (path ++ [pre.length]) s)
        | .broke => (.ok .proceed, s)) := by
  obtain ⟨k, hk⟩ : ∃ k, n.toNat = k + 1 := ⟨n.toNat - 1, by omega⟩
  have hcount : (Value.int n).count? = some (k + 1) := by rw [Value.count?, hk]
  rw [exec, hcount]
  dsimp only
  rw [repeatBody, execFrom_break]
  obtain ⟨fault | signal, t⟩ := execFrom w path 0 pre s
  · rfl
  · cases signal <;> rfl

end Block

namespace Program

/-- The programs run alike, from every state and at every place. -/
def SameRun (w : World κ) (p q : Program) : Prop :=
  p.length = q.length ∧
    ∀ path index s, Block.execFrom w path index p s = Block.execFrom w path index q s

theorem sameRun_singleton {w : World κ} {b c : Block}
    (h : ∀ path s, b.exec w path s = c.exec w path s) : SameRun w [b] [c] := by
  refine ⟨rfl, ?_⟩
  intro path index s
  rw [Block.execFrom_singleton, Block.execFrom_singleton, h]

/-- Blocks that run alike may be exchanged anywhere. -/
theorem isCongruence_sameRun (w : World κ) : IsCongruence (SameRun w) where
  refl := fun p => ⟨rfl, fun path index s => rfl⟩
  append := by
    intro p p' q q' hp hq
    refine ⟨by rw [List.length_append, List.length_append, hp.1, hq.1], ?_⟩
    intro path index s
    rw [Block.execFrom_append, Block.execFrom_append, hp.2, hp.1]
    congr 1
    funext signal t
    cases signal with
    | broke => rfl
    | proceed => rw [Block.resume_siblings, Block.resume_siblings, hq.2]
  body := by
    intro b body h
    apply sameRun_singleton
    intro path s
    have hbody : Block.execFrom w path 0 b.children = Block.execFrom w path 0 body :=
      funext fun t => h.2 path 0 t
    -- only containers run their body
    cases b with
    | loop count old =>
      have hold : Block.execFrom w path 0 old = Block.execFrom w path 0 body := hbody
      rw [Block.withBody, Block.exec, Block.exec, hold]
    | conditional condition old =>
      have hold : Block.execFrom w path 0 old = Block.execFrom w path 0 body := hbody
      rw [Block.withBody, Block.exec, Block.exec, hold]
    | function name old =>
      have hold : Block.execFrom w path 0 old = Block.execFrom w path 0 body := hbody
      rw [Block.withBody, Block.exec, Block.exec, hold]
    | move direction => rfl
    | collect => rfl
    | wait => rfl
    | breakOut => rfl
    | foreign v => rfl
    | derived name base => rw [Block.withBody, Block.exec, Block.exec]

/-- Programs that run alike have the same run. -/
theorem SameRun.run_eq {w : World κ} {p q : Program} (h : SameRun w p q) (g : Goal κ) :
    q.run w g = p.run w g := by
  rw [run, run, h.2]

theorem SameRun.course_eq {w : World κ} {p q : Program} (h : SameRun w p q) (g : Goal κ) :
    q.course w g = p.course w g := by
  rw [course, course, h.2]

/-! ## Whole programs -/

/-- A valid program is stopped early exactly if there is a break in its trace that is inside of no
loop, and such a break is the last event. In any program, a loop with a break at the top level of
its body may go round any other number of times and have anything else behind the break: the run
stays the same, event by event. -/
theorem break_scoping (w : World κ) (g : Goal κ) :
    (∀ p : Program, (p.check {}).valid →
      (p.Genuine → ∃ es o, p.run w g = .ok (es, o)) ∧
      ∀ es o, p.run w g = .ok (es, o) →
        (o.stoppedEarly = true ↔ ∃ e ∈ es, e.deed = .broke ∧ p.inLoop e.path = false) ∧
        ∀ (i : Nat) (e : Event κ), es[i]? = some e → e.deed = .broke → p.inLoop e.path = false →
          i + 1 = es.length) ∧
    ∀ (p : Program) (path : Path) (n m : Int) (pre post post' : List Block),
      (path, .loop (.int n) (pre ++ .breakOut :: post)) ∈ p.walk → 1 ≤ n → 1 ≤ m →
        let q := p.splice path [.loop (.int m) (pre ++ .breakOut :: post')]
        q.run w g = p.run w g ∧
          Block.execFrom w [] 0 q (State.initial w) =
            Block.execFrom w [] 0 p (State.initial w) := by
  constructor
  · intro p hp
    refine ⟨fun hgen => run_ok_of_genuine hp hgen w g, ?_⟩
    intro es o hrun
    obtain ⟨signal, s, hexec, rfl, rfl⟩ := run_eq_ok_iff.1 hrun
    obtain ⟨es, htrace, hexplains⟩ := Block.execFrom_explained w [] 0 p _ signal s hexec
    have hall : s.trace = es := htrace
    constructor
    · rw [hall, ← broke_iff_of_explains hexplains, State.outcome, decide_eq_true_iff]
    · intro i e he hdeed houtside
      rw [hall] at he ⊢
      exact (last_of_explains hexplains he hdeed houtside).2
  · intro p path n m pre post post' hnode hn hm
    -- neither the count nor what stands behind the break shows in the run of the loop
    have hloops : SameRun w [.loop (.int n) (pre ++ .breakOut :: post)]
        [.loop (.int m) (pre ++ .breakOut :: post')] := by
      apply sameRun_singleton
      intro path s
      rw [Block.exec_loop_break hn, Block.exec_loop_break hm]
    have hsame := (isCongruence_sameRun w).splice hnode hloops
    exact ⟨hsame.run_eq g, (hsame.2 [] 0 (State.initial w)).symm⟩

/-- A loop that a break ends in its first round, inside of another loop, and then a break outside of
every loop. -/
def twoBreaks : Program := [
  .loop (.int 2) [.loop (.int 3) [.wait, .breakOut, .move (.known .up)]],
  .function (.text "stop") [.conditional (.known .goalAhead) [.breakOut]],
  .collect]

/-- In front of the goal that program is stopped early by its last break. The inner loop could as
well have any other count and end in anything. -/
theorem break_scoping_twoBreaks :
    let w : World := ⟨3, ⟨0, 1⟩, ⟨0, 0⟩, [], []⟩
    let changed : Program := [
      .loop (.int 2) [.loop (.int 6) [.wait, .breakOut, .foreign .null]],
      .function (.text "stop") [.conditional (.known .goalAhead) [.breakOut]],
      .collect]
    (twoBreaks.check {}).valid ∧
    (∃ es o, twoBreaks.run w Goal.reach = .ok (es, o) ∧ o.stoppedEarly = true ∧
      ∃ e ∈ es, e.deed = .broke ∧ twoBreaks.inLoop e.path = false) ∧
    ([0, 0], .loop (.int 3) ([.wait] ++ .breakOut :: [.move (.known .up)])) ∈ twoBreaks.walk ∧
    changed.run w Goal.reach = twoBreaks.run w Goal.reach := by
  intro w changed
  have hvalid : (twoBreaks.check {}).valid := by decide
  have hnode : ([0, 0], .loop (.int 3) ([.wait] ++ .breakOut :: [.move (.known .up)])) ∈
      twoBreaks.walk := by decide
  have hearly : (twoBreaks.run w Goal.reach).toOption.map (·.2.stoppedEarly) = some true := by
    decide
  obtain ⟨hstops, hexchange⟩ := break_scoping w Goal.reach
  obtain ⟨hends, hruns⟩ := hstops twoBreaks hvalid
  obtain ⟨es, o, hrun⟩ := hends (by decide)
  have hiff := (hruns es o hrun).1
  rw [hrun] at hearly
  have hstopped : o.stoppedEarly = true := Option.some.inj hearly
  refine ⟨hvalid, ⟨es, o, hrun, hstopped, hiff.1 hstopped⟩, hnode, ?_⟩
  exact (hexchange twoBreaks [0, 0] 3 6 [.wait] _ [.foreign .null] hnode (by decide) (by decide)).1

end Program

end GridRobot
