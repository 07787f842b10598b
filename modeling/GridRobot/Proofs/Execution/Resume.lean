import GridRobot.Proofs.Execution.Safety

/-!
# Stepping is running

A machine does one action at a time, and what it has still to do is a stack of frames. Running these
frames in one go, from where the robot is now, is what the machine is heading for; looking for the
next action and doing it does not change where that leads.

* `Search.run_block`, `Search.run_stack`: the action that is found, followed by the frames that are
  left, is the same run as the blocks in which it was looked for;
* `Machine.Good.next_cases`, `Machine.Good.turn_cases`: all that can happen in a turn;
* `Machine.Good.pull_cases`: a host that waits for events gets the next event of the run, or learns
  that the run is over or cannot go on.
-/

namespace GridRobot

variable {κ : Type}

/-! ## Results one after the other -/

namespace Result

/-- Go on after a result, unless it is a fault. -/
def andThen (r : Result κ) (next : Signal → State κ → Result κ) : Result κ :=
  match r with
  | (.ok signal, s) => next signal s
  | (.error f, s) => (.error f, s)

@[simp] theorem andThen_ok (signal : Signal) (s : State κ) (next : Signal → State κ → Result κ) :
    andThen (.ok signal, s) next = next signal s := rfl

@[simp] theorem andThen_error (f : RunFault) (s : State κ) (next : Signal → State κ → Result κ) :
    andThen (.error f, s) next = (.error f, s) := rfl

@[simp] theorem andThen_done (r : Result κ) :
    r.andThen (fun signal s => (.ok signal, s)) = r := by
  obtain ⟨f | signal, s⟩ := r <;> rfl

/-- What goes on twice may be put together first. -/
theorem andThen_assoc (r : Result κ) (f g : Signal → State κ → Result κ) :
    (r.andThen f).andThen g = r.andThen (fun signal s => (f signal s).andThen g) := by
  obtain ⟨fault | signal, s⟩ := r <;> rfl

end Result

/-- A body that does nothing now does nothing however often it is repeated. -/
theorem repeatBody_idle {body : State κ → Result κ} {s : State κ}
    (h : body s = (.ok .proceed, s)) (n : Nat) : repeatBody body n s = (.ok .proceed, s) := by
  induction n with
  | zero => rfl
  | succ n ih =>
    rw [repeatBody, h]
    exact ih

/-- What the block that does an action tells its parent. -/
def Action.signal : Action → Signal
  | .breakOut => .broke
  | .move _ | .collect | .wait => .proceed

theorem Action.signal_of_ne {a : Action} (h : a ≠ .breakOut) : a.signal = .proceed := by
  cases a with
  | breakOut => exact absurd rfl h
  | move d => rfl
  | collect => rfl
  | wait => rfl

variable [Coordinate κ]

/-! ## Running frames -/

namespace Frame

/-- Run a frame. -/
def exec (w : World κ) : Frame → State κ → Result κ
  | .siblings path index blocks, s => Block.execFrom w path index blocks s
  | .repetitions path count body, s => repeatBody (Block.execFrom w path 0 body) count s

/-- Run a stack of frames after a signal from inside it. A break passes by siblings, and it ends at
a loop. -/
def resume (w : World κ) : Signal → List Frame → State κ → Result κ
  | signal, [], s => (.ok signal, s)
  | .proceed, frame :: frames, s =>
    (frame.exec w s).andThen (fun signal s => resume w signal frames s)
  | .broke, .siblings .. :: frames, s => resume w .broke frames s
  | .broke, .repetitions .. :: frames, s => resume w .proceed frames s

variable {w : World κ}

@[simp] theorem resume_nil (signal : Signal) (s : State κ) :
    resume w signal [] s = (.ok signal, s) := by
  cases signal <;> rfl

@[simp] theorem resume_proceed (frame : Frame) (frames : List Frame) (s : State κ) :
    resume w .proceed (frame :: frames) s =
      (frame.exec w s).andThen (fun signal s => resume w signal frames s) := rfl

@[simp] theorem resume_broke_siblings (path : Path) (index : Nat) (blocks : List Block)
    (frames : List Frame) (s : State κ) :
    resume w .broke (.siblings path index blocks :: frames) s = resume w .broke frames s := rfl

@[simp] theorem resume_broke_repetitions (path : Path) (count : Nat) (body : List Block)
    (frames : List Frame) (s : State κ) :
    resume w .broke (.repetitions path count body :: frames) s = resume w .proceed frames s := rfl

/-- Frames are resumed one after the other. -/
theorem resume_append (signal : Signal) (fs gs : List Frame) (s : State κ) :
    resume w signal (fs ++ gs) s =
      (resume w signal fs s).andThen (fun signal s => resume w signal gs s) := by
  induction fs generalizing signal s with
  | nil => simp
  | cons f fs ih =>
    cases signal with
    | proceed => simp only [List.cons_append, resume_proceed, Result.andThen_assoc, ih]
    | broke =>
      cases f with
      | siblings path index blocks => simpa using ih .broke s
      | repetitions path count body => simpa using ih .proceed s

/-- A break goes on behind the innermost loop, if there is a loop. -/
theorem resume_broke_eq (fs : List Frame) (s : State κ) :
    resume w .broke fs s =
      match leaveLoop fs with
      | some rest => resume w .proceed rest s
      | none => (.ok .broke, s) := by
  induction fs with
  | nil => rfl
  | cons f fs ih =>
    cases f with
    | siblings path index blocks => exact ih
    | repetitions path count body => rfl

end Frame

/-! ## The next action and what follows it -/

namespace Search

/-- Do what was found, and then run the frames behind it. -/
def run (w : World κ) (s : State κ) : Search → Result κ
  | .nothing => (.ok .proceed, s)
  | .found (.act a) path rest => Frame.resume w a.signal rest (a.perform w path s)
  | .found (.badMove v) _ _ => (.error (.badDirection v), s)
  | .fault f => (.error f, s)

variable {w : World κ} {s : State κ}

/-- Where something was found, a frame behind it runs last. -/
theorem run_followedBy {x : Search} (h : x ≠ .nothing) (frame : Frame) :
    (x.followedBy frame).run w s =
      (x.run w s).andThen (fun signal s => Frame.resume w signal [frame] s) := by
  match x, h with
  | .found (.act a) path rest, _ => exact Frame.resume_append a.signal rest [frame] _
  | .found (.badMove v) path rest, _ => rfl
  | .fault f, _ => rfl

end Search

namespace Block

variable {w : World κ} {s : State κ}

/-- The first block runs, and then the frame with its younger siblings is resumed. -/
theorem execFrom_cons (path : Path) (index : Nat) (b : Block) (bs : List Block) :
    execFrom w path index (b :: bs) s =
      (b.exec w (path ++ [index]) s).andThen
        (fun signal s => Frame.resume w signal [.siblings path (index + 1) bs] s) := by
  rw [execFrom]
  split
  · next heq => simp [heq, Frame.exec]
  · next heq => simp [heq]
  · next heq => simp [heq]

/-- The body runs once, and then the frame with the other rounds is resumed. -/
theorem repeatBody_succ (path : Path) (body : List Block) (n : Nat) :
    repeatBody (execFrom w path 0 body) (n + 1) s =
      (execFrom w path 0 body s).andThen
        (fun signal s => Frame.resume w signal [.repetitions path n body] s) := by
  rw [repeatBody]
  split
  · next heq => simp [heq, Frame.exec]
  · next heq => simp [heq]
  · next heq => simp [heq]

end Block

namespace Search

variable {w : World κ} {s : State κ}

theorem run_siblings_of {bs : List Block}
    (hbs : ∀ b ∈ bs, ∀ path, (b.search w s path).run w s = b.exec w path s) (path : Path)
    (index : Nat) :
    (Block.searchFrom w s path index bs).run w s = Block.execFrom w path index bs s := by
  induction bs generalizing index with
  | nil => simp [Block.searchFrom, Block.execFrom, run]
  | cons b bs ih =>
    have hb := hbs b List.mem_cons_self (path ++ [index])
    have hrest := ih (fun c hc => hbs c (List.mem_cons_of_mem _ hc)) (index + 1)
    rw [Block.searchFrom, Block.execFrom_cons, ← hb]
    split
    · next heq =>
      rw [heq, hrest]
      simp [run, Frame.exec]
    · next hne => exact run_followedBy hne _

/-- The repetitions of a body begin with what is found in the body; if nothing is, there are none
worth running. -/
theorem run_repetitions_of {path : Path} {body : List Block}
    (hbody : (Block.searchFrom w s path 0 body).run w s = Block.execFrom w path 0 body s)
    (n : Nat) :
    ((Block.searchFrom w s path 0 body).followedBy (.repetitions path n body)).run w s =
      repeatBody (Block.execFrom w path 0 body) (n + 1) s := by
  by_cases hnone : Block.searchFrom w s path 0 body = .nothing
  · rw [hnone] at hbody ⊢
    exact (repeatBody_idle hbody.symm (n + 1)).symm
  · rw [run_followedBy hnone, hbody, Block.repeatBody_succ]

/-- What is found in a block, and what follows it, is the run of the block. -/
theorem run_block (path : Path) (b : Block) : (b.search w s path).run w s = b.exec w path s := by
  induction b using Block.children_induction generalizing path with
  | node b ih =>
    have hbody : (Block.searchFrom w s path 0 b.children).run w s =
        Block.execFrom w path 0 b.children s :=
      run_siblings_of (fun c hc path => ih c hc path) path 0
    cases b with
    | move direction =>
      cases direction with
      | known d => simp [Block.search, Block.exec, run, Action.signal]
      | other v => simp [Block.search, Block.exec, run]
    | collect => simp [Block.search, Block.exec, run, Action.signal]
    | wait => simp [Block.search, Block.exec, run, Action.signal]
    | breakOut => simp [Block.search, Block.exec, run, Action.signal]
    | loop count body =>
      -- the first round begins at once, and the others are left as a frame
      rw [Block.search, Block.exec]
      cases count.count? with
      | none => rfl
      | some n =>
        cases n with
        | zero => rfl
        | succ n => exact run_repetitions_of hbody n
    | conditional condition body =>
      rw [Block.search, Block.exec]
      cases condition.test w s with
      | error f => rfl
      | ok holds =>
        cases holds with
        | true => exact hbody
        | false => rfl
    | function name body =>
      rw [Block.search, Block.exec]
      exact hbody
    | foreign v => simp [Block.search, Block.exec, run]
    | derived name base => simp [Block.search, Block.exec, run]

/-- A search through a frame finds the first action, and what is left leads on to the same result.
-/
theorem run_frame (f : Frame) : (f.search w s).run w s = f.exec w s := by
  have hbody (path : Path) (index : Nat) (bs : List Block) :
      (Block.searchFrom w s path index bs).run w s = Block.execFrom w path index bs s :=
    run_siblings_of (fun b _ path => run_block path b) path index
  cases f with
  | siblings path index blocks => exact hbody path index blocks
  | repetitions path count body =>
    cases count with
    | zero => rfl
    | succ n => exact run_repetitions_of (hbody path 0 body) n

/-- What is found in a stack of frames, and what follows it, is the run of the stack. -/
theorem run_stack (frames : List Frame) :
    (Frame.searchStack w s frames).run w s = Frame.resume w .proceed frames s := by
  induction frames with
  | nil => rfl
  | cons f fs ih =>
    have hf := run_frame (w := w) (s := s) f
    rw [Frame.searchStack, Frame.resume_proceed, ← hf]
    split
    · next heq =>
      rw [heq, ih]
      rfl
    · next intent path rest heq =>
      rw [heq]
      cases intent with
      | act a => exact Frame.resume_append a.signal rest fs _
      | badMove v => rfl
    · next heq =>
      rw [heq]
      rfl

end Search

/-! ## The journal -/

omit [Coordinate κ] in
/-- An entry of the journal adds its event to the trace, if it has one. -/
theorem State.trace_of_journal {s t : State κ} {entry : Option (Event κ)}
    (h : t.journal = entry :: s.journal) : t.trace = s.trace ++ entry.toList := by
  cases entry with
  | none => simp [trace, h]
  | some e => simp [trace, h]

/-- An action makes one entry, and the entry is counted if it is an event. The event tells the block
that acted; only a collect may have none. -/
theorem Action.journal_perform (w : World κ) (path : Path) (s : State κ) (a : Action) :
    ∃ entry, (a.perform w path s).journal = entry :: s.journal ∧
      (a.perform w path s).steps = s.steps + entry.toList.length ∧
      (∀ e ∈ entry, e.path = path ∧ e.deed.block = a.block) ∧ (entry = none → a = .collect) := by
  have hemit (t : State κ) (deed : Deed κ) (hdeed : deed.block = a.block) :
      ∃ entry, (t.emit path deed).journal = entry :: t.journal ∧
        (t.emit path deed).steps = t.steps + entry.toList.length ∧
        (∀ e ∈ entry, e.path = path ∧ e.deed.block = a.block) ∧
        (entry = none → a = .collect) := by
    refine ⟨some _, rfl, rfl, ?_, nofun⟩
    intro e he
    cases he
    exact ⟨rfl, hdeed⟩
  cases a with
  | move d =>
    rw [Action.perform]
    split
    · exact hemit _ _ rfl
    · exact hemit _ _ rfl
  | collect =>
    rw [Action.perform]
    split
    · exact hemit _ _ rfl
    · exact ⟨none, rfl, rfl, nofun, fun _ => rfl⟩
  | wait => exact hemit _ _ rfl
  | breakOut => exact hemit _ _ rfl

/-- What every action keeps, running frames keeps. -/
theorem Frame.resume_preserves {w : World κ} {P : State κ → Prop}
    (hstep : ∀ path a s, P s → P (Action.perform w path s a)) (signal : Signal)
    (frames : List Frame) {s : State κ} (h : P s) : P (resume w signal frames s).2 := by
  have hsiblings (path : Path) (index : Nat) (bs : List Block) (t : State κ) (ht : P t) :
      P (Block.execFrom w path index bs t).2 :=
    Block.execFrom_preserves (fun path a _ t ht => hstep path a t ht) ht
  have hframe (f : Frame) (t : State κ) (ht : P t) : P (f.exec w t).2 := by
    cases f with
    | siblings path index blocks => exact hsiblings path index blocks t ht
    | repetitions path count body =>
      exact repeatBody_preserves (fun t ht => hsiblings path 0 body t ht) count ht
  induction frames generalizing signal s with
  | nil => simpa using h
  | cons f fs ih =>
    cases signal with
    | proceed =>
      have hf := hframe f s h
      rw [resume_proceed]
      revert hf
      obtain ⟨fault | signal, t⟩ := f.exec w s
      · exact fun hf => hf
      · exact fun hf => ih signal hf
    | broke =>
      cases f with
      | siblings path index blocks => exact ih .broke h
      | repetitions path count body => exact ih .proceed h

/-- Running frames only adds to the journal. -/
theorem Frame.journal_resume (w : World κ) (signal : Signal) (frames : List Frame) (s : State κ) :
    s.journal <:+ (resume w signal frames s).2.journal := by
  refine resume_preserves (P := fun t => s.journal <:+ t.journal) ?_ signal frames
    (List.suffix_refl _)
  intro path a t ht
  obtain ⟨entry, hentry, -⟩ := Action.journal_perform w path t a
  rw [hentry]
  exact ht.trans (List.suffix_cons entry t.journal)

/-- Running frames only adds to the trace. -/
theorem Frame.trace_resume (w : World κ) (signal : Signal) (frames : List Frame) (s : State κ) :
    s.trace <+: (resume w signal frames s).2.trace :=
  List.reverse_prefix.2 ((journal_resume w signal frames s).filterMap id)

/-! ## Turns of a machine -/

namespace Machine

/-- What a machine has heard last from the blocks that are done. -/
def signal (m : Machine κ) : Signal := if m.stoppedEarly then .broke else .proceed

/-- What a machine is heading for: the end of all that is left to do. -/
def finish (m : Machine κ) : Result κ := Frame.resume m.world m.signal m.frames m.state

/-- To finish a new machine is to run the program in one go. -/
theorem finish_start (w : World κ) (p : Program) :
    (start w p).finish = Block.execFrom w [] 0 p (State.initial w) := by
  simp [finish, signal, start, Frame.exec]

/-- There is nothing left to do after a break outside every loop, and the events are counted. -/
structure Good (m : Machine κ) : Prop where
  halted : m.stoppedEarly → m.frames = []
  counted : m.state.steps = m.state.trace.length

omit [Coordinate κ] in
/-- A new machine is good. -/
theorem good_start (w : World κ) (p : Program) : (start w p).Good where
  halted := fun h => absurd h Bool.false_ne_true
  counted := rfl

/-- A machine comes to another one and emits some events on the way. -/
structure Leads (m : Machine κ) (es : List (Event κ)) (m' : Machine κ) : Prop where
  good : m'.Good
  world : m'.world = m.world
  finish : m'.finish = m.finish
  trace : m'.state.trace = m.state.trace ++ es
  work : m'.work + es.length ≤ m.work

theorem Good.leads_refl {m : Machine κ} (h : m.Good) : m.Leads [] m where
  good := h
  world := rfl
  finish := rfl
  trace := (List.append_nil _).symm
  work := Nat.le_refl _

/-- Events are handed out one after the other. -/
theorem Leads.trans {m₁ m₂ m₃ : Machine κ} {es fs : List (Event κ)} (h : m₁.Leads es m₂)
    (h' : m₂.Leads fs m₃) : m₁.Leads (es ++ fs) m₃ where
  good := h'.good
  world := h'.world.trans h.world
  finish := h'.finish.trans h.finish
  trace := by rw [h'.trace, h.trace, List.append_assoc]
  work := by
    have hfirst := h.work
    have hlast := h'.work
    rw [List.length_append]
    omega

/-- Doing an action leads to where the action and the frames behind it lead. -/
theorem finish_perform {m : Machine κ} (hgoing : m.stoppedEarly = false) (a : Action) (path : Path)
    (rest : List Frame) :
    (m.perform a path rest).finish =
      Frame.resume m.world a.signal rest (a.perform m.world path m.state) := by
  unfold perform
  by_cases ha : a = .breakOut
  · subst ha
    rw [if_pos rfl, Action.signal, Frame.resume_broke_eq]
    cases Frame.leaveLoop rest with
    | some frames => simp [finish, signal, hgoing]
    | none => simp [finish, signal]
  · rw [if_neg ha, Action.signal_of_ne ha]
    simp [finish, signal, hgoing]

/-- What an action leaves of the machine beside the frames. -/
theorem perform_fields (m : Machine κ) (a : Action) (path : Path)
    (rest : List Frame) :
    (m.perform a path rest).world = m.world ∧
      (m.perform a path rest).state = a.perform m.world path m.state ∧
      (m.stoppedEarly = false → (m.perform a path rest).stoppedEarly →
        (m.perform a path rest).frames = []) := by
  unfold perform
  dsimp only
  split
  · split
    · exact ⟨rfl, rfl, fun hgoing hstop => absurd (hgoing ▸ hstop) Bool.false_ne_true⟩
    · exact ⟨rfl, rfl, fun _ _ => rfl⟩
  · exact ⟨rfl, rfl, fun hgoing hstop => absurd (hgoing ▸ hstop) Bool.false_ne_true⟩

theorem checks_perform (m : Machine κ) (a : Action) (path : Path) (rest : List Frame) :
    (m.perform a path rest).checks = m.checks + 1 := by
  unfold perform
  dsimp only
  split
  · split
    · rfl
    · rfl
  · rfl

/-- A machine has come to its end, or it cannot go on, or there is an action to do. The action makes
one entry in the journal, and there is less work left behind it. -/
theorem Good.next_cases {m : Machine κ} (h : m.Good) :
    (m.next = .nothing ∧ m.finish = (.ok m.signal, m.state)) ∨
      (∃ f, f ≠ .cancelled ∧ m.finish = (.error f, m.state) ∧
        (m.next = .fault f ∨
          ∃ v path rest, m.next = .found (.badMove v) path rest ∧ f = .badDirection v)) ∨
      ∃ a path rest entry, m.next = .found (.act a) path rest ∧
        (a.perform m.world path m.state).journal = entry :: m.state.journal ∧
        m.Leads entry.toList (m.perform a path rest) ∧ (m.perform a path rest).work < m.work := by
  have hwithin : m.next.Within m.nodes m.work := Frame.searchStack_within m.world m.state m.frames
  have hrun : m.next.run m.world m.state = Frame.resume m.world .proceed m.frames m.state :=
    Search.run_stack m.frames
  -- where something is found, no break has stopped the program
  have hgoing (hsome : m.next ≠ .nothing) : m.stoppedEarly = false := by
    cases hstop : m.stoppedEarly with
    | false => rfl
    | true =>
      rw [next, h.halted hstop] at hsome
      exact absurd rfl hsome
  have hfinish (hsome : m.next ≠ .nothing) : m.finish = m.next.run m.world m.state := by
    rw [hrun, finish, signal, hgoing hsome]
    rfl
  cases hnext : m.next with
  | nothing =>
    -- either the frames are used up, or a break outside of all loops has dropped them
    refine Or.inl ⟨rfl, ?_⟩
    by_cases hstop : m.stoppedEarly
    · simp [finish, h.halted hstop]
    · rw [hnext] at hrun
      simp [finish, signal, hstop, ← hrun, Search.run]
  | fault f =>
    have hsome : m.next ≠ .nothing := by simp [hnext]
    rw [hnext] at hwithin
    refine Or.inr (Or.inl ⟨f, ?_, ?_, Or.inl rfl⟩)
    · rintro rfl
      obtain ⟨n, -, hn⟩ := hwithin
      exact Block.obstacle_ne_cancelled n.1 n.2 hn
    · rw [hfinish hsome, hnext]
      rfl
  | found intent path rest =>
    have hsome : m.next ≠ .nothing := by simp [hnext]
    rw [hnext] at hwithin
    cases intent with
    | badMove v =>
      -- a move without a direction is found like an action, and is at fault only when it is due
      refine Or.inr (Or.inl ⟨.badDirection v, nofun, ?_, Or.inr ⟨v, path, rest, rfl, rfl⟩⟩)
      rw [hfinish hsome, hnext]
      rfl
    | act a =>
      obtain ⟨-, hwork⟩ := m.perform_within a path rest
      obtain ⟨hworld, hstate, hhalted⟩ := m.perform_fields a path rest
      obtain ⟨entry, hjournal, hsteps, -⟩ := Action.journal_perform m.world path m.state a
      have htrace : (m.perform a path rest).state.trace = m.state.trace ++ entry.toList := by
        rw [hstate]
        exact State.trace_of_journal hjournal
      have hless : (m.perform a path rest).work < m.work := Nat.lt_of_le_of_lt hwork hwithin.2.2
      refine Or.inr (Or.inr ⟨a, path, rest, entry, rfl, hjournal, ?_, hless⟩)
      refine ⟨⟨hhalted (hgoing hsome), ?_⟩, hworld, ?_, htrace, ?_⟩
      · rw [htrace, hstate, hsteps, List.length_append, h.counted]
      · rw [finish_perform (hgoing hsome), hfinish hsome, hnext]
        rfl
      · have hone : entry.toList.length ≤ 1 := by cases entry <;> simp
        omega

/-- Asking the host does not change where a machine leads. -/
theorem Good.leads_asked {m : Machine κ} (h : m.Good) :
    m.Leads [] { m with checks := m.checks + 1 } where
  good := ⟨h.halted, h.counted⟩
  world := rfl
  finish := rfl
  trace := (List.append_nil _).symm
  work := Nat.le_refl _

/-- In a turn a machine finds that it has come to its end, is cancelled by its host, finds that it
cannot go on, or acts: then it emits one event or none, and has less work left. -/
theorem Good.turn_cases {m : Machine κ} (h : m.Good) (cancel : Nat → Bool) :
    (m.turn cancel = (.ended, m) ∧ m.finish = (.ok m.signal, m.state)) ∨
      (m.turn cancel = (.failed .cancelled, { m with checks := m.checks + 1 }) ∧
        cancel m.checks) ∨
      (∃ f m', m.turn cancel = (.failed f, m') ∧ f ≠ .cancelled ∧ m.Leads [] m' ∧
        m'.finish = (.error f, m'.state)) ∨
      ∃ entry m', m.turn cancel = (.acted entry, m') ∧ m.Leads entry.toList m' ∧
        m'.work < m.work := by
  unfold Machine.turn
  rcases h.next_cases with
    ⟨hnext, hfinish⟩ | ⟨f, hne, hfinish, hnext | ⟨v, path, rest, hnext, rfl⟩⟩ |
      ⟨a, path, rest, entry, hnext, hjournal, hleads, hless⟩
  · rw [hnext]
    exact Or.inl ⟨rfl, hfinish⟩
  · rw [hnext]
    exact Or.inr (Or.inr (Or.inl ⟨f, m, rfl, hne, h.leads_refl, hfinish⟩))
  · -- a move without a direction: the host is asked first
    rw [hnext]
    by_cases hc : cancel m.checks
    · exact Or.inr (Or.inl ⟨if_pos hc, hc⟩)
    · exact Or.inr (Or.inr (Or.inl ⟨_, _, if_neg hc, hne, h.leads_asked, hfinish⟩))
  · rw [hnext]
    by_cases hc : cancel m.checks
    · exact Or.inr (Or.inl ⟨if_pos hc, hc⟩)
    · refine Or.inr (Or.inr (Or.inr ⟨entry, m.perform a path rest, ?_, hleads, hless⟩))
      dsimp only
      rw [if_neg hc, (m.perform_fields a path rest).2.1, hjournal]
      rfl

/-! ## Pulling events -/

/-- What a host that does not cancel gets from a machine: the next event, or that the machine has
come to its end, or that it cannot go on. -/
def Pulls (m : Machine κ) (answer : Pull κ × Machine κ) : Prop :=
  (∃ e m', answer = (.event e, m') ∧ m.Leads [e] m') ∨
    (∃ m', answer = (.ended, m') ∧ m.Leads [] m' ∧ m'.finish = (.ok m'.signal, m'.state)) ∨
    ∃ f m', answer = (.failed f, m') ∧ f ≠ .cancelled ∧ m.Leads [] m' ∧
      m'.finish = (.error f, m'.state)

/-- Enough turns for the work that is left are enough for an answer. -/
theorem Good.pulls_within {m : Machine κ} (h : m.Good) {turns : Nat} (hturns : m.work < turns) :
    m.Pulls (m.pullWithin (fun _ => false) turns) := by
  induction turns generalizing m with
  | zero => exact absurd hturns (Nat.not_lt_zero _)
  | succ turns ih =>
    rw [pullWithin]
    rcases h.turn_cases (fun _ => false) with
      ⟨hturn, hfinish⟩ | ⟨-, hc⟩ | ⟨f, m', hturn, hne, hleads, hfinish⟩ |
      ⟨entry, m', hturn, hleads, hless⟩
    · rw [hturn]
      exact Or.inr (Or.inl ⟨m, rfl, h.leads_refl, hfinish⟩)
    · cases hc
    · rw [hturn]
      exact Or.inr (Or.inr ⟨f, m', rfl, hne, hleads, hfinish⟩)
    · rw [hturn]
      cases entry with
      | some e => exact Or.inl ⟨e, m', rfl, hleads⟩
      | none =>
        -- an action without an event: the machine goes on
        rcases ih hleads.good (by omega) with
          ⟨e, m'', hpull, hleads'⟩ | ⟨m'', hpull, hleads', hend⟩ |
          ⟨f, m'', hpull, hne, hleads', hend⟩
        · exact Or.inl ⟨e, m'', hpull, hleads.trans hleads'⟩
        · exact Or.inr (Or.inl ⟨m'', hpull, hleads.trans hleads', hend⟩)
        · exact Or.inr (Or.inr ⟨f, m'', hpull, hne, hleads.trans hleads', hend⟩)

/-- A good machine that nobody cancels can be pulled from. -/
theorem Good.pull_cases {m : Machine κ} (h : m.Good) : m.Pulls (m.pull (fun _ => false)) :=
  h.pulls_within (Nat.lt_succ_self _)

end Machine

/-! ## Programs -/

/-- The trace of a machine that was started with a program is the beginning of the events of the
program. -/
theorem Machine.Leads.trace_prefix {p : Program} {w : World κ} {got : List (Event κ)}
    {m : Machine κ} (h : (Machine.start w p).Leads got m) (g : Goal κ) :
    m.state.trace <+: (p.course w g).1 := by
  have hprefix := Frame.trace_resume m.world m.signal m.frames m.state
  rwa [show Frame.resume m.world m.signal m.frames m.state = m.finish from rfl, h.finish,
    Machine.finish_start] at hprefix

/-- A machine that was started with a program and has come to its end has emitted all events of the
program, and shows its outcome. -/
theorem Machine.Leads.course_of_ended {p : Program} {w : World κ} {got : List (Event κ)}
    {m : Machine κ} (h : (Machine.start w p).Leads got m) (g : Goal κ)
    (hend : m.finish = (.ok m.signal, m.state)) :
    p.course w g = (m.state.trace, .ok (m.outcome g)) := by
  have hexec : Block.execFrom w [] 0 p (State.initial w) = (.ok m.signal, m.state) := by
    rw [← Machine.finish_start, ← h.finish, hend]
  have hstopped : decide (m.signal = .broke) = m.stoppedEarly := by
    rw [Machine.signal]
    cases m.stoppedEarly <;> rfl
  unfold Program.course Machine.outcome
  rw [hexec, h.world]
  simp only [Except.map, hstopped]
  rfl

/-- A machine that was started with a program and cannot go on has emitted all events of the
program, which breaks off with the same fault. -/
theorem Machine.Leads.course_of_failed {p : Program} {w : World κ} {got : List (Event κ)}
    {m : Machine κ} (h : (Machine.start w p).Leads got m) (g : Goal κ) {f : RunFault}
    (hend : m.finish = (.error f, m.state)) : p.course w g = (m.state.trace, .error f) := by
  have hexec : Block.execFrom w [] 0 p (State.initial w) = (.error f, m.state) := by
    rw [← Machine.finish_start, ← h.finish, hend]
  unfold Program.course
  rw [hexec]
  rfl

end GridRobot
