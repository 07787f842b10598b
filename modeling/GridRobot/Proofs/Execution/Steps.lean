import GridRobot.Execution
import GridRobot.Proofs.Program.Tree

/-!
# What a run is made of

Whatever the nesting of a program, its run is a sequence of atomic actions, each of a leaf of the
tree. So what every action keeps, every run keeps.

* `Block.execFrom_preserves`: a property of states that the actions of the tree keep holds at the
  end of the run if it held at its beginning;
* `Program.run_preserves`, `Program.course_preserves`: the same for a whole program, whether it runs
  to its end or breaks off.
-/

namespace GridRobot

/-- The block that does an action. -/
def Action.block : Action → Block
  | .move d => .move (.known d)
  | .collect => .collect
  | .wait => .wait
  | .breakOut => .breakOut

/-- The block whose action has the deed. -/
def Deed.block {κ : Type} : Deed κ → Block
  | .moved d _ | .blocked d _ => .move (.known d)
  | .collected _ => .collect
  | .waited => .wait
  | .broke => .breakOut

/-! ## Traces -/

/-- An event that is emitted is the last one of the trace. -/
theorem State.trace_emit {κ : Type} (s : State κ) (path : Path) (deed : Deed κ) :
    (s.emit path deed).trace =
      s.trace ++ [⟨s.steps, deed, s.position, s.pouch.marks, path⟩] := by
  simp [trace, emit]

theorem State.trace_note {κ : Type} (s : State κ) : s.note.trace = s.trace := by
  simp [trace, note]

/-! ## Repetition -/

/-- What a body keeps, its repetition keeps. -/
theorem repeatBody_preserves {κ : Type} {P : State κ → Prop} {body : State κ → Result κ}
    (hbody : ∀ s, P s → P (body s).2) (n : Nat) {s : State κ} (h : P s) :
    P (repeatBody body n s).2 := by
  induction n generalizing s with
  | zero => exact h
  | succ n ih =>
    have hs := hbody s h
    rw [repeatBody]
    split
    · next heq =>
      rw [heq] at hs
      exact ih hs
    · next heq =>
      rw [heq] at hs
      exact hs
    · next heq =>
      rw [heq] at hs
      exact hs

variable {κ : Type} [Coordinate κ]

namespace Block

/-! ## Blocks -/

/-- The actions of the leaves in some nodes keep a property. -/
def ActionsKeep (w : World κ) (P : State κ → Prop) (nodes : List (Path × Block)) : Prop :=
  ∀ path a, (path, Action.block a) ∈ nodes → ∀ s, P s → P (a.perform w path s)

/-- Siblings keep what each of them keeps. -/
theorem execFrom_preserves_of {w : World κ} {P : State κ → Prop} {bs : List Block}
    (hbs : ∀ b ∈ bs, ∀ path, ActionsKeep w P (b.walk path) → ∀ s, P s → P (b.exec w path s).2)
    {path : Path} {index : Nat} (hkeep : ActionsKeep w P (walkFrom path index bs)) {s : State κ}
    (h : P s) : P (execFrom w path index bs s).2 := by
  induction bs generalizing index s with
  | nil => simpa [execFrom] using h
  | cons b bs ih =>
    have hfirst : ActionsKeep w P (b.walk (path ++ [index])) := fun q a hq =>
      hkeep q a (by rw [walkFrom]; exact List.mem_append_left _ hq)
    have hrest : ActionsKeep w P (walkFrom path (index + 1) bs) := fun q a hq =>
      hkeep q a (by rw [walkFrom]; exact List.mem_append_right _ hq)
    have hs := hbs b List.mem_cons_self (path ++ [index]) hfirst s h
    rw [execFrom]
    split
    · next heq =>
      rw [heq] at hs
      exact ih (fun c hc => hbs c (List.mem_cons_of_mem _ hc)) hrest hs
    · next heq =>
      rw [heq] at hs
      exact hs
    · next heq =>
      rw [heq] at hs
      exact hs

/-- What the actions of a block's leaves keep, the block keeps. -/
theorem exec_preserves {w : World κ} {P : State κ → Prop} (b : Block) {path : Path}
    (hkeep : ActionsKeep w P (b.walk path)) {s : State κ} (h : P s) : P (b.exec w path s).2 := by
  induction b using children_induction generalizing path s with
  | node b ih =>
    have hself (a : Action) (hb : b = a.block) : P (a.perform w path s) :=
      hkeep path a (hb ▸ mem_walk_self path b) s h
    -- leaves come down to their action, and the others to their body
    have hbody {s : State κ} (h : P s) : P (execFrom w path 0 b.children s).2 :=
      execFrom_preserves_of (fun c hc path hc' s hs => ih c hc hc' hs)
        (fun q a hq => hkeep q a (mem_walk_of_mem_walkFrom hq)) h
    cases b with
    | move direction =>
      cases direction with
      | known d => simpa [exec] using hself (.move d) rfl
      | other v => simpa [exec] using h
    | collect => simpa [exec] using hself .collect rfl
    | wait => simpa [exec] using hself .wait rfl
    | breakOut => simpa [exec] using hself .breakOut rfl
    | loop count body =>
      rw [exec]
      split
      · exact repeatBody_preserves (fun s hs => hbody hs) _ h
      · exact h
    | conditional condition body =>
      rw [exec]
      split
      · exact hbody h
      · exact h
      · exact h
    | function name body =>
      rw [exec]
      exact hbody h
    | foreign v => simpa [exec] using h
    | derived name b => simpa [exec] using h

/-- What the actions of the leaves of siblings keep, the siblings keep. -/
theorem execFrom_preserves {w : World κ} {P : State κ → Prop} {bs : List Block} {path : Path}
    {index : Nat} (hkeep : ActionsKeep w P (walkFrom path index bs)) {s : State κ} (h : P s) :
    P (execFrom w path index bs s).2 :=
  execFrom_preserves_of (fun b _ _ hb _ hs => exec_preserves b hb hs) hkeep h

end Block

/-! ## Programs -/

/-- How a run goes: its events, and its outcome or what it breaks off with. -/
def Program.course (p : Program) (w : World κ) (g : Goal κ) :
    List (Event κ) × Except RunFault (Outcome κ) :=
  let result := Block.execFrom w [] 0 p (State.initial w)
  (result.2.trace, result.1.map (fun signal => result.2.outcome w g (signal = .broke)))

/-- A run that ends shows the trace and the outcome of its last state. -/
theorem Program.run_eq_ok_iff {p : Program} {w : World κ} {g : Goal κ} {es : List (Event κ)}
    {o : Outcome κ} :
    p.run w g = .ok (es, o) ↔
      ∃ signal s, Block.execFrom w [] 0 p (State.initial w) = (.ok signal, s) ∧
        es = s.trace ∧ o = s.outcome w g (signal = .broke) := by
  unfold Program.run
  split
  · next signal s heq =>
    constructor
    · intro h
      cases h
      exact ⟨signal, s, heq, rfl, rfl⟩
    · rintro ⟨signal', s', heq', rfl, rfl⟩
      rw [heq] at heq'
      cases heq'
      rfl
  · next f s heq =>
    constructor
    · intro h
      cases h
    · rintro ⟨signal', s', heq', -, -⟩
      rw [heq] at heq'
      cases heq'

/-- A run ends with its events and its outcome exactly if this is how it goes. -/
theorem Program.run_eq_ok_iff_course {p : Program} {w : World κ} {g : Goal κ}
    {es : List (Event κ)} {o : Outcome κ} :
    p.run w g = .ok (es, o) ↔ p.course w g = (es, .ok o) := by
  unfold Program.run Program.course
  obtain ⟨f | signal, s⟩ := Block.execFrom w [] 0 p (State.initial w)
  · simp [Except.map]
  · simp [Except.map]

/-- A run breaks off exactly if this is how it goes. -/
theorem Program.run_eq_error_iff_course {p : Program} {w : World κ} {g : Goal κ} {f : RunFault} :
    p.run w g = .error f ↔ (p.course w g).2 = .error f := by
  unfold Program.run Program.course
  obtain ⟨f' | signal, s⟩ := Block.execFrom w [] 0 p (State.initial w)
  · simp [Except.map]
  · simp [Except.map]

/-- What holds at the beginning and is kept by every action holds when a run has ended. -/
theorem Program.run_preserves {p : Program} {w : World κ} {g : Goal κ} {es : List (Event κ)}
    {o : Outcome κ} {P : State κ → Prop} (hinit : P (State.initial w))
    (hstep : ∀ path a s, P s → P (Action.perform w path s a))
    (hrun : p.run w g = .ok (es, o)) :
    ∃ s stoppedEarly, P s ∧ es = s.trace ∧ o = s.outcome w g stoppedEarly := by
  obtain ⟨signal, s, heq, hes, ho⟩ := Program.run_eq_ok_iff.1 hrun
  have hlast : P (Block.execFrom w [] 0 p (State.initial w)).2 :=
    Block.execFrom_preserves (fun path a _ s hs => hstep path a s hs) hinit
  rw [heq] at hlast
  exact ⟨s, _, hlast, hes, ho⟩

/-- It also holds of the state at which a run breaks off. -/
theorem Program.course_preserves {p : Program} {w : World κ} (g : Goal κ) {P : State κ → Prop}
    (hinit : P (State.initial w)) (hstep : ∀ path a s, P s → P (Action.perform w path s a)) :
    ∃ s, P s ∧ (p.course w g).1 = s.trace :=
  ⟨_, Block.execFrom_preserves (fun path a _ s hs => hstep path a s hs) hinit, rfl⟩

end GridRobot
