import GridRobot.Proofs.Execution.Resume
import GridRobot.Run
import Mathlib.Logic.Relation

/-!
# How a run goes on

A run tracks a program as long as its machine is on the way to where the program ends and its phase
tells the truth about how far it is. Starting, pulling events and cancelling keep a run on its
track.

* `Run.Tracks.step`: pulling gives the next event, or ends the run, or tells that the program breaks
  off;
* `Run.Tracks.stepsFrom`: a batch of events is cut short by nothing else;
* `Run.Tracks.drain`: nothing is left after all events have been pulled.

A run whose program runs to its end never breaks off (`Run.Tracks.steps`, `Run.Tracks.runToEnd`).
-/

namespace GridRobot

/-- The moves from one phase to another. -/
inductive Phase.Step : Phase → Phase → Prop where
  | start : Step .idle .running
  | finish : Step .running .finished
  | cancel : Step .running .cancelled
  | withdraw : Step .idle .cancelled

variable {κ : Type} [Coordinate κ]

namespace Run

/-- The run is at some point of a program, which has the given events in all and ends with an
outcome or breaks off. -/
structure Tracks (p : Program) (w : World κ) (g : Goal κ) (es : List (Event κ))
    (ending : Except RunFault (Outcome κ)) (r : Run κ) : Prop where
  goal : r.goal = g
  leads : (Machine.start w p).Leads r.trace r.machine
  active : r.isActive → r.finishedAt = none ∧ r.cancelRequested = false ∧ r.cancelGranted = false
  broken : r.brokenOff → r.trace = es ∧ ending.isOk = false
  finished : r.phase = .finished →
    r.finishedAt.isSome ∧ r.trace = es ∧ r.result = ending.toOption ∧
      r.cancelGranted = (g.cancelsRun && ending.isOk) ∧ r.brokenOff = !ending.isOk
  cancelled : r.phase = .cancelled → r.finishedAt.isSome ∧ r.cancelGranted

/-- A run has handed out some events and become another one. Only a run that is not over
changes. -/
structure Becomes (r : Run κ) (got : List (Event κ)) (r' : Run κ) : Prop where
  id : r'.id = r.id
  trace : r'.trace = r.trace ++ got
  moves : Relation.ReflTransGen Phase.Step r.phase r'.phase
  settled : r.isActive = false → r' = r

/-- A run from which events were pulled: every event used up some work, and nothing was
cancelled. -/
structure Yields (r : Run κ) (got : List (Event κ)) (r' : Run κ) : Prop
    extends r.Becomes got r' where
  work : r'.machine.work + got.length ≤ r.machine.work
  cancelled : r'.phase = .cancelled → r.phase = .cancelled

/-- The host of an active run is told that the program breaks off, and why: this happens at most
once. -/
structure BreaksWith (ending : Except RunFault (Outcome κ)) (f : RunFault) (r r' : Run κ) :
    Prop where
  ending_eq : ending = .error f
  active : r.isActive
  unbroken : r.brokenOff = false
  phase : r'.phase = .running
  broken : r'.brokenOff

section

variable {r₁ r₂ r₃ : Run κ} {es fs : List (Event κ)}

omit [Coordinate κ]

theorem Becomes.refl (r : Run κ) : r.Becomes [] r where
  id := rfl
  trace := (List.append_nil _).symm
  moves := .refl
  settled := fun _ => rfl

/-- What becomes of a run step by step becomes of it in the end. -/
theorem Becomes.trans (h : r₁.Becomes es r₂) (h' : r₂.Becomes fs r₃) :
    r₁.Becomes (es ++ fs) r₃ where
  id := h'.id.trans h.id
  trace := by rw [h'.trace, h.trace, List.append_assoc]
  moves := h.moves.trans h'.moves
  settled := by
    intro hover
    have hsame := h.settled hover
    subst hsame
    exact h'.settled hover

theorem Yields.refl (r : Run κ) : r.Yields [] r where
  toBecomes := .refl r
  work := Nat.le_refl _
  cancelled := fun h => h

/-- Events that are yielded step by step are yielded in the end. -/
theorem Yields.trans (h : r₁.Yields es r₂) (h' : r₂.Yields fs r₃) : r₁.Yields (es ++ fs) r₃ where
  toBecomes := h.toBecomes.trans h'.toBecomes
  work := by
    have hfirst := h.work
    have hlast := h'.work
    rw [List.length_append]
    omega
  cancelled := fun hc => h.cancelled (h'.cancelled hc)

end

omit [Coordinate κ] in
theorem isActive_iff {r : Run κ} : r.isActive ↔ r.phase = .idle ∨ r.phase = .running := by
  unfold isActive
  cases r.phase <;> decide

omit [Coordinate κ] in
/-- A run is over if it is finished or cancelled. -/
theorem isActive_eq_false_iff {r : Run κ} :
    r.isActive = false ↔ r.phase = .finished ∨ r.phase = .cancelled := by
  unfold isActive
  cases r.phase <;> decide

/-! ## Starting and cancelling -/

omit [Coordinate κ] in
theorem start_of_idle {r : Run κ} (h : r.phase = .idle) :
    r.start = .ok { r with phase := .running } := by
  rw [start, if_pos h]

omit [Coordinate κ] in
/-- A run that is not idle cannot be started. -/
theorem start_of_ne_idle {r : Run κ} (h : r.phase ≠ .idle) :
    r.start = .error (.alreadyStarted r.id r.phase) := by
  rw [start, if_neg h]

omit [Coordinate κ] in
theorem becomes_running {r : Run κ} (h : r.phase = .idle) :
    r.Becomes [] { r with phase := .running } where
  id := rfl
  trace := (List.append_nil _).symm
  moves := by
    rw [h]
    exact .single .start
  settled := fun hover => absurd hover (by simp [isActive_iff.2 (.inl h)])

omit [Coordinate κ] in
/-- Cancelling says whether the run was active, and an active run is cancelled then. -/
theorem cancel_spec (now : Number) (r : Run κ) :
    (r.cancel now).1 = r.isActive ∧ r.Becomes [] (r.cancel now).2 ∧
      (r.isActive → (r.cancel now).2.phase = .cancelled) := by
  unfold cancel
  split
  · next hactive =>
    refine ⟨hactive.symm, ?_, fun _ => rfl⟩
    exact {
      id := rfl
      trace := (List.append_nil _).symm
      moves := by
        rcases isActive_iff.1 hactive with hidle | hrunning
        · rw [hidle]
          exact .single .withdraw
        · rw [hrunning]
          exact .single .cancel
      settled := fun hover => absurd hover (by simp [hactive]) }
  · next hover =>
    exact ⟨(Bool.eq_false_iff.2 hover).symm, .refl r, fun hactive => absurd hactive hover⟩

/-! ## New runs -/

omit [Coordinate κ] in
/-- What is launched is the new run of a valid program. -/
theorem launch_eq_ok {id : Value} {now : Number} {p : Program} {w : World κ} {g : Goal κ}
    {r : Run κ} (h : launch id now p w g = .ok r) :
    r = new id now p w g ∧ (p.check {}).valid := by
  unfold launch at h
  split at h
  · cases h
  · next hfault =>
    cases h
    refine ⟨rfl, ?_⟩
    unfold launchFault? at hfault
    split at hfault
    · cases hfault
    · split at hfault
      · next hissues => rw [Report.valid, hissues, List.isEmpty_nil]
      · cases hfault

/-- A new run begins on the track of its program. -/
theorem tracks_new (id : Value) (now : Number) (p : Program) (w : World κ) (g : Goal κ)
    (es : List (Event κ)) (ending : Except RunFault (Outcome κ)) :
    (new id now p w g).Tracks p w g es ending where
  goal := rfl
  leads := (Machine.good_start w p).leads_refl
  active := fun _ => ⟨rfl, rfl, rfl⟩
  broken := fun h => nomatch h
  finished := fun h => nomatch h
  cancelled := fun h => nomatch h

namespace Tracks

variable {p : Program} {w : World κ} {g : Goal κ} {es : List (Event κ)}
  {ending : Except RunFault (Outcome κ)} {o : Outcome κ} {r : Run κ}

/-- The trace is the beginning of all events. -/
theorem trace_prefix (h : r.Tracks p w g es ending) (hcourse : p.course w g = (es, ending)) :
    r.trace <+: es := by
  have hprefix := h.leads.trace_prefix g
  rwa [hcourse] at hprefix

theorem eventCount_eq (h : r.Tracks p w g es ending) : r.eventCount = r.trace.length :=
  h.leads.good.counted

/-- A finished run has the outcome of its program, if there is one, and no other run has any. -/
theorem outcome_eq (h : r.Tracks p w g es ending) :
    r.outcome = if r.phase = .finished then ending.toOption else none := by
  unfold outcome
  split
  · next hfin => exact (h.finished hfin).2.2.1
  · rfl

/-- The end of a run is stamped, and nothing else is. -/
theorem finishedAt_isSome (h : r.Tracks p w g es ending) :
    r.finishedAt.isSome = r.phase.isTerminal := by
  cases hphase : r.phase with
  | idle => rw [(h.active (isActive_iff.2 (.inl hphase))).1]; rfl
  | running => rw [(h.active (isActive_iff.2 (.inr hphase))).1]; rfl
  | finished => exact (h.finished hphase).1
  | cancelled => exact (h.cancelled hphase).1

/-! ## Keeping on the track -/

/-- Starting an active run keeps it on track. -/
theorem running (h : r.Tracks p w g es ending) (hactive : r.isActive) :
    { r with phase := .running }.Tracks p w g es ending where
  goal := h.goal
  leads := h.leads
  active := fun _ => h.active hactive
  broken := h.broken
  finished := fun hphase => nomatch hphase
  cancelled := fun hphase => nomatch hphase

/-- Cancelling a run keeps it on track. -/
theorem cancel (h : r.Tracks p w g es ending) (now : Number) :
    (r.cancel now).2.Tracks p w g es ending := by
  unfold Run.cancel
  split
  · exact {
      goal := h.goal
      leads := h.leads
      active := fun hactive => nomatch hactive
      broken := h.broken
      finished := fun hphase => nomatch hphase
      cancelled := fun _ => ⟨rfl, rfl⟩ }
  · exact h

/-- A run that becomes finished stays on its track if it holds what the program came to. -/
theorem finish {r' : Run κ} (h : r.Tracks p w g es ending) (hgoal : r'.goal = r.goal)
    (hmachine : r'.machine = r.machine) (hsame : r'.brokenOff = r.brokenOff)
    (hphase : r'.phase = .finished) (hstamped : r'.finishedAt.isSome) (htrace : r.trace = es)
    (hresult : r'.result = ending.toOption)
    (hgranted : r'.cancelGranted = (g.cancelsRun && ending.isOk))
    (hbroken : r.brokenOff = !ending.isOk) : r'.Tracks p w g es ending := by
  have hkept : r'.trace = r.trace := by rw [trace, trace, hmachine]
  exact {
    goal := hgoal.trans h.goal
    leads := by
      rw [hkept, hmachine]
      exact h.leads
    active := by
      intro hactive
      rw [Run.isActive, hphase] at hactive
      cases hactive
    broken := by
      rw [hkept, hsame]
      exact h.broken
    finished := fun _ => ⟨hstamped, hkept.trans htrace, hresult, hgranted, hsame.trans hbroken⟩
    cancelled := fun hcancelled => nomatch hphase.symm.trans hcancelled }

/-! ## Pulling events -/

/-- A run whose program has come to its end becomes finished, and stays on its track. -/
theorem conclude (hcourse : p.course w g = (es, ending)) (h : r.Tracks p w g es ending)
    (hrunning : r.phase = .running)
    (hend : r.machine.finish = (.ok r.machine.signal, r.machine.state)) (now : Number) :
    (r.conclude now).Tracks p w g es ending ∧ (r.conclude now).phase = .finished ∧
      (r.conclude now).id = r.id ∧ (r.conclude now).machine = r.machine ∧
      (r.conclude now).brokenOff = r.brokenOff := by
  -- the machine has come to the end of the course, so that is how the program ends
  obtain ⟨htrace, hending⟩ : r.trace = es ∧ .ok (r.machine.outcome g) = ending := by
    have hboth := (h.leads.course_of_ended g hend).symm.trans hcourse
    injection hboth with htrace hending
    exact ⟨htrace, hending⟩
  have hactive : r.isActive := isActive_iff.2 (.inr hrunning)
  have hunbroken : r.brokenOff = !ending.isOk := by
    rw [← hending]
    cases hbroken : r.brokenOff with
    | false => rfl
    | true =>
      have hok := (h.broken hbroken).2
      rw [← hending] at hok
      cases hok
  have hresult : some (r.machine.outcome r.goal) = ending.toOption := by
    rw [h.goal, ← hending]
    rfl
  have hall : ending.isOk = true := by rw [← hending]; rfl
  unfold Run.conclude
  cases hcancels : g.cancelsRun with
  | false =>
    have hgranted : r.cancelGranted = (g.cancelsRun && ending.isOk) := by
      rw [(h.active hactive).2.2, hcancels]
      rfl
    rw [if_neg (by rw [h.goal, hcancels]; exact Bool.false_ne_true)]
    refine ⟨?_, rfl, rfl, rfl, rfl⟩
    exact h.finish rfl rfl rfl rfl rfl htrace hresult hgranted hunbroken
  | true =>
    -- the goal is told that the run is cancelled, and yet the run becomes finished
    have hgranted : true = (g.cancelsRun && ending.isOk) := by rw [hcancels, hall]; rfl
    rw [if_pos (by rw [h.goal, hcancels]), Run.cancel, if_pos hactive]
    refine ⟨?_, rfl, rfl, rfl, rfl⟩
    exact h.finish rfl rfl rfl rfl rfl htrace hresult hgranted hunbroken

/-- A running run whose program has broken off becomes finished, without an outcome. -/
theorem abandon (h : r.Tracks p w g es ending) (hrunning : r.phase = .running)
    (hbroken : r.brokenOff) (now : Number) : (r.abandon now).Tracks p w g es ending := by
  obtain ⟨htrace, hending⟩ := h.broken hbroken
  have hresult : none = ending.toOption := by
    cases ending with
    | error f => rfl
    | ok o => cases hending
  have hgranted : r.cancelGranted = (g.cancelsRun && ending.isOk) := by
    rw [hending, Bool.and_false]
    exact (h.active (isActive_iff.2 (.inr hrunning))).2.2
  have htold : r.brokenOff = !ending.isOk := by
    rw [hending]
    exact hbroken
  exact h.finish rfl rfl rfl rfl rfl htrace hresult hgranted htold

/-- The machine of a running run may go on. -/
theorem advance (h : r.Tracks p w g es ending) (hrunning : r.phase = .running)
    (hunbroken : r.brokenOff = false) {m : Machine κ} {got : List (Event κ)}
    (hm : r.machine.Leads got m) : { r with machine := m }.Tracks p w g es ending where
  goal := h.goal
  leads := by
    have htrace : m.state.trace = r.trace ++ got := hm.trace
    have hleads := h.leads.trans hm
    rwa [← htrace] at hleads
  active := fun _ => h.active (isActive_iff.2 (.inr hrunning))
  broken := fun hbroken => absurd (hunbroken.symm.trans hbroken) Bool.false_ne_true
  finished := fun hphase => nomatch hrunning.symm.trans hphase
  cancelled := fun hphase => nomatch hrunning.symm.trans hphase

section

variable {now : Number}

/-- What is pulled from a run that has broken off. -/
theorem pull_of_brokenOff (h : r.brokenOff) : r.pull now = (.ok none, r.abandon now) := by
  rw [Run.pull, if_pos h]

variable {m : Machine κ} (h : r.brokenOff = false)

include h

theorem pull_of_event {e : Event κ}
    (hpull : r.machine.pull (fun _ => r.cancelRequested) = (.event e, m)) :
    r.pull now = (.ok (some e), { r with machine := m }) := by
  rw [Run.pull, if_neg (by simp [h]), hpull]

/-- When the program has ended, the run is concluded. -/
theorem pull_of_ended (hpull : r.machine.pull (fun _ => r.cancelRequested) = (.ended, m)) :
    r.pull now = (.ok none, { r with machine := m }.conclude now) := by
  rw [Run.pull, if_neg (by simp [h]), hpull]

/-- When the program breaks off, so does the pull, and the run remembers it. -/
theorem pull_of_failed {f : RunFault}
    (hpull : r.machine.pull (fun _ => r.cancelRequested) = (.failed f, m)) (hne : f ≠ .cancelled) :
    r.pull now = (.error f, { r with machine := m, brokenOff := true }) := by
  rw [Run.pull, if_neg (by simp [h]), hpull]
  cases f with
  | cancelled => exact absurd rfl hne
  | _ => rfl

end

/-- What pulling gives: the next event, and the run stays active; or none, and the run is over; or
the fault with which the program breaks off. -/
def Gives (p : Program) (w : World κ) (g : Goal κ) (es : List (Event κ))
    (ending : Except RunFault (Outcome κ)) (r : Run κ)
    (answer : Except RunFault (Option (Event κ)) × Run κ) : Prop :=
  (∃ e r', answer = (.ok e, r') ∧ r'.Tracks p w g es ending ∧ r.Yields e.toList r' ∧
      r'.isActive = e.isSome ∧ r'.brokenOff = r.brokenOff) ∨
    ∃ f r', answer = (.error f, r') ∧ r'.Tracks p w g es ending ∧ r.Yields [] r' ∧
      BreaksWith ending f r r'

/-- A running run gives its next event, or it is over, or its program breaks off. -/
theorem pull (hcourse : p.course w g = (es, ending)) (h : r.Tracks p w g es ending)
    (hrunning : r.phase = .running) (now : Number) : Gives p w g es ending r (r.pull now) := by
  have hactive : r.isActive := isActive_iff.2 (.inr hrunning)
  have hnotOver : r.isActive ≠ false := by simp [hactive]
  by_cases hbroken : r.brokenOff
  · -- nothing is left of the program
    rw [pull_of_brokenOff hbroken]
    refine Or.inl ⟨none, _, rfl, h.abandon hrunning hbroken now, ?_, rfl, rfl⟩
    exact {
      id := rfl
      trace := (List.append_nil _).symm
      work := Nat.le_refl _
      moves := by
        rw [hrunning]
        exact .single .finish
      settled := fun hover => absurd hover hnotOver
      cancelled := fun hc => nomatch hc }
  have hunbroken : r.brokenOff = false := Bool.eq_false_iff.2 hbroken
  -- nobody has asked for a cancel as long as the run is active, so the machine is not stopped by
  -- one
  have hasks : (fun _ : Nat => r.cancelRequested) = fun _ => false := by
    rw [(h.active hactive).2.1]
  have hcases := h.leads.good.pull_cases
  rw [← hasks] at hcases
  rcases hcases with
    ⟨e, m, hpull, hm⟩ | ⟨m, hpull, hm, hend⟩ | ⟨f, m, hpull, hne, hm, hend⟩
  · -- the machine gives an event
    rw [pull_of_event hunbroken hpull]
    refine Or.inl ⟨some e, _, rfl, h.advance hrunning hunbroken hm, ?_, hactive, rfl⟩
    exact {
      id := rfl
      trace := hm.trace
      work := hm.work
      moves := .refl
      settled := fun hover => absurd hover hnotOver
      cancelled := fun hc => hc }
  · -- the program has ended, and the goal is judged
    obtain ⟨htracks, hphase, hid, hmachine, hstill⟩ :=
      conclude hcourse (h.advance hrunning hunbroken hm) hrunning hend now
    rw [pull_of_ended hunbroken hpull]
    refine Or.inl ⟨none, _, rfl, htracks, ?_, isActive_eq_false_iff.2 (.inl hphase), hstill⟩
    exact {
      id := hid
      trace := by
        rw [trace, hmachine]
        exact hm.trace
      work := by
        rw [hmachine]
        exact hm.work
      moves := by
        rw [hphase, hrunning]
        exact .single .finish
      settled := fun hover => absurd hover hnotOver
      cancelled := fun hc => nomatch hphase.symm.trans hc }
  · -- the machine has emitted everything that it will ever emit
    have htracks := h.advance hrunning hunbroken hm
    obtain ⟨htrace, hending⟩ : m.state.trace = es ∧ .error f = ending := by
      have hboth := (htracks.leads.course_of_failed g hend).symm.trans hcourse
      injection hboth with htrace hending
      exact ⟨htrace, hending⟩
    rw [pull_of_failed hunbroken hpull hne]
    refine Or.inr ⟨f, _, rfl, ?_, ?_, hending.symm, hactive, hunbroken, hrunning, rfl⟩
    · exact {
        goal := htracks.goal
        leads := htracks.leads
        active := htracks.active
        broken := fun _ => ⟨htrace, by rw [← hending]; rfl⟩
        finished := fun hphase => nomatch hrunning.symm.trans hphase
        cancelled := fun hphase => nomatch hrunning.symm.trans hphase }
    · exact {
        id := rfl
        trace := hm.trace
        work := hm.work
        moves := .refl
        settled := fun hover => absurd hover hnotOver
        cancelled := fun hc => hc }

/-- Pulling starts an idle run, and gives nothing if the run is over. -/
theorem step (hcourse : p.course w g = (es, ending)) (h : r.Tracks p w g es ending)
    (now : Number) : Gives p w g es ending r (r.step now) := by
  have hover (hphase : r.phase = .finished ∨ r.phase = .cancelled) :
      r.isActive = (none : Option (Event κ)).isSome := isActive_eq_false_iff.2 hphase
  unfold Run.step
  split
  · next hidle =>
    -- an idle run is started first, which is one move of the phase more
    have hactive : r.isActive := isActive_iff.2 (.inl hidle)
    have hyields {got : List (Event κ)} {r' : Run κ}
        (hy : { r with phase := .running }.Yields got r') : r.Yields got r' := {
      id := hy.id
      trace := hy.trace
      moves := by
        rw [hidle]
        exact .head .start hy.moves
      settled := fun hover => absurd hover (by simp [hactive])
      work := hy.work
      cancelled := fun hc => nomatch hy.cancelled hc }
    rcases pull hcourse (h.running hactive) rfl now with
      ⟨e, r', hpull, htracks, hy, hstill, hbroken⟩ | ⟨f, r', hpull, htracks, hy, hbreaks⟩
    · exact Or.inl ⟨e, r', hpull, htracks, hyields hy, hstill, hbroken⟩
    · exact Or.inr ⟨f, r', hpull, htracks, hyields hy, hbreaks.ending_eq, hactive,
        hbreaks.unbroken, hbreaks.phase, hbreaks.broken⟩
  · next hrunning => exact pull hcourse h hrunning now
  · next hfin => exact Or.inl ⟨none, r, rfl, h, Yields.refl r, hover (.inl hfin), rfl⟩
  · next hcan => exact Or.inl ⟨none, r, rfl, h, Yields.refl r, hover (.inr hcan), rfl⟩

/-- A batch has as many events as were asked for and leaves the run active, or it has fewer and the
run is over, unless the program breaks off. -/
theorem stepsFrom (hcourse : p.course w g = (es, ending)) (h : r.Tracks p w g es ending)
    (now : Number) (pulled : List (Event κ)) (n : Nat) :
    ∃ got fault r', r.stepsFrom now pulled n = ((got.reverse ++ pulled, fault), r') ∧
      r'.Tracks p w g es ending ∧ r.Yields got r' ∧ got.length ≤ n ∧
      (fault = none →
        (r'.isActive ↔ r.isActive ∧ got.length = n) ∧ r'.brokenOff = r.brokenOff) ∧
      ∀ f ∈ fault, BreaksWith ending f r r' := by
  induction n generalizing r pulled with
  | zero => exact ⟨[], none, r, rfl, h, Yields.refl r, Nat.le_refl _, by simp, nofun⟩
  | succ n ih =>
    rw [Run.stepsFrom]
    rcases h.step hcourse now with
      ⟨e, r₁, hstep, htracks, hyields, hstill, hsame⟩ | ⟨f, r₁, hstep, htracks, hyields, hbreaks⟩
    · rw [hstep]
      cases e with
      | none =>
        -- there are no more events, or the run was over before
        refine ⟨[], none, r₁, rfl, htracks, hyields, Nat.zero_le _, fun _ => ⟨?_, hsame⟩, nofun⟩
        simp [hstill]
      | some e =>
        -- a run that gave an event was active
        have hactive : r.isActive := by
          cases hr : r.isActive with
          | true => rfl
          | false =>
            rw [hyields.settled hr, hr] at hstill
            cases hstill
        obtain ⟨got, fault, r', hsteps, htracks', hyields', hlen, hnone, hsome⟩ :=
          ih htracks (e :: pulled)
        refine ⟨e :: got, fault, r', ?_, htracks', hyields.trans hyields', Nat.succ_le_succ hlen,
          ?_, ?_⟩
        · rw [List.reverse_cons, List.append_assoc]
          exact hsteps
        · intro hfault
          obtain ⟨hiff, hsame'⟩ := hnone hfault
          refine ⟨?_, hsame'.trans hsame⟩
          rw [hiff, hstill, hactive]
          simp
        · intro f hf
          have hb := hsome f hf
          exact ⟨hb.ending_eq, hactive, hsame ▸ hb.unbroken, hb.phase, hb.broken⟩
    · rw [hstep]
      refine ⟨[], some f, r₁, rfl, htracks, hyields, Nat.zero_le _, nofun, ?_⟩
      intro f' hf'
      cases hf'
      exact hbreaks

/-- When all events have been pulled, the run is over, unless its program has broken off. -/
theorem stepsFrom_all (hcourse : p.course w g = (es, ending)) (h : r.Tracks p w g es ending)
    (now : Number) :
    ∃ got fault r', r.stepsFrom now [] (r.machine.work + 1) = ((got.reverse, fault), r') ∧
      r'.Tracks p w g es ending ∧ r.Yields got r' ∧
      (fault = none → r'.isActive = false ∧ r'.brokenOff = r.brokenOff) ∧
      ∀ f ∈ fault, BreaksWith ending f r r' := by
  obtain ⟨got, fault, r', hsteps, htracks, hyields, -, hnone, hsome⟩ :=
    h.stepsFrom hcourse now [] (r.machine.work + 1)
  rw [List.append_nil] at hsteps
  refine ⟨got, fault, r', hsteps, htracks, hyields, ?_, hsome⟩
  intro hfault
  obtain ⟨hiff, hsame⟩ := hnone hfault
  refine ⟨?_, hsame⟩
  -- more events than there was work cannot have come out
  have hwork := hyields.work
  cases hactive : r'.isActive with
  | false => rfl
  | true =>
    have hlen := (hiff.1 hactive).2
    omega

/-! ## Programs that run to their end -/

/-- A batch has as many events as were asked for and leaves the run active, or it has fewer and the
run is over. -/
theorem steps (hrun : p.run w g = .ok (es, o)) (h : r.Tracks p w g es (.ok o)) (now : Number)
    (n : Nat) :
    ∃ got r', r.steps now n = (.ok got, r') ∧ r'.Tracks p w g es (.ok o) ∧ r.Yields got r' ∧
      got.length ≤ n ∧ (r'.isActive ↔ r.isActive ∧ got.length = n) := by
  obtain ⟨got, fault, r', hsteps, htracks, hyields, hlen, hnone, hsome⟩ :=
    h.stepsFrom (Program.run_eq_ok_iff_course.1 hrun) now [] n
  cases fault with
  | some f => cases (hsome f rfl).ending_eq
  | none =>
    refine ⟨got, r', ?_, htracks, hyields, hlen, (hnone rfl).1⟩
    rw [Run.steps, hsteps]
    simp

/-- When all events have been pulled, the run is over. -/
theorem drain (hrun : p.run w g = .ok (es, o)) (h : r.Tracks p w g es (.ok o)) (now : Number) :
    ∃ got r', r.drain now = (.ok got, r') ∧ r'.Tracks p w g es (.ok o) ∧ r.Yields got r' ∧
      r'.isActive = false := by
  obtain ⟨got, fault, r', hsteps, htracks, hyields, hnone, hsome⟩ :=
    h.stepsFrom_all (Program.run_eq_ok_iff_course.1 hrun) now
  cases fault with
  | some f => cases (hsome f rfl).ending_eq
  | none =>
    refine ⟨got, r', ?_, htracks, hyields, (hnone rfl).1⟩
    rw [Run.drain, Run.steps, hsteps]
    simp

/-- To run to the end is to pull all events. -/
theorem runToEnd (hrun : p.run w g = .ok (es, o)) (h : r.Tracks p w g es (.ok o)) (now : Number) :
    ∃ got r', r.drain now = (.ok got, r') ∧ r.runToEnd now = (.ok r'.outcome, r') ∧
      r'.Tracks p w g es (.ok o) ∧ r.Yields got r' ∧ r'.isActive = false := by
  obtain ⟨got, r', hdrain, hrest⟩ := h.drain hrun now
  refine ⟨got, r', hdrain, ?_, hrest⟩
  rw [Run.runToEnd, hdrain]
  rfl

end Tracks

end Run

end GridRobot
