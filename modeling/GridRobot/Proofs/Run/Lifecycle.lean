import GridRobot.Proofs.Run.Progress

/-!
# Driving a run

A host has several ways to draw events from a run: it can pull them one by one, ask once for a
stream and take events from there, or have the run go to its end. It can also start the run without
pulling, and cancel it. All of them share one machine, and the calls may come in any order, also
after the run is over.

* `Host.tracks_call`, `Host.tracks_after`: no call gets a run off its track;
* `Host.orderly_of_tracks`: what a host can rely on as long as its run is on the track;
* `Host.conforms_of_tracks`: what else, if the program runs to its end;
* `Host.breaksOff_of_tracks`: what it has to expect if the program breaks off.
-/

namespace GridRobot

/-- What became of the stream of a run: it was not asked for, it is open, or it has ended. -/
inductive StreamState where
  | absent
  | live
  | exhausted
deriving DecidableEq, Repr

/-- A run, and the stream that its host may hold. -/
structure Host (κ : Type := Int) where
  run : Run κ
  stream : StreamState := .absent

/-- The host of a run of which nothing has been asked yet. -/
def Host.ofRun {κ : Type} (r : Run κ) : Host κ := { run := r }

/-- What a host can call. -/
inductive Call where
  | start
  | step
  /-- Start the run and ask for its stream. -/
  | events
  /-- Take the next event from the stream. -/
  | next
  | runToEnd
  | cancel
deriving DecidableEq, Repr

/-- What a call gives. -/
inductive Answer (κ : Type := Int) where
  /-- The run has been started. -/
  | started
  /-- An event, or that there are no more. -/
  | event (e : Option (Event κ))
  /-- The events that were pulled on the way to the end, and the outcome. -/
  | drained (events : List (Event κ)) (outcome : Option (Outcome κ))
  /-- Was the run cancelled? -/
  | cancelled (granted : Bool)
  /-- The call does not fit the phase. -/
  | refused (f : PhaseFault)
  /-- The program cannot go on; some events may have been pulled before that showed. -/
  | broken (events : List (Event κ)) (f : RunFault)
  /-- There is no stream to take from. -/
  | noStream

variable {κ : Type}

/-- The events that a call handed out. -/
def Answer.events : Answer κ → List (Event κ)
  | .event e => e.toList
  | .drained es _ => es
  | .broken es _ => es
  | .started | .cancelled _ | .refused _ | .noStream => []

variable [Coordinate κ]

/-- The events that are pulled from a run on the way to its end. -/
def Run.pulledToEnd (now : Number) (r : Run κ) : List (Event κ) :=
  (r.stepsFrom now [] (r.machine.work + 1)).1.1.reverse

namespace Host

/-- Answer a call at a time. -/
def call (now : Number) (h : Host κ) : Call → Answer κ × Host κ
  | .start =>
    match h.run.start with
    | .ok r => (.started, { h with run := r })
    | .error f => (.refused f, h)
  | .events =>
    match h.run.start with
    | .ok r => (.started, ⟨r, .live⟩)
    | .error f => (.refused f, h)
  | .step =>
    match h.run.step now with
    | (.ok e, r) => (.event e, { h with run := r })
    | (.error f, r) => (.broken [] f, { h with run := r })
  | .next =>
    match h.stream with
    | .absent => (.noStream, h)
    | .exhausted => (.event none, h)
    | .live =>
      match h.run.step now with
      | (.ok (some e), r) => (.event (some e), { h with run := r })
      | (.ok none, r) => (.event none, ⟨r, .exhausted⟩)
      | (.error f, r) => (.broken [] f, ⟨r, .exhausted⟩)
  | .runToEnd =>
    match h.run.runToEnd now with
    | (.ok o, r) => (.drained (h.run.pulledToEnd now) o, { h with run := r })
    | (.error f, r) => (.broken (h.run.pulledToEnd now) f, { h with run := r })
  | .cancel => (.cancelled (h.run.cancel now).1, { h with run := (h.run.cancel now).2 })

/-- The host after some calls, each at its time. -/
def after (h : Host κ) : List (Number × Call) → Host κ
  | [] => h
  | (now, c) :: calls => (h.call now c).2.after calls

/-- The answers to some calls. -/
def answers (h : Host κ) : List (Number × Call) → List (Answer κ)
  | [] => []
  | (now, c) :: calls => (h.call now c).1 :: (h.call now c).2.answers calls

variable {p : Program} {w : World κ} {g : Goal κ} {es : List (Event κ)}
  {ending : Except RunFault (Outcome κ)} {o : Outcome κ} {h : Host κ}

/-! ## Calls -/

/-- Pulling gives an event or the end, unless the program breaks off. -/
theorem call_step (hcourse : p.course w g = (es, ending)) (ht : h.run.Tracks p w g es ending)
    (now : Number) :
    (∃ e r, h.call now .step = (.event e, { h with run := r }) ∧ r.Tracks p w g es ending ∧
        h.run.Yields e.toList r ∧ r.isActive = e.isSome ∧ r.brokenOff = h.run.brokenOff) ∨
      ∃ f r, h.call now .step = (.broken [] f, { h with run := r }) ∧ r.Tracks p w g es ending ∧
        h.run.Yields [] r ∧ Run.BreaksWith ending f h.run r := by
  rcases ht.step hcourse now with ⟨e, r, hstep, hrest⟩ | ⟨f, r, hstep, hrest⟩
  · exact Or.inl ⟨e, r, by rw [call, hstep], hrest⟩
  · exact Or.inr ⟨f, r, by rw [call, hstep], hrest⟩

/-- So does going to the end, and the run is over then. -/
theorem call_runToEnd (hcourse : p.course w g = (es, ending)) (ht : h.run.Tracks p w g es ending)
    (now : Number) :
    ∃ got r, r.Tracks p w g es ending ∧ h.run.Yields got r ∧
      ((h.call now .runToEnd = (.drained got r.outcome, { h with run := r }) ∧
          r.isActive = false ∧ r.brokenOff = h.run.brokenOff) ∨
        ∃ f, h.call now .runToEnd = (.broken got f, { h with run := r }) ∧
          Run.BreaksWith ending f h.run r) := by
  obtain ⟨got, fault, r, hsteps, htracks, hyields, hnone, hsome⟩ := ht.stepsFrom_all hcourse now
  have hpulled : h.run.pulledToEnd now = got := by
    rw [Run.pulledToEnd, hsteps, List.reverse_reverse]
  refine ⟨got, r, htracks, hyields, ?_⟩
  cases fault with
  | none =>
    have hend : h.run.runToEnd now = (.ok r.outcome, r) := by
      rw [Run.runToEnd, Run.drain, Run.steps, hsteps]
      rfl
    exact Or.inl ⟨by rw [call, hend, hpulled], hnone rfl⟩
  | some f =>
    have hend : h.run.runToEnd now = (.error f, r) := by
      rw [Run.runToEnd, Run.drain, Run.steps, hsteps]
      rfl
    exact Or.inr ⟨f, by rw [call, hend, hpulled], hsome f rfl⟩

/-- The stream gives what pulling gives, as long as it is open. -/
theorem call_next (hcourse : p.course w g = (es, ending)) (ht : h.run.Tracks p w g es ending)
    (now : Number) :
    (h.call now .next).2.run.Tracks p w g es ending ∧
      h.run.Becomes (h.call now .next).1.events (h.call now .next).2.run := by
  rw [call]
  split
  · exact ⟨ht, .refl _⟩
  · exact ⟨ht, .refl _⟩
  · rcases ht.step hcourse now with
      ⟨e, r, hstep, htracks, hyields, -⟩ | ⟨f, r, hstep, htracks, hyields, -⟩
    · rw [hstep]
      cases e with
      | none => exact ⟨htracks, hyields.toBecomes⟩
      | some e => exact ⟨htracks, hyields.toBecomes⟩
    · rw [hstep]
      exact ⟨htracks, hyields.toBecomes⟩

/-- Starting and asking for the stream are refused unless the run is idle, and then nothing has
changed. -/
theorem call_starting (now : Number) {c : Call} (hc : c = .start ∨ c = .events) :
    (h.run.phase = .idle → ∃ stream, h.call now c =
        (.started, ⟨{ h.run with phase := .running }, stream⟩)) ∧
      (h.run.phase ≠ .idle →
        h.call now c = (.refused (.alreadyStarted h.run.id h.run.phase), h)) := by
  constructor
  · intro hidle
    rcases hc with rfl | rfl
    · exact ⟨h.stream, by rw [call, Run.start_of_idle hidle]⟩
    · exact ⟨.live, by rw [call, Run.start_of_idle hidle]⟩
  · intro hne
    rcases hc with rfl | rfl
    · rw [call, Run.start_of_ne_idle hne]
    · rw [call, Run.start_of_ne_idle hne]

/-- No call gets a run off its track. -/
theorem tracks_call (hcourse : p.course w g = (es, ending)) (ht : h.run.Tracks p w g es ending)
    (now : Number) (c : Call) :
    (h.call now c).2.run.Tracks p w g es ending ∧
      h.run.Becomes (h.call now c).1.events (h.call now c).2.run := by
  -- starting and asking for the stream do the same to the run
  have hstarting (hc : c = .start ∨ c = .events) :
      (h.call now c).2.run.Tracks p w g es ending ∧
        h.run.Becomes (h.call now c).1.events (h.call now c).2.run := by
    by_cases hidle : h.run.phase = .idle
    · obtain ⟨stream, hcall⟩ := (call_starting now hc).1 hidle
      rw [hcall]
      exact ⟨ht.running (Run.isActive_iff.2 (.inl hidle)), Run.becomes_running hidle⟩
    · rw [(call_starting now hc).2 hidle]
      exact ⟨ht, .refl _⟩
  cases c with
  | start => exact hstarting (.inl rfl)
  | events => exact hstarting (.inr rfl)
  | step =>
    rcases call_step hcourse ht now with
      ⟨e, r, hcall, htracks, hyields, -⟩ | ⟨f, r, hcall, htracks, hyields, -⟩
    · rw [hcall]
      exact ⟨htracks, hyields.toBecomes⟩
    · rw [hcall]
      exact ⟨htracks, hyields.toBecomes⟩
  | next => exact call_next hcourse ht now
  | runToEnd =>
    obtain ⟨got, r, htracks, hyields, ⟨hcall, -⟩ | ⟨f, hcall, -⟩⟩ := call_runToEnd hcourse ht now
    · rw [hcall]
      exact ⟨htracks, hyields.toBecomes⟩
    · rw [hcall]
      exact ⟨htracks, hyields.toBecomes⟩
  | cancel => exact ⟨ht.cancel now, (h.run.cancel_spec now).2.1⟩

/-- Nor do any number of calls. -/
theorem tracks_after (hcourse : p.course w g = (es, ending)) (ht : h.run.Tracks p w g es ending)
    (calls : List (Number × Call)) :
    (h.after calls).run.Tracks p w g es ending ∧
      h.run.Becomes ((h.answers calls).flatMap Answer.events) (h.after calls).run := by
  induction calls generalizing h with
  | nil => exact ⟨ht, .refl _⟩
  | cons timed calls ih =>
    obtain ⟨now, c⟩ := timed
    obtain ⟨htracks, hbecomes⟩ := tracks_call hcourse ht now c
    obtain ⟨htracks', hbecomes'⟩ := ih htracks
    exact ⟨htracks', hbecomes.trans hbecomes'⟩

/-! ## The life of a run -/

/-- What a host may rely on at any time, however its program ends: `got` are the events that it has
been given so far, and the program has the events `es` in all. -/
structure Orderly (es got : List (Event κ)) (h : Host κ) : Prop where
  /-- Every event was handed out once and in order, whoever pulled it. -/
  trace_eq : h.run.trace = got
  trace_prefix : h.run.trace <+: es
  /-- From here on the phase only moves forward. -/
  moves : ∀ calls, Relation.ReflTransGen Phase.Step h.run.phase (h.after calls).run.phase
  /-- A run that is over does not change any more. -/
  final : h.run.phase.isTerminal → ∀ calls, (h.after calls).run = h.run
  complete : h.run.phase = .finished → h.run.trace = es
  stamped : h.run.finishedAt.isSome ↔ h.run.phase.isTerminal
  cancel_gives : ∀ now, (h.call now .cancel).1 = .cancelled (!h.run.phase.isTerminal)
  starts : ∀ now c, c = .start ∨ c = .events → h.run.phase = .idle →
    (h.call now c).1 = .started
  refuses : ∀ now c, c = .start ∨ c = .events → h.run.phase ≠ .idle →
    h.call now c = (.refused (.alreadyStarted h.run.id h.run.phase), h)

/-- What a host may rely on if its program runs to its end, with the outcome `o`: no call fails. -/
structure Conforms (es : List (Event κ)) (o : Outcome κ) (got : List (Event κ)) (h : Host κ) : Prop
    extends h.Orderly es got where
  outcome_eq : h.run.outcome = if h.run.phase = .finished then some o else none
  step_gives : ∀ now, ∃ e, (h.call now .step).1 = .event e
  runToEnd_gives : ∀ now, ∃ events,
    (h.call now .runToEnd).1 = .drained events (h.call now .runToEnd).2.run.outcome ∧
      (h.call now .runToEnd).2.run.phase.isTerminal

/-- What a host has to expect if its program breaks off with the fault `f`. Events are handed out up
to there. Then the next pull fails with this fault, which leaves the run running, and the one after
it finishes the run. There is never an outcome. -/
structure BreaksOff (es : List (Event κ)) (f : RunFault) (got : List (Event κ)) (h : Host κ) : Prop
    extends h.Orderly es got where
  no_outcome : h.run.outcome = none
  step_gives : h.run.isActive → h.run.brokenOff = false → h.run.trace ≠ es →
    ∀ now, ∃ e, (h.call now .step).1 = .event (some e)
  step_breaks : h.run.isActive → h.run.brokenOff = false → h.run.trace = es →
    ∀ now, (h.call now .step).1 = .broken [] f ∧ (h.call now .step).2.run.phase = .running ∧
      (h.call now .step).2.run.brokenOff
  step_ends : h.run.isActive = false ∨ h.run.brokenOff →
    ∀ now, (h.call now .step).1 = .event none ∧ (h.call now .step).2.run.phase.isTerminal
  runToEnd_breaks : h.run.isActive → h.run.brokenOff = false →
    ∀ now, ∃ events, (h.call now .runToEnd).1 = .broken events f ∧ h.run.trace ++ events = es ∧
      (h.call now .runToEnd).2.run.phase = .running ∧ (h.call now .runToEnd).2.run.brokenOff
  runToEnd_ends : h.run.isActive = false ∨ h.run.brokenOff →
    ∀ now, (h.call now .runToEnd).1 = .drained [] none ∧
      (h.call now .runToEnd).2.run.phase.isTerminal

omit [Coordinate κ] in
theorem isTerminal_of_over {r : Run κ} (h : r.isActive = false) : r.phase.isTerminal := by
  simpa [Run.isActive] using h

/-- A run that keeps to its track is orderly. -/
theorem orderly_of_tracks (hcourse : p.course w g = (es, ending))
    (ht : h.run.Tracks p w g es ending) : h.Orderly es h.run.trace where
  trace_eq := rfl
  trace_prefix := ht.trace_prefix hcourse
  moves := fun calls => (tracks_after hcourse ht calls).2.moves
  final := by
    intro hterminal calls
    have hover : h.run.isActive = false := by
      rw [Run.isActive, hterminal]
      rfl
    exact (tracks_after hcourse ht calls).2.settled hover
  complete := fun hfin => (ht.finished hfin).2.1
  stamped := by rw [ht.finishedAt_isSome]
  cancel_gives := fun now => congrArg Answer.cancelled (h.run.cancel_spec now).1
  starts := by
    intro now c hc hidle
    obtain ⟨stream, hcall⟩ := (call_starting now hc).1 hidle
    rw [hcall]
  refuses := fun now c hc hne => (call_starting now hc).2 hne

/-- A run on the track of a program that runs to its end conforms to it. -/
theorem conforms_of_tracks (hcourse : p.course w g = (es, .ok o))
    (ht : h.run.Tracks p w g es (.ok o)) : h.Conforms es o h.run.trace where
  toOrderly := orderly_of_tracks hcourse ht
  outcome_eq := ht.outcome_eq
  step_gives := by
    intro now
    rcases call_step hcourse ht now with ⟨e, r, hcall, -⟩ | ⟨f, r, -, -, -, hbreaks⟩
    · exact ⟨e, by rw [hcall]⟩
    · cases hbreaks.ending_eq
  runToEnd_gives := by
    intro now
    obtain ⟨got, r, -, -, ⟨hcall, hover, -⟩ | ⟨f, -, hbreaks⟩⟩ := call_runToEnd hcourse ht now
    · rw [hcall]
      exact ⟨got, rfl, isTerminal_of_over hover⟩
    · cases hbreaks.ending_eq

section

variable {f : RunFault}

omit [Coordinate κ] in
/-- An active run that gets over by pulling is finished. -/
theorem finished_of_over {r r' : Run κ} {got : List (Event κ)} (hactive : r.isActive)
    (hy : r.Yields got r') (hover : r'.isActive = false) : r'.phase = .finished := by
  rcases Run.isActive_eq_false_iff.1 hover with hphase | hphase
  · exact hphase
  · rw [Run.isActive, hy.cancelled hphase] at hactive
    cases hactive

/-- A program that breaks off does not just end: the host is told of the fault before. -/
theorem not_over_of_unbroken {r r' : Run κ} {got : List (Event κ)}
    (ht : r'.Tracks p w g es (.error f)) (hactive : r.isActive) (hunbroken : r.brokenOff = false)
    (hy : r.Yields got r') (hsame : r'.brokenOff = r.brokenOff) : r'.isActive ≠ false := by
  intro hover
  have hbroken : r'.brokenOff := (ht.finished (finished_of_over hactive hy hover)).2.2.2.2
  rw [hsame, hunbroken] at hbroken
  cases hbroken

/-- There are no events behind the last one. -/
theorem got_eq_nil {r r' : Run κ} {got : List (Event κ)} (hcourse : p.course w g = (es, ending))
    (hall : r.trace = es) (hy : r.Yields got r') (ht : r'.Tracks p w g es ending) : got = [] := by
  have hlen := (ht.trace_prefix hcourse).length_le
  rw [hy.trace, hall, List.length_append] at hlen
  exact List.eq_nil_of_length_eq_zero (by omega)

/-- A run that is over or has broken off gives no more events. -/
theorem got_eq_nil_of_done {r r' : Run κ} {got : List (Event κ)}
    (hcourse : p.course w g = (es, ending)) (ht : r.Tracks p w g es ending)
    (hdone : r.isActive = false ∨ r.brokenOff) (hy : r.Yields got r')
    (ht' : r'.Tracks p w g es ending) : got = [] := by
  rcases hdone with hover | hbroken
  · have htrace := hy.trace
    rw [hy.settled hover] at htrace
    exact List.self_eq_append_right.1 htrace
  · exact got_eq_nil hcourse (ht.broken hbroken).1 hy ht'

omit [Coordinate κ] in
/-- A run that is over or has broken off does not break off again. -/
theorem not_done_of_breaksWith {r r' : Run κ} (hbreaks : Run.BreaksWith ending f r r') :
    ¬ (r.isActive = false ∨ r.brokenOff) := by
  rintro (hover | hbroken)
  · cases hover.symm.trans hbreaks.active
  · cases hbreaks.unbroken.symm.trans hbroken

/-- A run on the track of a program that breaks off breaks off with it. -/
theorem breaksOff_of_tracks (hcourse : p.course w g = (es, .error f))
    (ht : h.run.Tracks p w g es (.error f)) : h.BreaksOff es f h.run.trace where
  toOrderly := orderly_of_tracks hcourse ht
  no_outcome := by
    rw [ht.outcome_eq]
    split <;> rfl
  step_gives := by
    intro hactive hunbroken hmore now
    rcases call_step hcourse ht now with
      ⟨e, r, hcall, htracks, hyields, hstill, hsame⟩ | ⟨f', r, -, htracks, hyields, hbreaks⟩
    · cases e with
      | some e => exact ⟨e, by rw [hcall]⟩
      | none =>
        exact absurd hstill (not_over_of_unbroken htracks hactive hunbroken hyields hsame)
    · -- the events are all there when a program breaks off
      have htrace := hyields.trace
      rw [(htracks.broken hbreaks.broken).1, List.append_nil] at htrace
      exact absurd htrace.symm hmore
  step_breaks := by
    intro hactive hunbroken hall now
    rcases call_step hcourse ht now with
      ⟨e, r, hcall, htracks, hyields, hstill, hsame⟩ | ⟨f', r, hcall, -, -, hbreaks⟩
    · cases e with
      -- all events have been given, so there is no further one
      | some e => cases got_eq_nil hcourse hall hyields htracks
      | none =>
        exact absurd hstill (not_over_of_unbroken htracks hactive hunbroken hyields hsame)
    · cases hbreaks.ending_eq
      rw [hcall]
      exact ⟨rfl, hbreaks.phase, hbreaks.broken⟩
  step_ends := by
    intro hdone now
    rcases call_step hcourse ht now with
      ⟨e, r, hcall, htracks, hyields, hstill, -⟩ | ⟨f', r, -, -, -, hbreaks⟩
    · cases e with
      | none =>
        rw [hcall]
        exact ⟨rfl, isTerminal_of_over hstill⟩
      | some e => cases got_eq_nil_of_done hcourse ht hdone hyields htracks
    · exact absurd hdone (not_done_of_breaksWith hbreaks)
  runToEnd_breaks := by
    intro hactive hunbroken now
    obtain ⟨got, r, htracks, hyields, ⟨-, hover, hsame⟩ | ⟨f', hcall, hbreaks⟩⟩ :=
      call_runToEnd hcourse ht now
    · exact absurd hover (not_over_of_unbroken htracks hactive hunbroken hyields hsame)
    · cases hbreaks.ending_eq
      rw [hcall]
      refine ⟨got, rfl, ?_, hbreaks.phase, hbreaks.broken⟩
      rw [← hyields.trace]
      exact (htracks.broken hbreaks.broken).1
  runToEnd_ends := by
    intro hdone now
    obtain ⟨got, r, htracks, hyields, ⟨hcall, hover, -⟩ | ⟨f', -, hbreaks⟩⟩ :=
      call_runToEnd hcourse ht now
    · have hgot := got_eq_nil_of_done hcourse ht hdone hyields htracks
      have hnone : r.outcome = none := by
        rw [htracks.outcome_eq]
        split <;> rfl
      rw [hcall, hgot, hnone]
      exact ⟨rfl, isTerminal_of_over hover⟩
    · exact absurd hdone (not_done_of_breaksWith hbreaks)

end

end Host

/-- A run that a host drives refines the plain run of its program: after any calls in any order,
what the host has been given is the trace of the run and the beginning of the events of the program.
The phase only moves forward, and a run that is over never changes again. If the program runs to its
end, only a finished run has an outcome, and it is that of the program; by then all events have been
given, and calls fail only where the phase forbids them. If the program breaks off, which takes a
node of a derived class, pulling fails with its fault when all events up to there have been given,
and the pull after that finishes the run without an outcome. -/
theorem Run.refines_plain_run {id : Value} {now : Number} {p : Program} {w : World κ} {g : Goal κ}
    {r : Run κ} (hlaunch : Run.launch id now p w g = .ok r) :
    (p.Genuine → ∃ es o, p.run w g = .ok (es, o)) ∧
      (∀ es o, p.run w g = .ok (es, o) → ∀ calls : List (Number × Call),
        Host.Conforms es o (((Host.ofRun r).answers calls).flatMap Answer.events)
          ((Host.ofRun r).after calls)) ∧
      ∀ f, p.run w g = .error f → p.HindersByDerived f ∧ ∀ calls : List (Number × Call),
        Host.BreaksOff (p.course w g).1 f (((Host.ofRun r).answers calls).flatMap Answer.events)
          ((Host.ofRun r).after calls) := by
  obtain ⟨rfl, hvalid⟩ := Run.launch_eq_ok hlaunch
  have hafter (es : List (Event κ)) (ending : Except RunFault (Outcome κ))
      (hcourse : p.course w g = (es, ending)) (calls : List (Number × Call)) :
      ((Host.ofRun (Run.new id now p w g)).after calls).run.Tracks p w g es ending ∧
        ((Host.ofRun (Run.new id now p w g)).after calls).run.trace =
          ((Host.ofRun (Run.new id now p w g)).answers calls).flatMap Answer.events := by
    obtain ⟨htracks, hbecomes⟩ := Host.tracks_after (h := Host.ofRun (Run.new id now p w g)) hcourse
      (Run.tracks_new id now p w g es ending) calls
    exact ⟨htracks, hbecomes.trace⟩
  refine ⟨fun hgen => Program.run_ok_of_genuine hvalid hgen w g, ?_, ?_⟩
  · intro es o hrun calls
    have hcourse := Program.run_eq_ok_iff_course.1 hrun
    obtain ⟨htracks, htrace⟩ := hafter es (.ok o) hcourse calls
    rw [← htrace]
    exact Host.conforms_of_tracks hcourse htracks
  · intro f hrun
    refine ⟨Program.hindersByDerived_of_valid hvalid (Program.obstacle_of_run hrun), ?_⟩
    intro calls
    have hcourse : p.course w g = ((p.course w g).1, .error f) := by
      rw [← Program.run_eq_error_iff_course.1 hrun]
    obtain ⟨htracks, htrace⟩ := hafter _ (.error f) hcourse calls
    rw [← htrace]
    exact Host.breaksOff_of_tracks hcourse htracks

/-- A host that mixes the stream with pulling, cancels, and still holds the stream: it has been
given two of four events, the stream gives no more, and the program would have had all four. -/
theorem Run.refines_plain_run_stale_stream :
    ∃ r, Run.launch (.text "run-1") 0 [.loop (.int 4) [.move (.known .right)]]
        (⟨5, ⟨0, 0⟩, ⟨4, 0⟩, [], []⟩ : World) Goal.reach = .ok r ∧
      ((Host.ofRun r).after [(0, .events), (0, .next), (1, .step), (2, .cancel)]).run.phase =
        .cancelled ∧
      ∃ es o, Program.run [.loop (.int 4) [.move (.known .right)]]
          (⟨5, ⟨0, 0⟩, ⟨4, 0⟩, [], []⟩ : World) Goal.reach = .ok (es, o) ∧
        Host.Conforms es o
          (((Host.ofRun r).answers [(0, .events), (0, .next), (1, .step), (2, .cancel),
            (3, .next), (3, .runToEnd)]).flatMap Answer.events)
          ((Host.ofRun r).after [(0, .events), (0, .next), (1, .step), (2, .cancel), (3, .next),
            (3, .runToEnd)]) := by
  have hlaunch : Run.launch (.text "run-1") 0 [.loop (.int 4) [.move (.known .right)]]
      (⟨5, ⟨0, 0⟩, ⟨4, 0⟩, [], []⟩ : World) Goal.reach =
      .ok (Run.new (.text "run-1") 0 [.loop (.int 4) [.move (.known .right)]]
        ⟨5, ⟨0, 0⟩, ⟨4, 0⟩, [], []⟩ Goal.reach) := rfl
  obtain ⟨hends, hall, -⟩ := Run.refines_plain_run hlaunch
  obtain ⟨es, o, hrun⟩ := hends (by decide)
  exact ⟨_, hlaunch, by decide, es, o, hrun, hall es o hrun _⟩

/-- A run of a program that ends in a node of a class derived from that of moves: the first pull
gives an event, the second fails, since there is no handler for the node, and the third finishes the
run, which has no outcome. -/
theorem Run.finished_without_outcome :
    ∃ r, Run.launch (.text "run-1") 0
        [.move (.known .right), .derived "Dash" (.move (.known .right))]
        (⟨5, ⟨0, 0⟩, ⟨4, 0⟩, [], []⟩ : World) Goal.reach = .ok r ∧
      (∃ e, (((Host.ofRun r).call 0 .step).1) = .event (some e)) ∧
      (((Host.ofRun r).after [(0, .step)]).call 1 .step).1 = .broken [] (.noHandler "Dash" [1]) ∧
      (((Host.ofRun r).after [(0, .step), (1, .step)]).call 2 .step).1 = .event none ∧
      ((Host.ofRun r).after [(0, .step), (1, .step), (2, .step)]).run.phase = .finished ∧
      ((Host.ofRun r).after [(0, .step), (1, .step), (2, .step)]).run.outcome = none :=
  ⟨_, rfl, ⟨_, rfl⟩, rfl, rfl, rfl, rfl⟩

end GridRobot
