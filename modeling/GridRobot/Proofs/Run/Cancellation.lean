import GridRobot.Proofs.Run.Lifecycle

/-!
# Cancelling is final for the host

A host that was told that its run is cancelled can rely on it. There is one other that may cancel:
the goal, while it judges the program that has just ended. It is told the same, but judging goes on
and the run becomes finished, with an outcome.

* `Host.granted_iff`: in which runs someone was told that the run is cancelled;
* `Host.stays_of_cancel`: what the host cancelled stays cancelled, without an outcome and without
  further events.
-/

namespace GridRobot

variable {κ : Type} [Coordinate κ] {p : Program} {w : World κ} {g : Goal κ} {es : List (Event κ)}
  {ending : Except RunFault (Outcome κ)}

namespace Host

variable {h : Host κ}

/-- Someone has been told that the run is cancelled exactly if it is, or if its program came to its
end and was judged by a goal that cancels. -/
theorem granted_iff (ht : h.run.Tracks p w g es ending) :
    h.run.cancelGranted ↔
      h.run.phase = .cancelled ∨ h.run.phase = .finished ∧ g.cancelsRun ∧ ending.isOk := by
  cases hphase : h.run.phase with
  | idle => simp [(ht.active (Run.isActive_iff.2 (.inl hphase))).2.2]
  | running => simp [(ht.active (Run.isActive_iff.2 (.inr hphase))).2.2]
  | finished => simp [(ht.finished hphase).2.2.2.1]
  | cancelled => simp [(ht.cancelled hphase).2]

/-- Whatever is called from now on, the run is in a phase, has an outcome or none, and gives no
events. -/
def Stays (phase : Phase) (outcome : Option (Outcome κ)) (h : Host κ) : Prop :=
  ∀ later : List (Number × Call),
    (h.after later).run.phase = phase ∧ (h.after later).run.outcome = outcome ∧
      (h.answers later).flatMap Answer.events = []

/-- A run that is over stays as it is. -/
theorem stays_of_over (hcourse : p.course w g = (es, ending)) (ht : h.run.Tracks p w g es ending)
    (hover : h.run.isActive = false) : h.Stays h.run.phase h.run.outcome := by
  intro later
  obtain ⟨-, hbecomes⟩ := tracks_after hcourse ht later
  have hsame := hbecomes.settled hover
  have htrace := hbecomes.trace
  rw [hsame] at htrace ⊢
  exact ⟨rfl, rfl, List.self_eq_append_right.1 htrace⟩

theorem stays_cancelled (hcourse : p.course w g = (es, ending)) (ht : h.run.Tracks p w g es ending)
    (hphase : h.run.phase = .cancelled) : h.Stays .cancelled none := by
  have hstays := stays_of_over hcourse ht (Run.isActive_eq_false_iff.2 (.inr hphase))
  rwa [ht.outcome_eq, hphase] at hstays

/-- A finished run keeps its outcome. -/
theorem stays_finished (hcourse : p.course w g = (es, ending)) (ht : h.run.Tracks p w g es ending)
    (hphase : h.run.phase = .finished) : h.Stays .finished ending.toOption := by
  have hstays := stays_of_over hcourse ht (Run.isActive_eq_false_iff.2 (.inl hphase))
  rwa [ht.outcome_eq, hphase] at hstays

/-- A host that is told that its run is cancelled finds it so for good. -/
theorem stays_of_cancel (hcourse : p.course w g = (es, ending)) (ht : h.run.Tracks p w g es ending)
    {now : Number} (hgranted : (h.call now .cancel).1 = .cancelled true) :
    (h.call now .cancel).2.Stays .cancelled none := by
  obtain ⟨hanswer, -, hcancels⟩ := h.run.cancel_spec now
  -- the answer tells that the run was active
  have hactive : h.run.isActive := by
    rw [← hanswer]
    injection hgranted
  exact stays_cancelled hcourse (ht.cancel now) (hcancels hactive)

end Host

/-- After any calls: if the host is told that the run is cancelled, the run is cancelled and has no
outcome from then on, and no later call gives an event. Once anyone has been told so, the host or
the goal, this holds too, unless it was the goal: that run is finished from then on, with the
outcome of the program, and gives no events either. -/
theorem Run.cancel_final_for_host {id : Value} {now : Number} {r : Run κ}
    (hlaunch : Run.launch id now p w g = .ok r) (calls : List (Number × Call)) :
    (∀ now, (((Host.ofRun r).after calls).call now .cancel).1 = .cancelled true →
        (((Host.ofRun r).after calls).call now .cancel).2.Stays .cancelled none) ∧
      (((Host.ofRun r).after calls).run.cancelGranted →
        ((Host.ofRun r).after calls).Stays .cancelled none ∨
          g.cancelsRun ∧ ∃ es o, p.run w g = .ok (es, o) ∧
            ((Host.ofRun r).after calls).Stays .finished (some o)) := by
  obtain ⟨rfl, -⟩ := Run.launch_eq_ok hlaunch
  obtain ⟨es, ending, hcourse⟩ : ∃ es ending, p.course w g = (es, ending) := ⟨_, _, rfl⟩
  have ht := (Host.tracks_after (h := Host.ofRun (Run.new id now p w g)) hcourse
    (Run.tracks_new id now p w g es ending) calls).1
  refine ⟨fun now hgranted => Host.stays_of_cancel hcourse ht hgranted, ?_⟩
  intro hgranted
  rcases (Host.granted_iff ht).1 hgranted with hphase | ⟨hphase, hcancels, hok⟩
  · exact Or.inl (Host.stays_cancelled hcourse ht hphase)
  · -- the goal was asked, so the program has come to its end
    cases ending with
    | error f => cases hok
    | ok o =>
      exact Or.inr ⟨hcancels, es, o, Program.run_eq_ok_iff_course.2 hcourse,
        Host.stays_finished hcourse ht hphase⟩

/-- A run with a goal that cancels, cancelled by its host after one of four events: it stays
cancelled. -/
theorem Run.cancel_final_for_host_midway :
    ∃ r, Run.launch (.text "run-1") 0 [.loop (.int 4) [.move (.known .right)]]
        (⟨5, ⟨0, 0⟩, ⟨4, 0⟩, [], []⟩ : World) { Goal.reach with cancelsRun := true } = .ok r ∧
      (((Host.ofRun r).after [(0, .step)]).call 1 .cancel).2.Stays .cancelled none := by
  have hlaunch : Run.launch (.text "run-1") 0 [.loop (.int 4) [.move (.known .right)]]
      (⟨5, ⟨0, 0⟩, ⟨4, 0⟩, [], []⟩ : World) { Goal.reach with cancelsRun := true } =
      .ok (Run.new (.text "run-1") 0 [.loop (.int 4) [.move (.known .right)]]
        ⟨5, ⟨0, 0⟩, ⟨4, 0⟩, [], []⟩ { Goal.reach with cancelsRun := true }) := rfl
  exact ⟨_, hlaunch, (Run.cancel_final_for_host hlaunch [(0, .step)]).1 1 rfl⟩

/-- A run whose goal cancels it while judging: the goal has been told that the run is cancelled, and
yet the run is finished and has an outcome. -/
theorem Run.finished_though_cancelled :
    ∃ r, Run.launch (.text "run-1") 0
        [.move (.known .right), .move (.known .right), .move (.known .right), .move (.known .right)]
        (⟨5, ⟨0, 0⟩, ⟨4, 0⟩, [], []⟩ : World) { Goal.reach with cancelsRun := true } = .ok r ∧
      ((Host.ofRun r).after [(0, .runToEnd)]).run.cancelGranted = true ∧
      ((Host.ofRun r).after [(0, .runToEnd)]).run.phase = .finished ∧
      ((Host.ofRun r).after [(0, .runToEnd)]).run.outcome.isSome :=
  ⟨_, rfl, rfl, rfl, rfl⟩

end GridRobot
