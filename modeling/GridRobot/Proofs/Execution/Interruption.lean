import GridRobot.Proofs.Execution.Resume
import GridRobot.Proofs.Execution.Trace

/-!
# Cancelled runs

A host is asked in front of every action whether to cancel the run. The actions that are still to
come are those of the run in one go, and each of them makes one entry in the journal. So the entries
ahead of a machine tell how often the host will be asked, and what is left undone if it cancels.

* `Machine.Ahead.turn_cases`: a turn takes the next entry, unless the host cancels;
* `Machine.Ahead.advance`: as long as the host does not cancel, turn after turn takes an entry;
* `World.trace_stateAfter_take`: the events of the first actions are those of the first entries.
-/

namespace GridRobot

/-! ## Actions one after the other -/

section Actions

variable {κ : Type} [Coordinate κ]

/-- The state after some actions of the blocks at some paths. -/
def World.stateAfter (w : World κ) (acts : List (Path × Action)) : State κ :=
  acts.foldl (fun s act => act.2.perform w act.1 s) (State.initial w)

theorem World.stateAfter_snoc (w : World κ) (acts : List (Path × Action)) (act : Path × Action) :
    w.stateAfter (acts ++ [act]) = act.2.perform w act.1 (w.stateAfter acts) := by
  rw [stateAfter, List.foldl_append]
  rfl

/-- Every action makes one entry. -/
theorem World.journal_stateAfter_append (w : World κ) (acts more : List (Path × Action)) :
    ∃ entries, entries.length = more.length ∧
      (w.stateAfter (acts ++ more)).journal = entries ++ (w.stateAfter acts).journal := by
  induction more using List.reverseRecOn with
  | nil => exact ⟨[], rfl, by rw [List.append_nil, List.nil_append]⟩
  | append_singleton more act ih =>
    rcases ih with ⟨entries, hlength, hjournal⟩
    rcases Action.journal_perform w act.1 (w.stateAfter (acts ++ more)) act.2 with
      ⟨entry, hentry, -⟩
    refine ⟨entry :: entries, ?_, ?_⟩
    · rw [List.length_cons, hlength, List.length_append, List.length_singleton]
    · rw [← List.append_assoc, stateAfter_snoc, hentry, hjournal, List.cons_append]

/-- The journal has an entry for every action. -/
theorem World.length_journal_stateAfter (w : World κ) (acts : List (Path × Action)) :
    (w.stateAfter acts).journal.length = acts.length := by
  rcases w.journal_stateAfter_append [] acts with ⟨entries, hlength, hjournal⟩
  rw [List.nil_append] at hjournal
  rw [hjournal, List.length_append, hlength]
  rfl

/-- The events of the first actions are those of the first entries. -/
theorem World.trace_stateAfter_take (w : World κ) {acts : List (Path × Action)} {k : Nat}
    (hk : k ≤ acts.length) :
    (w.stateAfter (acts.take k)).trace =
      ((w.stateAfter acts).journal.reverse.take k).filterMap id := by
  rcases w.journal_stateAfter_append (acts.take k) (acts.drop k) with ⟨entries, -, hjournal⟩
  have hlength : (w.stateAfter (acts.take k)).journal.reverse.length = k := by
    rw [List.length_reverse, length_journal_stateAfter, List.length_take_of_le hk]
  rw [List.take_append_drop] at hjournal
  rw [hjournal, List.reverse_append, List.take_left' hlength, List.filterMap_reverse]
  rfl

/-- A run is a sequence of actions, each of a block of the program. -/
theorem Program.exists_stateAfter (p : Program) (w : World κ) :
    ∃ acts, (∀ act ∈ acts, (act.1, act.2.block) ∈ p.walk) ∧
      (Block.execFrom w [] 0 p (State.initial w)).2 = w.stateAfter acts := by
  refine Block.execFrom_preserves
    (P := fun s => ∃ acts, (∀ act ∈ acts, (act.1, act.2.block) ∈ p.walk) ∧ s = w.stateAfter acts)
    ?_ ⟨[], fun act hact => absurd hact List.not_mem_nil, rfl⟩
  rintro path a hnode s ⟨acts, hacts, rfl⟩
  refine ⟨acts ++ [(path, a)], ?_, (w.stateAfter_snoc acts (path, a)).symm⟩
  intro act hact
  rcases List.mem_append.1 hact with hact | hact
  · exact hacts act hact
  · rw [List.mem_singleton.1 hact]
    exact hnode

end Actions

/-! ## Pulling all events -/

namespace Machine

variable {m m' m'' : Machine} {cancel : Nat → Bool} {entry : Option Event}
  {entries front back : List (Option Event)} {es : List Event} {last : Pull}

/-- A host pulls events one after the other, until there is something else. -/
inductive Drains (cancel : Nat → Bool) : Machine → List Event → Pull → Machine → Prop
  | done {m m' : Machine} {last : Pull} (hpull : m.pull cancel = (last, m'))
      (hlast : ∀ e, last ≠ .event e) : Drains cancel m [] last m'
  | event {m m' m'' : Machine} {e : Event} {es : List Event} {last : Pull}
      (hpull : m.pull cancel = (.event e, m')) (hrest : Drains cancel m' es last m'') :
    Drains cancel m (e :: es) last m''

/-- More turns than there is work do not change what is pulled. -/
theorem Good.pullWithin_eq (h : m.Good) (cancel : Nat → Bool) {turns turns' : Nat}
    (hturns : m.work < turns) (hturns' : m.work < turns') :
    m.pullWithin cancel turns = m.pullWithin cancel turns' := by
  induction turns generalizing m turns' with
  | zero => omega
  | succ turns ih =>
    cases turns' with
    | zero => omega
    | succ turns' =>
      rw [pullWithin, pullWithin]
      rcases h.turn_cases cancel with
        ⟨hturn, -⟩ | ⟨hturn, -⟩ | ⟨f, m', hturn, -⟩ | ⟨entry, m', hturn, hleads, hless⟩
      · rw [hturn]
      · rw [hturn]
      · rw [hturn]
      · rw [hturn]
        cases entry with
        | some e => rfl
        | none =>
          -- both numbers of turns are still larger than the work that is left
          exact ih hleads.good (by omega) (by omega)

/-- A machine that ends with its next turn is drained by it. -/
theorem Drains.of_ended (hturn : m.turn cancel = (.ended, m')) : m.Drains cancel [] .ended m' := by
  refine .done ?_ nofun
  rw [pull, pullWithin, hturn]

/-- A machine that fails with its next turn is drained by it. -/
theorem Drains.of_failed {f : RunFault} (hturn : m.turn cancel = (.failed f, m')) :
    m.Drains cancel [] (.failed f) m' := by
  refine .done ?_ nofun
  rw [pull, pullWithin, hturn]

/-- What is pulled after an action is pulled in front of it too, behind what the action emits. -/
theorem Drains.of_acted (hturn : m.turn cancel = (.acted entry, m')) (hgood : m'.Good)
    (hless : m'.work < m.work) (h : m'.Drains cancel es last m'') :
    m.Drains cancel (entry.toList ++ es) last m'' := by
  cases entry with
  | some e =>
    refine .event ?_ h
    rw [pull, pullWithin, hturn]
  | none =>
    -- an action without an event does not end the pull
    have hpull : m.pull cancel = m'.pull cancel := by
      rw [pull, pullWithin, hturn]
      exact hgood.pullWithin_eq cancel hless (Nat.lt_succ_self _)
    cases h with
    | done hdone hlast => exact .done (hpull.trans hdone) hlast
    | event hevent hrest => exact .event (hpull.trans hevent) hrest

/-! ## The entries ahead -/

/-- The entries that the machine will make in the journal if it is not cancelled, the next one
first. All moves that are left have a direction. -/
structure Ahead (m : Machine) (entries : List (Option Event)) : Prop where
  good : m.Good
  directed : ∀ path v, (path, Block.move (.other v)) ∉ m.nodes
  faithful : Faithful m.world m.state
  journal : m.finish.2.journal = entries.reverse ++ m.state.journal

/-- At the start, all that the run in one go writes down lies ahead. -/
theorem ahead_start {p : Program} (hp : ∀ path v, (path, Block.move (.other v)) ∉ p.walk)
    (w : World) :
    (start w p).Ahead (Block.execFrom w [] 0 p (State.initial w)).2.journal.reverse where
  good := good_start w p
  directed := by
    rw [nodes_start]
    exact hp
  faithful := Faithful.init w
  journal := by
    rw [finish_start, List.reverse_reverse]
    exact (List.append_nil _).symm

/-- Nothing is left to do, or the program cannot go on; `last` is what a pull tells then. -/
def Over (m : Machine) (last : Pull) : Prop :=
  (last = .ended ∧ m.finish = (.ok m.signal, m.state)) ∨
    ∃ f, last = .failed f ∧ m.finish = (.error f, m.state)

theorem journal_finish (m : Machine) : m.state.journal <:+ m.finish.2.journal :=
  Frame.journal_resume m.world m.signal m.frames m.state

/-- When nothing is left to run, nothing lies ahead. -/
theorem Ahead.eq_nil (h : m.Ahead entries) {result : Except RunFault Signal}
    (hfinish : m.finish = (result, m.state)) : entries = [] := by
  have hsame := h.journal
  rw [hfinish] at hsame
  exact List.reverse_eq_nil_iff.1 (List.append_left_eq_self.1 hsame.symm)

/-- When a run is over or cannot go on, there is nothing ahead. Otherwise the host is asked; if it
does not cancel, the machine makes the next entry. -/
theorem Ahead.turn_cases (h : m.Ahead entries) (cancel : Nat → Bool) :
    (entries = [] ∧ ∃ last, m.Over last ∧ m.Drains cancel [] last m) ∨
      ∃ entry rest, entries = entry :: rest ∧
        (cancel m.checks = true →
          m.turn cancel = (.failed .cancelled, { m with checks := m.checks + 1 })) ∧
        (cancel m.checks = false → ∃ m', m.turn cancel = (.acted entry, m') ∧ m'.Ahead rest ∧
          m.Leads entry.toList m' ∧ m'.work < m.work ∧ m'.checks = m.checks + 1) := by
  have hwithin : m.next.Within m.nodes m.work := Frame.searchStack_within m.world m.state m.frames
  rcases h.good.next_cases with
    ⟨hnext, hfinish⟩ | ⟨f, -, hfinish, hnext | ⟨v, path, rest, hnext, -⟩⟩ |
    ⟨a, path, rest, entry, hnext, hjournal, hleads, hless⟩
  · have hturn : m.turn cancel = (.ended, m) := by rw [Machine.turn, hnext]
    exact Or.inl ⟨h.eq_nil hfinish, .ended, Or.inl ⟨rfl, hfinish⟩, .of_ended hturn⟩
  · have hturn : m.turn cancel = (.failed f, m) := by rw [Machine.turn, hnext]
    exact Or.inl ⟨h.eq_nil hfinish, .failed f, Or.inr ⟨f, rfl, hfinish⟩, .of_failed hturn⟩
  · rw [hnext] at hwithin
    exact absurd hwithin.1 (h.directed path v)
  · rw [hnext] at hwithin
    rw [Machine.turn, hnext]
    rcases m.perform_fields a path rest with ⟨hworld, hstate, -⟩
    refine Or.inr ?_
    -- the entry of the action is the oldest one of those that are still to come
    rcases (m.perform a path rest).journal_finish with ⟨later, hlater⟩
    have hsplit : entries.reverse ++ m.state.journal = (later ++ [entry]) ++ m.state.journal := by
      rw [← h.journal, ← hleads.finish, ← hlater, hstate, hjournal, List.append_assoc]
      rfl
    have hentries : entries = entry :: later.reverse := by
      have hboth := congrArg List.reverse (List.append_cancel_right hsplit)
      rwa [List.reverse_reverse, List.reverse_append] at hboth
    refine ⟨entry, later.reverse, hentries, fun hc => if_pos hc, ?_⟩
    intro hc
    refine ⟨m.perform a path rest, ?_, ⟨hleads.good, ?_, ?_, ?_⟩, hleads, hless,
      m.checks_perform a path rest⟩
    · dsimp only
      rw [hc, hstate, hjournal]
      rfl
    · -- what is left behind the action was left before
      have hsub := List.Subset.trans (m.perform_within a path rest).1 hwithin.2.1
      exact fun path v hnode => h.directed path v (hsub hnode)
    · rw [hworld, hstate]
      exact h.faithful.perform path a
    · rw [List.reverse_reverse, hlater]

/-- While the host does not cancel, the machine makes entry after entry. -/
theorem Ahead.advance (h : m.Ahead (front ++ back))
    (hquiet : ∀ n < front.length, cancel (m.checks + n) = false) :
    ∃ m', m'.Ahead back ∧ m.Leads (front.filterMap id) m' ∧
      m'.checks = m.checks + front.length ∧
      ∀ es last m'', m'.Drains cancel es last m'' →
        m.Drains cancel (front.filterMap id ++ es) last m'' := by
  induction front generalizing m with
  | nil => exact ⟨m, h, h.good.leads_refl, rfl, fun _ _ _ hdrains => hdrains⟩
  | cons entry front ih =>
    have hevents : (entry :: front).filterMap id = entry.toList ++ front.filterMap id := by
      cases entry with
      | none => rfl
      | some e => rfl
    -- the turn writes down the first entry that lies ahead, since its check is answered with no
    rcases h.turn_cases cancel with ⟨hnone, -⟩ | ⟨_, _, heq, -, hacts⟩
    · cases hnone
    · cases heq
      rcases hacts (hquiet 0 (Nat.succ_pos _)) with ⟨m₁, hturn, hahead, hleads, hless, hchecks⟩
      have hquiet' : ∀ n < front.length, cancel (m₁.checks + n) = false := by
        intro n hn
        rw [hchecks, Nat.add_assoc, Nat.add_comm 1]
        exact hquiet (n + 1) (Nat.succ_lt_succ hn)
      rcases ih hahead hquiet' with ⟨m', hahead', hleads', hchecks', hdrains⟩
      refine ⟨m', hahead', ?_, ?_, ?_⟩
      · rw [hevents]
        exact hleads.trans hleads'
      · rw [hchecks', hchecks, List.length_cons]
        omega
      · intro es last m'' hlast
        rw [hevents, List.append_assoc]
        exact .of_acted hturn hleads.good hless (hdrains es last m'' hlast)

/-- A host that never cancels pulls all events that are ahead, and then it learns how the run
ends. -/
theorem Ahead.drains_all (h : m.Ahead entries) (cancel : Nat → Bool)
    (hquiet : ∀ n < entries.length, cancel (m.checks + n) = false) :
    ∃ last m', m.Drains cancel (entries.filterMap id) last m' ∧
      m.Leads (entries.filterMap id) m' ∧ m'.Over last ∧
      m'.checks = m.checks + entries.length := by
  rw [← List.append_nil entries] at h
  rcases h.advance hquiet with ⟨m', hahead, hleads, hchecks, hdrains⟩
  rcases hahead.turn_cases cancel with ⟨-, last, hover, hdone⟩ | ⟨_, _, hsome, -⟩
  · have hall := hdrains [] last m' hdone
    rw [List.append_nil] at hall
    exact ⟨last, m', hall, hleads, hover, hchecks⟩
  · cases hsome

/-- A host that cancels has pulled the events of the entries before. -/
theorem Ahead.drains_until (h : m.Ahead entries) (cancel : Nat → Bool) {k : Nat}
    (hk : k < entries.length) (hcancel : cancel (m.checks + k) = true)
    (hquiet : ∀ n < k, cancel (m.checks + n) = false) :
    ∃ m', m.Drains cancel ((entries.take k).filterMap id) (.failed .cancelled) m' ∧
      m'.state.trace = m.state.trace ++ (entries.take k).filterMap id ∧
      Faithful m.world m'.state ∧ m'.checks = m.checks + k + 1 := by
  have hlength : (entries.take k).length = k := List.length_take_of_le (Nat.le_of_lt hk)
  rw [← List.take_append_drop k entries] at h
  rcases h.advance (fun n hn => hquiet n (hlength ▸ hn)) with
    ⟨m', hahead, hleads, hchecks, hdrains⟩
  rw [hlength] at hchecks
  rcases hahead.turn_cases cancel with ⟨hnone, -⟩ | ⟨_, _, -, hturn, -⟩
  · rw [List.drop_eq_nil_iff] at hnone
    omega
  · have hall := hdrains _ _ _ (.of_failed (hturn (hchecks ▸ hcancel)))
    rw [List.append_nil] at hall
    refine ⟨_, hall, hleads.trace, ?_, ?_⟩
    · rw [← hleads.world]
      exact hahead.faithful
    · show m'.checks + 1 = m.checks + k + 1
      rw [hchecks]

end Machine

/-! ## Programs -/

/-- The host of a valid program is asked once in front of every action of the run. If it never
cancels, it gets the events and the outcome of the run in one go; if the program breaks off, it gets
the events up to there and the fault. If it cancels in front of an action, it gets the events of the
actions before, whatever the goal is, and then it learns that the run is cancelled. Nothing is left
half done: the robot is where the last event says, and the items are taken that were taken then. A
genuine program does not break off. -/
theorem Program.cancelled_between_actions {p : Program} (hp : (p.check {}).valid) (w : World) :
    ∃ (result : Except RunFault Signal) (acts : List (Path × Action)),
      (∀ act ∈ acts, (act.1, act.2.block) ∈ p.walk) ∧
      Block.execFrom w [] 0 p (State.initial w) = (result, w.stateAfter acts) ∧
      (p.Genuine → ∃ signal, result = .ok signal) ∧
      ∀ cancel : Nat → Bool,
        ((∀ n < acts.length, cancel n = false) → ∀ g : Goal,
          (∀ es o, p.run w g = .ok (es, o) → ∃ m,
            (Machine.start w p).Drains cancel es .ended m ∧ m.outcome g = o ∧
            m.checks = acts.length) ∧
          ∀ f, p.run w g = .error f → ∃ m,
            (Machine.start w p).Drains cancel (p.course w g).1 (.failed f) m ∧
            m.checks = acts.length) ∧
        ∀ k < acts.length, cancel k = true → (∀ n < k, cancel n = false) → ∃ es m,
          es = (w.stateAfter (acts.take k)).trace ∧
          (Machine.start w p).Drains cancel es (.failed .cancelled) m ∧
          m.checks = k + 1 ∧ m.state.pose = w.poseAfter es := by
  rcases p.exists_stateAfter w with ⟨acts, hacts, hstate⟩
  have hdirected (path : Path) (v : Value) : (path, Block.move (.other v)) ∉ p.walk := by
    intro hnode
    have hobstacle : (Block.move (.other v)).obstacle? path = some (.badDirection v) := rfl
    obtain ⟨name, base, hderived, -⟩ :=
      Block.obstacle_of_faults (faults_of_valid hp hnode) hobstacle
    cases hderived
  -- what lies ahead at the start is the whole journal of the run in one go
  have hahead : (Machine.start w p).Ahead (w.stateAfter acts).journal.reverse := by
    rw [← hstate]
    exact Machine.ahead_start hdirected w
  have hlength : (w.stateAfter acts).journal.reverse.length = acts.length := by
    rw [List.length_reverse, w.length_journal_stateAfter]
  have hasked (n : Nat) : (Machine.start w p).checks + n = n := Nat.zero_add n
  refine ⟨_, acts, hacts, by rw [← hstate], ?_, ?_⟩
  · intro hgen
    rcases run_ok_of_genuine hp hgen w Goal.reach with ⟨es, o, hrun⟩
    rcases run_eq_ok_iff.1 hrun with ⟨signal, s, hexec, -⟩
    exact ⟨signal, by rw [hexec]⟩
  intro cancel
  constructor
  · intro hquiet g
    have hquiet' : ∀ n < (w.stateAfter acts).journal.reverse.length,
        cancel ((Machine.start w p).checks + n) = false := by
      intro n hn
      rw [hasked]
      exact hquiet n (hlength ▸ hn)
    rcases hahead.drains_all cancel hquiet' with ⟨last, m, hdrains, hleads, hover, hchecks⟩
    rw [hasked, hlength] at hchecks
    have htrace : m.state.trace = (w.stateAfter acts).journal.reverse.filterMap id := hleads.trace
    rw [← htrace] at hdrains
    rcases hover with ⟨rfl, hfinish⟩ | ⟨f, rfl, hfinish⟩
    · -- nobody cancels, and the program ends
      have hcourse := hleads.course_of_ended g hfinish
      constructor
      · intro es o hrun
        rw [run_eq_ok_iff_course, hcourse] at hrun
        cases hrun
        exact ⟨m, hdrains, rfl, hchecks⟩
      · intro f hrun
        rw [run_eq_error_iff_course, hcourse] at hrun
        cases hrun
    · -- nobody cancels, and the program breaks off
      have hcourse := hleads.course_of_failed g hfinish
      constructor
      · intro es o hrun
        rw [run_eq_ok_iff_course, hcourse] at hrun
        cases hrun
      · intro f' hrun
        rw [run_eq_error_iff_course, hcourse] at hrun
        cases hrun
        rw [hcourse]
        exact ⟨m, hdrains, hchecks⟩
  · intro k hk hcancel hquiet
    -- the first check that is answered by a cancel is the one in front of the action with that
    -- number
    rcases hahead.drains_until cancel (hlength ▸ hk) (by rw [hasked]; exact hcancel)
      (fun n hn => by rw [hasked]; exact hquiet n hn) with ⟨m, hdrains, htrace, hfaithful, hchecks⟩
    refine ⟨_, m, (w.trace_stateAfter_take (Nat.le_of_lt hk)).symm, hdrains, ?_, ?_⟩
    · rw [hchecks, hasked]
    · rw [← hfaithful.pose, htrace]
      rfl

/-- A room with nothing in it. -/
def World.emptyRoom : World := ⟨3, ⟨0, 0⟩, ⟨2, 2⟩, [], []⟩

/-- A search on the way to the right. -/
def Program.rightwardSearch : Program := [.loop (.int 2) [.collect, .move (.known .right)], .wait]

/-- In an empty room both collects are silent, and yet the host is asked in front of them. If it
cancels when it is asked for the fourth time, the robot has moved once. -/
theorem Program.cancelled_between_actions_emptyRoom :
    ∃ es m, (Machine.start World.emptyRoom rightwardSearch).Drains (fun n => n == 3) es
        (.failed .cancelled) m ∧
      es = [⟨0, .moved .right ⟨1, 0⟩, ⟨1, 0⟩, [], [0, 1]⟩] ∧
      m.checks = 4 ∧ m.state.pose = ⟨⟨1, 0⟩, []⟩ := by
  rcases cancelled_between_actions (p := rightwardSearch) (by decide) World.emptyRoom with
    ⟨result, acts, -, hexec, -, hall⟩
  have hstate : World.emptyRoom.stateAfter acts =
      (Block.execFrom World.emptyRoom [] 0 rightwardSearch (State.initial World.emptyRoom)).2 := by
    rw [hexec]
  have hlength : acts.length = 5 := by
    rw [← World.emptyRoom.length_journal_stateAfter acts, hstate]
    decide
  rcases (hall (fun n => n == 3)).2 3 (by omega) rfl (by decide) with
    ⟨es, m, hes, hdrains, hchecks, hpose⟩
  have hmoved : es = [⟨0, .moved .right ⟨1, 0⟩, ⟨1, 0⟩, [], [0, 1]⟩] := by
    rw [hes, World.emptyRoom.trace_stateAfter_take (by omega), hstate]
    decide
  rw [hmoved] at hpose
  exact ⟨es, m, hdrains, hmoved, hchecks, hpose⟩

end GridRobot
