import GridRobot.Proofs.Registry.Entries
import GridRobot.Service

/-!
# Histories of requests

The service answers one request after the other, each at its time. A request may name a run. What it
does to the registry is one of a few things (`Service.Changes`), and none of them touches the
entry of a run that the request does not name, unless the run is swept.

* `Service.entry?_handle_of_other`: requests on other runs leave the entry of a run alone;
* `Service.fresh_after`: the ids that are still to be given stay those of no run;
* `Service.createRun_eq`: whether a run is created is settled by the submission alone.
-/

namespace GridRobot

/-- Requests in the order in which they come, each with its time. -/
abbrev History := List (Number × Request)

/-- The run that a request names. -/
def Request.run? : Request → Option Value
  | .getRun id | .pullEvents id _ | .cancelRun id | .getOutcome id | .endRun id => some id
  | .listLevels | .getLevel .. | .createRun _ | .listRuns => none

namespace Service

/-- The service after some requests. -/
def after (s : Service) : History → Service
  | [] => s
  | (now, q) :: history => (s.handle now q).2.after history

/-- The answers to those of some requests that name a run. -/
def answersTo (id : Value) (s : Service) : History → List (Except Refusal Reply)
  | [] => []
  | (now, q) :: history =>
    if q.run? = some id then (s.handle now q).1 :: (s.handle now q).2.answersTo id history
    else (s.handle now q).2.answersTo id history

/-- The registry without the runs that have been over for too long. -/
def swept (s : Service) (now : Number) : Registry :=
  match s.maxAge.number? with
  | some n => (s.registry.sweep now n).2
  | none => s.registry

/-- Is the run with an id swept by a request? -/
def drops (s : Service) (now : Number) (id : Value) : Request → Bool
  | .createRun _ =>
    match s.maxAge.number?, s.registry.get? id with
    | some n, some r => Registry.isStale now n r
    | _, _ => false
  | _ => false

/-- None of the requests sweeps the run with an id. -/
def Spares (id : Value) (s : Service) : History → Prop
  | [] => True
  | (now, q) :: history => s.drops now id q = false ∧ (s.handle now q).2.Spares id history

instance decidableSpares (id : Value) (s : Service) (history : History) :
    Decidable (s.Spares id history) :=
  match history with
  | [] => isTrue trivial
  | (now, q) :: history =>
    have := decidableSpares id (s.handle now q).2 history
    inferInstanceAs (Decidable (_ ∧ _))

end Service

/-! ## Runs under another id -/

namespace Run

variable {κ : Type}

/-- The run under another id. -/
def withId (id : Value) (r : Run κ) : Run κ := { r with id := id }

@[simp] theorem withId_id (id : Value) (r : Run κ) : (r.withId id).id = id := rfl

/-- Cancelling does not look at the id. -/
theorem cancel_withId (id : Value) (now : Number) (r : Run κ) :
    (r.withId id).cancel now = ((r.cancel now).1, (r.cancel now).2.withId id) := by
  have hactive : (r.withId id).isActive = r.isActive := rfl
  unfold cancel
  rw [hactive]
  cases r.isActive <;> rfl

theorem id_cancel (now : Number) (r : Run κ) : (r.cancel now).2.id = r.id :=
  congrArg (·.2.id) (r.cancel_withId r.id now)

variable [Coordinate κ]

theorem conclude_withId (id : Value) (now : Number) (r : Run κ) :
    (r.withId id).conclude now = (r.conclude now).withId id := by
  have hgoal : (r.withId id).goal = r.goal := rfl
  unfold conclude
  rw [hgoal, cancel_withId]
  cases r.goal.cancelsRun <;> rfl

/-- Pulling does not look at the id. -/
theorem pull_withId (id : Value) (now : Number) (r : Run κ) :
    (r.withId id).pull now = ((r.pull now).1, (r.pull now).2.withId id) := by
  have hbroken : (r.withId id).brokenOff = r.brokenOff := rfl
  have hpull : (r.withId id).machine.pull (fun _ => (r.withId id).cancelRequested) =
      r.machine.pull (fun _ => r.cancelRequested) := rfl
  unfold pull
  rw [hbroken, hpull]
  split
  · rfl
  · obtain ⟨e | - | f, m⟩ := r.machine.pull (fun _ => r.cancelRequested)
    · rfl
    · exact congrArg (Prod.mk _) (conclude_withId id now { r with machine := m })
    · cases f <;> rfl

theorem step_withId (id : Value) (now : Number) (r : Run κ) :
    (r.withId id).step now = ((r.step now).1, (r.step now).2.withId id) := by
  have hphase : (r.withId id).phase = r.phase := rfl
  unfold step
  rw [hphase]
  cases r.phase with
  | idle => exact pull_withId id now { r with phase := .running }
  | running => exact pull_withId id now r
  | finished => rfl
  | cancelled => rfl

/-- Pulling many events does not look at the id. -/
theorem stepsFrom_withId (id : Value) (now : Number) (pulled : List (Event κ)) (n : Nat)
    (r : Run κ) :
    (r.withId id).stepsFrom now pulled n =
      ((r.stepsFrom now pulled n).1, (r.stepsFrom now pulled n).2.withId id) := by
  induction n generalizing r pulled with
  | zero => rfl
  | succ n ih =>
    rw [stepsFrom, stepsFrom, step_withId]
    obtain ⟨f | (- | e), r'⟩ := r.step now
    · rfl
    · rfl
    · exact ih (e :: pulled) r'

/-- How a run goes does not depend on its id. -/
theorem steps_withId (id : Value) (now : Number) (n : Nat) (r : Run κ) :
    (r.withId id).steps now n = ((r.steps now n).1, (r.steps now n).2.withId id) := by
  rw [steps, steps, stepsFrom_withId]
  obtain ⟨⟨pulled, - | f⟩, r'⟩ := r.stepsFrom now [] n
  · rfl
  · rfl

theorem id_steps (now : Number) (n : Nat) (r : Run κ) : (r.steps now n).2.id = r.id :=
  congrArg (·.2.id) (r.steps_withId r.id now n)

end Run

/-! ## Requests on a run -/

namespace Service

variable {s : Service} {id : Value} {e : Entry}

/-- A run that is there is found. -/
theorem requireRun_of_entry (hkey : id.isKey) (he : s.registry.entry? id = some e) :
    s.requireRun id = .ok e.run := by
  rw [requireRun, if_pos hkey, Registry.get?_of_entry? he]

/-- A run that is not there is not found. -/
theorem requireRun_of_none (hkey : id.isKey) (he : s.registry.entry? id = none) :
    s.requireRun id = .error (.runNotFound id) := by
  rw [requireRun, if_pos hkey, Registry.get?, he]
  rfl

theorem id_of_requireRun {r : Run} (h : s.requireRun id = .ok r) : r.id = id := by
  unfold requireRun Registry.get? at h
  split at h
  · cases he : s.registry.entry? id with
    | none =>
      rw [he] at h
      cases h
    | some e =>
      rw [he] at h
      cases h
      exact Registry.id_of_entry? he
  · cases h

/-- How a registered run is shown. -/
def entryView (e : Entry) : RunView :=
  ⟨e.run.id, e.level, e.run.phase, e.run.eventCount, e.run.outcome, []⟩

/-- A run that is there is shown as its entry has it. -/
theorem getRun_of_entry (hkey : id.isKey) (he : s.registry.entry? id = some e) :
    s.getRun id = .ok (entryView e) := by
  have hid : e.run.id = id := Registry.id_of_entry? he
  rw [getRun, requireRun_of_entry hkey he]
  simp [Except.map, view, entryView, hid, he]

/-- The outcome is told once the run is finished. -/
theorem getOutcome_of_entry (hkey : id.isKey) (he : s.registry.entry? id = some e) :
    s.getOutcome id =
      if e.run.phase = .finished then .ok e.run.outcome
      else .error (.notFinished id e.run.phase) := by
  rw [getOutcome, requireRun_of_entry hkey he]

/-- The batch with some events, and how the run stands after it. -/
def batchOf (r : Run) (events : List Event) : Batch :=
  ⟨r.id, r.phase, events, !r.isActive, r.outcome⟩

/-- Events are pulled from a run that is there; a fault of its program is passed on. -/
theorem pullEvents_of_entry (hkey : id.isKey) (he : s.registry.entry? id = some e) (now : Number)
    (limit : Value) :
    s.pullEvents now id limit =
      match s.batchSize limit with
      | .error f => (.error f, s)
      | .ok size =>
        match e.run.steps now (batchCount size e.run) with
        | (.error f, r) => (.error (.broken f), s.update r)
        | (.ok events, r) => (.ok (batchOf r events), s.update r) := by
  rw [pullEvents, requireRun_of_entry hkey he]
  rfl

theorem endRun_eq (hkey : id.isKey) (now : Number) :
    s.endRun now id =
      (.ok (s.registry.entry? id).isSome, { s with registry := (s.registry.endRun now id).2 }) := by
  have hknown : (s.registry.endRun now id).1.isSome = (s.registry.entry? id).isSome := by
    unfold Registry.endRun Registry.get?
    cases s.registry.entry? id <;> rfl
  rw [endRun, if_pos (by rw [hkey]; rfl), ← hknown]

/-- After a change of the run with an id, its entry holds the changed run. -/
theorem entry?_update_self (he : s.registry.entry? id = some e) {r : Run} (hr : r.id = id) :
    (s.update r).registry.entry? id = some { e with run := r } := by
  rw [update, Registry.entry?_update, if_pos hr.symm, he]
  rfl

/-! ## What a request can do -/

/-- The level, the program and the world that a submission asks for, if a run can be made of it. -/
def plan (s : Service) (sub : Submission) : Except Refusal (Level × Program × World) :=
  match examine sub with
  | .error f => .error f
  | .ok (l, p) =>
    match s.makeWorld l sub.seed with
    | .error f => .error f
    | .ok w =>
      match Run.launchFault? p with
      | some f => .error (.notLaunched f)
      | none => .ok (l, p, w)

/-- The entry of a new run. -/
def newEntry (id : Value) (now : Number) (sub : Submission) (l : Level) (p : Program) (w : World) :
    Entry :=
  ⟨Run.new id now p w l.goal, .int l.number, (sub.seed.map .int).getD .null⟩

/-- The service with one more run. -/
def addEntry (s : Service) (e : Entry) : Service := { s with registry := s.registry.add e }

/-- A new run is added to the registry if a run can be made of the submission, and else nothing
changes. -/
theorem addRun_cases (s : Service) (now : Number) (sub : Submission) :
    (∃ f, s.plan sub = .error f ∧ s.addRun now sub = (.error f, s)) ∨
      ∃ l p w, s.plan sub = .ok (l, p, w) ∧
        s.addRun now sub =
          let e := newEntry s.registry.nextId now sub l p w
          (.ok { (s.addEntry e).view e.run with warnings := (p.check l.rules).warnings },
            s.addEntry e) := by
  unfold plan addRun
  cases examine sub with
  | error f => exact Or.inl ⟨f, rfl, rfl⟩
  | ok found =>
    obtain ⟨l, p⟩ := found
    dsimp only
    cases s.makeWorld l sub.seed with
    | error f => exact Or.inl ⟨f, rfl, rfl⟩
    | ok w =>
      dsimp only
      rcases s.registry.start_cases now p w l.goal (.int l.number)
        ((sub.seed.map .int).getD .null) with ⟨f, hfault, hstart⟩ | ⟨hfault, hstart⟩
      · rw [hfault, hstart]
        exact Or.inl ⟨.notLaunched f, rfl, rfl⟩
      · rw [hfault, hstart]
        exact Or.inr ⟨l, p, w, rfl, rfl⟩

/-- A sweep fails only if the age at which runs are swept is no number. -/
theorem sweep_cases (s : Service) (now : Number) :
    s.sweep now = .ok { s with registry := s.swept now } ∨
      s.maxAge.number? = none ∧ ∃ f, s.sweep now = .error f := by
  unfold sweep Registry.sweepBy swept
  cases s.maxAge.number? with
  | some n => exact Or.inl rfl
  | none =>
    dsimp only
    cases s.registry.entries.findSome? (fun e => e.run.age? now) with
    | none => exact Or.inl rfl
    | some age => exact Or.inr ⟨rfl, _, rfl⟩

theorem sweep_eq_ok {ttl : Number} (hage : s.maxAge.number? = some ttl) (now : Number) :
    s.sweep now = .ok { s with registry := s.swept now } := by
  rcases s.sweep_cases now with hsweep | ⟨hnone, -⟩
  · exact hsweep
  · rw [hage] at hnone
    cases hnone

/-- Making a run leaves the service as it is, sweeps it, or adds the run to what is left. -/
theorem createRun_state (s : Service) (now : Number) (sub : Submission) :
    (s.createRun now sub).2 = s ∨
      (s.createRun now sub).2 = { s with registry := s.swept now } ∨
      ∃ e, e.run.id = (s.swept now).nextId ∧
        (s.createRun now sub).2 = { s with registry := (s.swept now).add e } := by
  unfold createRun
  rcases s.sweep_cases now with hsweep | ⟨-, f, hsweep⟩
  · rw [hsweep]
    dsimp only
    rcases addRun_cases { s with registry := s.swept now } now sub with
      ⟨f, -, hadd⟩ | ⟨l, p, w, -, hadd⟩
    · exact Or.inr (Or.inl (by rw [hadd]))
    · exact Or.inr (Or.inr ⟨_, rfl, by rw [hadd]; rfl⟩)
  · exact Or.inl (by rw [hsweep])

/-- Pulling changes the run that is pulled, and nothing else. -/
theorem pullEvents_state (s : Service) (now : Number) (id limit : Value) :
    (s.pullEvents now id limit).2 = s ∨
      ∃ r : Run, r.id = id ∧ (s.pullEvents now id limit).2 = s.update r := by
  unfold pullEvents
  cases hrun : s.requireRun id with
  | error f => exact Or.inl rfl
  | ok r =>
    dsimp only
    cases s.batchSize limit with
    | error f => exact Or.inl rfl
    | ok size =>
      have hid : (r.steps now (batchCount size r)).2.id = id :=
        (r.id_steps now _).trans (id_of_requireRun hrun)
      refine Or.inr ⟨_, hid, ?_⟩
      dsimp only
      obtain ⟨f | events, r'⟩ := r.steps now (batchCount size r)
      · rfl
      · rfl

theorem cancelRun_state (s : Service) (now : Number) (id : Value) :
    (s.cancelRun now id).2 = s ∨
      ∃ r : Run, r.id = id ∧ (s.cancelRun now id).2 = s.update r := by
  unfold cancelRun
  cases hrun : s.requireRun id with
  | error f => exact Or.inl rfl
  | ok r => exact Or.inr ⟨_, (r.id_cancel now).trans (id_of_requireRun hrun), rfl⟩

/-- Ending a run takes it out, and changes nothing else. -/
theorem endRun_state (s : Service) (now : Number) (id : Value) :
    (s.endRun now id).2 = s ∨
      (s.endRun now id).2 = { s with registry := (s.registry.endRun now id).2 } := by
  unfold endRun
  split
  · exact Or.inr rfl
  · exact Or.inl rfl

/-- What a request can do to the registry. -/
inductive Changes (s : Service) (now : Number) : Request → Registry → Prop
  | nothing (q : Request) : Changes s now q s.registry
  /-- The run that the request names goes on or is cancelled. -/
  | run {q : Request} (r : Run) (hq : q.run? = some r.id) : Changes s now q (s.registry.update r)
  | ended (id : Value) : Changes s now (.endRun id) (s.registry.endRun now id).2
  | swept (sub : Submission) : Changes s now (.createRun sub) (s.swept now)
  /-- A run is added under the next id. -/
  | added (sub : Submission) (e : Entry) (he : e.run.id = (s.swept now).nextId) :
    Changes s now (.createRun sub) ((s.swept now).add e)

/-- A request changes nothing but the registry, in one of a few ways. -/
theorem handle_cases (s : Service) (now : Number) (q : Request) :
    ∃ g, (s.handle now q).2 = { s with registry := g } ∧ Changes s now q g := by
  cases q with
  | listLevels => exact ⟨_, rfl, .nothing _⟩
  | getLevel key seed => exact ⟨_, rfl, .nothing _⟩
  | getRun id => exact ⟨_, rfl, .nothing _⟩
  | getOutcome id => exact ⟨_, rfl, .nothing _⟩
  | listRuns => exact ⟨_, rfl, .nothing _⟩
  | createRun sub =>
    rcases s.createRun_state now sub with hs | hs | ⟨e, he, hs⟩
    · exact ⟨_, hs, .nothing _⟩
    · exact ⟨_, hs, .swept sub⟩
    · exact ⟨_, hs, .added sub e he⟩
  | pullEvents id limit =>
    rcases s.pullEvents_state now id limit with hs | ⟨r, hr, hs⟩
    · exact ⟨_, hs, .nothing _⟩
    · exact ⟨_, hs, .run r (congrArg some hr.symm)⟩
  | cancelRun id =>
    rcases s.cancelRun_state now id with hs | ⟨r, hr, hs⟩
    · exact ⟨_, hs, .nothing _⟩
    · exact ⟨_, hs, .run r (congrArg some hr.symm)⟩
  | endRun id =>
    rcases s.endRun_state now id with hs | hs
    · exact ⟨_, hs, .nothing _⟩
    · exact ⟨_, hs, .ended id⟩

/-! ## What requests keep -/

/-- The services have the same settings. -/
structure SameSettings (s t : Service) : Prop where
  maxBatch : s.maxBatch = t.maxBatch
  maxAge : s.maxAge = t.maxAge
  freeSeed : s.freeSeed = t.freeSeed

/-- No request changes the settings. -/
theorem sameSettings_handle (s : Service) (now : Number) (q : Request) :
    SameSettings (s.handle now q).2 s := by
  obtain ⟨g, hs, -⟩ := s.handle_cases now q
  rw [hs]
  exact ⟨rfl, rfl, rfl⟩

theorem issued_swept (s : Service) (now : Number) : (s.swept now).issued = s.registry.issued := by
  unfold swept
  cases s.maxAge.number? <;> rfl

theorem nextId_swept (s : Service) (now : Number) : (s.swept now).nextId = s.registry.nextId := by
  rw [Registry.nextId, issued_swept, Registry.nextId]

theorem fresh_swept (h : s.registry.Fresh) (now : Number) : (s.swept now).Fresh := by
  unfold swept
  cases s.maxAge.number? with
  | none => exact h
  | some n => exact h.sweep now n

/-- No request brings an id into use that has not been issued. -/
theorem fresh_handle (h : s.registry.Fresh) (now : Number) (q : Request) :
    (s.handle now q).2.registry.Fresh := by
  obtain ⟨g, hs, hg⟩ := s.handle_cases now q
  rw [hs]
  cases hg with
  | nothing => exact h
  | run r => exact h.update r
  | ended id => exact h.endRun now id
  | swept => exact fresh_swept h now
  | added sub e he => exact (fresh_swept h now).add he

/-- Ids are never taken back. -/
theorem issued_le_handle (s : Service) (now : Number) (q : Request) :
    s.registry.issued ≤ (s.handle now q).2.registry.issued := by
  obtain ⟨g, hs, hg⟩ := s.handle_cases now q
  rw [hs]
  have hswept : s.registry.issued ≤ (s.swept now).issued := Nat.le_of_eq (s.issued_swept now).symm
  cases hg with
  | nothing => exact Nat.le_refl _
  | run r => exact Nat.le_refl _
  | ended id =>
    unfold Registry.endRun
    split <;> exact Nat.le_refl _
  | swept => exact hswept
  | added => exact Nat.le_trans hswept (Nat.le_succ _)

theorem spent_handle (h : s.registry.Spent id) (now : Number) (q : Request) :
    (s.handle now q).2.registry.Spent id := h.mono (s.issued_le_handle now q)

/-- A sweep leaves the runs that it does not drop. -/
theorem entry?_swept {sub : Submission} {now : Number}
    (hkept : s.drops now id (.createRun sub) = false) :
    Registry.entry? (s.swept now) id = s.registry.entry? id := by
  unfold swept
  unfold drops Registry.get? at hkept
  cases hage : s.maxAge.number? with
  | none => rfl
  | some n =>
    refine Registry.entry?_sweep ?_
    intro e he
    simpa [hage, he] using hkept

/-- A request leaves the entry of a run alone if it neither names the run nor sweeps it. -/
theorem entry?_handle_of_other (hspent : s.registry.Spent id) {now : Number} {q : Request}
    (hother : q.run? ≠ some id) (hkept : s.drops now id q = false) :
    (s.handle now q).2.registry.entry? id = s.registry.entry? id := by
  obtain ⟨g, hs, hg⟩ := s.handle_cases now q
  rw [hs]
  cases hg with
  | nothing => rfl
  | run r hq =>
    have hne : id ≠ r.id := fun h => hother (by rw [hq, h])
    rw [Registry.entry?_update, if_neg hne]
  | ended id' =>
    have hne : id ≠ id' := fun h => hother (by rw [h]; rfl)
    exact Registry.entry?_endRun_of_ne _ now hne
  | swept => exact entry?_swept hkept
  | added sub e he =>
    -- the id of the new run was still to come
    have hne : id ≠ e.run.id := by
      rw [he, nextId_swept]
      exact hspent _ (Nat.lt_succ_self _)
    exact (Registry.entry?_add_of_ne _ hne).trans (entry?_swept hkept)

/-! ## Along a history -/

theorem sameSettings_after (s : Service) (history : History) :
    SameSettings (s.after history) s := by
  induction history generalizing s with
  | nil => exact ⟨rfl, rfl, rfl⟩
  | cons step history ih =>
    have hstep := s.sameSettings_handle step.1 step.2
    have hrest := ih (s.handle step.1 step.2).2
    exact ⟨hrest.maxBatch.trans hstep.maxBatch, hrest.maxAge.trans hstep.maxAge,
      hrest.freeSeed.trans hstep.freeSeed⟩

/-- No history brings an id into use that has not been issued. -/
theorem fresh_after (h : s.registry.Fresh) (history : History) :
    (s.after history).registry.Fresh := by
  induction history generalizing s with
  | nil => exact h
  | cons step history ih => exact ih (fresh_handle h step.1 step.2)

theorem spent_after (h : s.registry.Spent id) (history : History) :
    (s.after history).registry.Spent id := by
  induction history generalizing s with
  | nil => exact h
  | cons step history ih => exact ih (spent_handle h step.1 step.2)

/-! ## New runs -/

/-- How a new run is shown. -/
def newView (id : Value) (l : Level) (p : Program) : RunView :=
  ⟨id, .int l.number, .idle, 0, none, (p.check l.rules).warnings⟩

/-- The service after a run has been created. -/
def withNew (s : Service) (now : Number) (sub : Submission) (l : Level) (p : Program) (w : World) :
    Service :=
  { s with registry := (s.swept now).add (newEntry s.registry.nextId now sub l p w) }

/-- Once old runs are swept, a run is created if one can be made of the submission. -/
theorem createRun_eq (hfresh : s.registry.Fresh) {now : Number}
    (hsweep : s.sweep now = .ok { s with registry := s.swept now }) (sub : Submission) :
    s.createRun now sub =
      match s.plan sub with
      | .error f => (.error f, { s with registry := s.swept now })
      | .ok (l, p, w) => (.ok (newView s.registry.nextId l p), s.withNew now sub l p w) := by
  have hplan : plan { s with registry := s.swept now } sub = s.plan sub := rfl
  rw [createRun, hsweep, ← hplan]
  rcases addRun_cases { s with registry := s.swept now } now sub with
    ⟨f, hf, hadd⟩ | ⟨l, p, w, hl, hadd⟩
  · rw [hf]
    exact hadd
  · rw [hl]
    refine hadd.trans ?_
    -- the new run is found under its id, so its level is known
    have hentry := (fresh_swept hfresh now).entry?_add_self
      (e := newEntry (s.swept now).nextId now sub l p w) rfl
    dsimp only
    rw [nextId_swept] at hentry ⊢
    refine Prod.ext (congrArg Except.ok ?_) rfl
    simp only [view, newView, addEntry, newEntry, Run.new] at hentry ⊢
    rw [hentry]
    rfl

/-- A creation that succeeds adds a run under the next id. -/
theorem createRun_eq_ok (hfresh : s.registry.Fresh) {now : Number} {sub : Submission}
    {shown : RunView} {s' : Service} (h : s.createRun now sub = (.ok shown, s')) :
    ∃ l p w, s.plan sub = .ok (l, p, w) ∧ shown = newView s.registry.nextId l p ∧
      s' = s.withNew now sub l p w := by
  rcases s.sweep_cases now with hsweep | ⟨-, f, hsweep⟩
  · rw [createRun_eq hfresh hsweep] at h
    cases hplan : s.plan sub with
    | error f =>
      rw [hplan] at h
      cases h
    | ok planned =>
      obtain ⟨l, p, w⟩ := planned
      rw [hplan] at h
      cases h
      exact ⟨l, p, w, rfl, rfl, rfl⟩
  · rw [createRun, hsweep] at h
    cases h

/-- A submission that passes has a level and a program that can be read. -/
theorem examine_eq_ok {sub : Submission} {l : Level} {p : Program} (h : examine sub = .ok (l, p)) :
    requireLevel (.int sub.level) = .ok l ∧ Program.ofRecords (.list sub.program) = .ok p := by
  unfold examine at h
  split at h
  · cases h
  · next hlevel =>
    split at h
    · cases h
    · next hread =>
      split at h
      · cases h
      · split at h
        · cases h
          exact ⟨hlevel, hread⟩
        · cases h

/-- A plan has a level, a program that starts, and a world. -/
theorem plan_eq_ok {sub : Submission} {l : Level} {p : Program} {w : World}
    (h : s.plan sub = .ok (l, p, w)) :
    examine sub = .ok (l, p) ∧ s.makeWorld l sub.seed = .ok w ∧ Run.launchFault? p = none := by
  unfold plan at h
  split at h
  · cases h
  · next hexamine =>
    split at h
    · cases h
    · next hworld =>
      split at h
      · cases h
      · next hlaunch =>
        cases h
        exact ⟨hexamine, hworld, hlaunch⟩

/-- A new run is found under the id that was next. -/
theorem entry?_withNew (hfresh : s.registry.Fresh) (now : Number) (sub : Submission) (l : Level)
    (p : Program) (w : World) :
    (s.withNew now sub l p w).registry.entry? s.registry.nextId =
      some (newEntry s.registry.nextId now sub l p w) := by
  have hentry := (fresh_swept hfresh now).entry?_add_self
    (e := newEntry s.registry.nextId now sub l p w) (s.nextId_swept now).symm
  rwa [nextId_swept] at hentry

theorem spent_withNew (s : Service) (now : Number) (sub : Submission) (l : Level) (p : Program)
    (w : World) : (s.withNew now sub l p w).registry.Spent s.registry.nextId := by
  have hspent := (s.swept now).spent_nextId_add (newEntry s.registry.nextId now sub l p w)
  rwa [nextId_swept] at hspent

/-- Two steps to the right on the first level. -/
def firstSteps : Submission :=
  { level := 1, program := [.record [("type", .text "RIGHT")], .record [("type", .text "RIGHT")]] }

end Service

end GridRobot
