import GridRobot.Proofs.Service.History

/-!
# Runs do not interfere

Many clients share a service, and their requests come in any order. What a client is told of one run
is what it would be told if nobody else had asked for anything, up to the id of the run, until the
run has been over for so long that it is swept.

The proof follows two services side by side. They are twins at two ids (`Service.Twins`) if both
know the same run under these ids. Twins give the same answers to the requests on that run and stay
twins, and a request on another run that only one of them gets does not matter.
-/

namespace GridRobot

/-! ## Renaming a run -/

/-- The request on another run. -/
def Request.withRun (id : Value) : Request → Request
  | .getRun _ => .getRun id
  | .pullEvents _ limit => .pullEvents id limit
  | .cancelRun _ => .cancelRun id
  | .getOutcome _ => .getOutcome id
  | .endRun _ => .endRun id
  | q => q

/-- The reply under another id. -/
def Reply.withRun (id : Value) : Reply → Reply
  | .run view => .run { view with id := id }
  | .batch b => .batch { b with id := id }
  | .cancel view => .cancel { view with id := id }
  | .ended _ known => .ended id known
  | r => r

/-- The refusal under another id. -/
def Refusal.withRun (id : Value) : Refusal → Refusal
  | .runNotFound _ => .runNotFound id
  | .notFinished _ phase => .notFinished id phase
  | f => f

/-- An answer under another id. -/
def answerWithRun (id : Value) : Except Refusal Reply → Except Refusal Reply
  | .ok reply => .ok (reply.withRun id)
  | .error f => .error (f.withRun id)

/-- Those of the requests that are on a run, made on another one instead. -/
def History.onRun (id id' : Value) (history : History) : History :=
  history.filterMap fun (now, q) =>
    if q.run? = some id then some (now, q.withRun id') else none

def Entry.withId (id : Value) (e : Entry) : Entry := { e with run := e.run.withId id }

namespace Service

/-- A batch is refused only because its size makes no sense. -/
theorem noSize_of_batchSize {s : Service} {limit : Value} {f : Refusal}
    (h : s.batchSize limit = .error f) : ∃ most wanted, f = .noSize most wanted := by
  unfold batchSize at h
  dsimp only at h
  split at h
  · cases h
  · split at h
    all_goals
      cases h
      exact ⟨_, _, rfl⟩

/-! ## Twins -/

/-- What one service knows under an id, the other knows under another id. -/
structure Twins (id id' : Value) (s t : Service) : Prop where
  maxBatch : s.maxBatch = t.maxBatch
  entry : s.registry.entry? id = (t.registry.entry? id').map (Entry.withId id)

namespace Twins

variable {id id' : Value} {s t : Service}

/-- Twins know the same run under their own ids, or neither knows it. -/
theorem requireRun_cases (h : Twins id id' s t) (hkey : id.isKey) (hkey' : id'.isKey) :
    (s.requireRun id = .error (.runNotFound id) ∧ t.requireRun id' = .error (.runNotFound id')) ∨
      ∃ r : Run, r.id = id' ∧ s.requireRun id = .ok (r.withId id) ∧ t.requireRun id' = .ok r := by
  have hentry := h.entry
  cases he : t.registry.entry? id' with
  | none =>
    rw [he] at hentry
    exact Or.inl ⟨requireRun_of_none hkey hentry, requireRun_of_none hkey' he⟩
  | some e =>
    rw [he] at hentry
    exact Or.inr ⟨e.run, Registry.id_of_entry? he, requireRun_of_entry hkey hentry,
      requireRun_of_entry hkey' he⟩

/-- Twins stay twins if the run goes on in both. -/
theorem update (h : Twins id id' s t) {r : Run} (hr : r.id = id') :
    Twins id id' (s.update (r.withId id)) (t.update r) where
  maxBatch := h.maxBatch
  entry := by
    simp only [Service.update, Registry.entry?_update, Run.withId_id, hr, if_true, h.entry]
    cases t.registry.entry? id' <;> rfl

theorem view (h : Twins id id' s t) {r : Run} (hr : r.id = id') :
    s.view (r.withId id) = { t.view r with id := id } := by
  simp only [Service.view, Run.withId_id, hr, h.entry, Option.map_map]
  rfl

theorem batchSize (h : Twins id id' s t) (limit : Value) :
    s.batchSize limit = t.batchSize limit := by
  rw [Service.batchSize, Service.batchSize, h.maxBatch]

/-- Twins show the same run. -/
theorem handle_getRun (h : Twins id id' s t) (hkey : id.isKey) (hkey' : id'.isKey) (now : Number) :
    (s.handle now (.getRun id)).1 = answerWithRun id (t.handle now (.getRun id')).1 := by
  rw [handle, handle, getRun, getRun]
  rcases h.requireRun_cases hkey hkey' with ⟨hs, ht⟩ | ⟨r, hr, hs, ht⟩
  · rw [hs, ht]
    rfl
  · rw [hs, ht]
    exact congrArg (fun v => Except.ok (Reply.run v)) (h.view hr)

/-- Twins tell the same outcome. -/
theorem handle_getOutcome (h : Twins id id' s t) (hkey : id.isKey) (hkey' : id'.isKey)
    (now : Number) :
    (s.handle now (.getOutcome id)).1 = answerWithRun id (t.handle now (.getOutcome id')).1 := by
  rw [handle, handle, getOutcome, getOutcome]
  rcases h.requireRun_cases hkey hkey' with ⟨hs, ht⟩ | ⟨r, -, hs, ht⟩
  · rw [hs, ht]
    rfl
  · have hphase : (r.withId id).phase = r.phase := rfl
    rw [hs, ht]
    dsimp only
    rw [hphase]
    by_cases hfinished : r.phase = .finished
    · rw [if_pos hfinished, if_pos hfinished]
      rfl
    · rw [if_neg hfinished, if_neg hfinished]
      rfl

/-- Twins hand out the same events, and stay twins. -/
theorem handle_pullEvents (h : Twins id id' s t) (hkey : id.isKey) (hkey' : id'.isKey)
    (now : Number) (limit : Value) :
    (s.handle now (.pullEvents id limit)).1 =
        answerWithRun id (t.handle now (.pullEvents id' limit)).1 ∧
      Twins id id' (s.handle now (.pullEvents id limit)).2
        (t.handle now (.pullEvents id' limit)).2 := by
  rw [handle, handle, pullEvents, pullEvents, h.batchSize]
  rcases h.requireRun_cases hkey hkey' with ⟨hs, ht⟩ | ⟨r, hr, hs, ht⟩
  · rw [hs, ht]
    exact ⟨rfl, h⟩
  · rw [hs, ht]
    dsimp only
    cases hsize : t.batchSize limit with
    | error f =>
      obtain ⟨most, wanted, rfl⟩ := noSize_of_batchSize hsize
      exact ⟨rfl, h⟩
    | ok size =>
      have hcount : batchCount size (r.withId id) = batchCount size r := rfl
      have hid : (r.steps now (batchCount size r)).2.id = id' := (r.id_steps now _).trans hr
      dsimp only
      rw [hcount, Run.steps_withId]
      revert hid
      obtain ⟨f | events, r'⟩ := r.steps now (batchCount size r)
      · exact fun hid => ⟨rfl, h.update hid⟩
      · exact fun hid => ⟨rfl, h.update hid⟩

/-- Twins cancel alike, and stay twins. -/
theorem handle_cancelRun (h : Twins id id' s t) (hkey : id.isKey) (hkey' : id'.isKey)
    (now : Number) :
    (s.handle now (.cancelRun id)).1 = answerWithRun id (t.handle now (.cancelRun id')).1 ∧
      Twins id id' (s.handle now (.cancelRun id)).2 (t.handle now (.cancelRun id')).2 := by
  rw [handle, handle, cancelRun, cancelRun]
  rcases h.requireRun_cases hkey hkey' with ⟨hs, ht⟩ | ⟨r, hr, hs, ht⟩
  · rw [hs, ht]
    exact ⟨rfl, h⟩
  · rw [hs, ht]
    dsimp only
    rw [Run.cancel_withId]
    exact ⟨rfl, h.update ((r.id_cancel now).trans hr)⟩

/-- Twins end their runs alike, and stay twins. -/
theorem handle_endRun (h : Twins id id' s t) (hkey : id.isKey) (hkey' : id'.isKey)
    (now : Number) :
    (s.handle now (.endRun id)).1 = answerWithRun id (t.handle now (.endRun id')).1 ∧
      Twins id id' (s.handle now (.endRun id)).2 (t.handle now (.endRun id')).2 := by
  rw [handle, handle, endRun_eq hkey, endRun_eq hkey', h.entry, Option.isSome_map]
  refine ⟨rfl, h.maxBatch, ?_⟩
  simp only [Registry.entry?_endRun_self, Option.map_none]

/-- Twins answer a request on the run alike and stay twins. -/
theorem handle (h : Twins id id' s t) (hkey : id.isKey) (hkey' : id'.isKey) (now : Number)
    {q : Request} (hq : q.run? = some id) :
    (s.handle now q).1 = answerWithRun id (t.handle now (q.withRun id')).1 ∧
      Twins id id' (s.handle now q).2 (t.handle now (q.withRun id')).2 := by
  cases q with
  | listLevels => cases hq
  | getLevel => cases hq
  | createRun => cases hq
  | listRuns => cases hq
  | getRun =>
    cases hq
    exact ⟨h.handle_getRun hkey hkey' now, h⟩
  | getOutcome =>
    cases hq
    exact ⟨h.handle_getOutcome hkey hkey' now, h⟩
  | pullEvents =>
    cases hq
    exact h.handle_pullEvents hkey hkey' now _
  | cancelRun =>
    cases hq
    exact h.handle_cancelRun hkey hkey' now
  | endRun =>
    cases hq
    exact h.handle_endRun hkey hkey' now

/-- A request on another run, which only one of the twins gets, does not matter. -/
theorem handle_other (h : Twins id id' s t) (hspent : s.registry.Spent id) {now : Number}
    {q : Request} (hq : q.run? ≠ some id) (hkept : s.drops now id q = false) :
    Twins id id' (s.handle now q).2 t where
  maxBatch := (s.sameSettings_handle now q).maxBatch.trans h.maxBatch
  entry := (entry?_handle_of_other hspent hq hkept).trans h.entry

/-- All that is answered to requests on the run is what a twin answers that gets no others. -/
theorem answersTo (h : Twins id id' s t) (hkey : id.isKey) (hkey' : id'.isKey)
    (hspent : s.registry.Spent id) {history : History} (hspares : s.Spares id history) :
    s.answersTo id history =
      (t.answersTo id' (history.onRun id id')).map (answerWithRun id) := by
  induction history generalizing s t with
  | nil => rfl
  | cons step history ih =>
    obtain ⟨now, q⟩ := step
    obtain ⟨hkept, hspares⟩ := hspares
    have hspent' := spent_handle hspent now q
    by_cases hq : q.run? = some id
    · obtain ⟨hanswer, htwins⟩ := h.handle hkey hkey' now hq
      have hrest := ih htwins hspent' hspares
      have hq' : (q.withRun id').run? = some id' := by
        cases q with
        | listLevels | getLevel | createRun | listRuns => cases hq
        | getRun | pullEvents | cancelRun | getOutcome | endRun => rfl
      simp only [Service.answersTo, History.onRun, List.filterMap_cons, if_pos hq, if_pos hq',
        List.map_cons, hanswer] at hrest ⊢
      rw [hrest]
    · have hrest := ih (h.handle_other hspent hq hkept) hspent' hspares
      simpa only [Service.answersTo, History.onRun, List.filterMap_cons, if_neg hq] using hrest

end Twins

/-! ## Isolation -/

variable {s t : Service} {id : Value} {now ttl : Number}

/-- Only a creation sweeps a run, and only one that has been over for too long. -/
theorem exists_age_of_drops {q : Request} (hage : s.maxAge.number? = some ttl)
    (h : s.drops now id q = true) :
    ∃ sub r age, q = .createRun sub ∧ s.registry.get? id = some r ∧ r.age? now = some age ∧
      ttl.below age := by
  cases q with
  | createRun sub =>
    simp only [drops, hage] at h
    cases hr : s.registry.get? id with
    | none => simp [hr] at h
    | some r =>
      rw [hr] at h
      obtain ⟨age, hsome, hbelow⟩ := Option.any_eq_true _ _ |>.1 h
      exact ⟨sub, r, age, rfl, rfl, hsome, hbelow⟩
  | _ => cases h

/-- A plan depends on the settings only. -/
theorem plan_congr (h : SameSettings s t) (sub : Submission) : s.plan sub = t.plan sub := by
  unfold plan makeWorld
  rw [h.freeSeed]

/-- Runs that are created of one submission at one time are twins. -/
theorem twins_withNew (h : SameSettings s t) (hs : s.registry.Fresh) (ht : t.registry.Fresh)
    (now : Number) (sub : Submission) (l : Level) (p : Program) (w : World) :
    Twins s.registry.nextId t.registry.nextId (s.withNew now sub l p w)
      (t.withNew now sub l p w) where
  maxBatch := h.maxBatch
  entry := by
    rw [entry?_withNew hs, entry?_withNew ht]
    rfl

/-- Runs do not interfere. Let a run be created after any requests, and let any requests follow.
Then the answer to the creation and the answers to those of the later requests that are on the run
are, up to the id of the run, what they are if no other requests are made, as long as the run is not
swept. No other request changes the run or what is known of it, but for a creation that comes when
the run has been over for more than the seconds that the service allows. -/
theorem answers_independent_of_others (hfresh : s.registry.Fresh)
    (hage : s.maxAge.number? = some ttl) (before : History) (now : Number) (sub : Submission) :
    (∃ f, ((s.after before).createRun now sub).1 = .error f ∧
        (s.createRun now sub).1 = .error f) ∨
      ∃ view view' full alone,
        (s.after before).createRun now sub = (.ok view, full) ∧
        s.createRun now sub = (.ok view', alone) ∧
        view = { view' with id := view.id } ∧
        ∀ later, full.Spares view.id later →
          full.answersTo view.id later =
              (alone.answersTo view'.id (later.onRun view.id view'.id)).map
                (answerWithRun view.id) ∧
            ∀ now q, q.run? ≠ some view.id →
              ((full.after later).handle now q).2.registry.entry? view.id =
                  (full.after later).registry.entry? view.id ∨
                ∃ sub r age, q = .createRun sub ∧
                  (full.after later).registry.get? view.id = some r ∧
                  r.age? now = some age ∧ ttl.below age := by
  have hsettings := s.sameSettings_after before
  have hfresh' := fresh_after hfresh before
  have hage' : (s.after before).maxAge.number? = some ttl := by rw [hsettings.maxAge, hage]
  rw [createRun_eq hfresh' (sweep_eq_ok hage' now), createRun_eq hfresh (sweep_eq_ok hage now),
    plan_congr hsettings]
  -- whether the submission is refused depends on the settings alone
  cases s.plan sub with
  | error f => exact Or.inl ⟨f, rfl, rfl⟩
  | ok planned =>
    obtain ⟨l, p, w⟩ := planned
    have htwins := twins_withNew hsettings hfresh' hfresh now sub l p w
    have hspent := (s.after before).spent_withNew now sub l p w
    refine Or.inr ⟨_, _, _, _, rfl, rfl, rfl, ?_⟩
    intro later hspares
    refine ⟨htwins.answersTo (Registry.isKey_idAt _) (Registry.isKey_idAt _) hspent hspares, ?_⟩
    intro now' q hq
    cases hkept : (((s.after before).withNew now sub l p w).after later).drops now'
        (s.after before).registry.nextId q with
    | false => exact Or.inl (entry?_handle_of_other (spent_after hspent later) hq hkept)
    | true =>
      -- a request to another run drops this one only by sweeping it for its age
      refine Or.inr (exists_age_of_drops ?_ hkept)
      rw [(sameSettings_after _ later).maxAge]
      exact hage'

/-- A client makes a run and pulls an event. -/
def earlierClient : History :=
  [(0, .createRun firstSteps), (1, .pullEvents (Registry.idAt 1) (.int 1))]

/-- The requests of two clients. The run of one is cancelled and swept by a later creation while
the run of the other one goes on. -/
def twoClients : History :=
  [(3, .pullEvents (Registry.idAt 2) (.int 1)), (4, .cancelRun (Registry.idAt 1)),
    (50, .createRun firstSteps), (51, .pullEvents (Registry.idAt 2) .null),
    (52, .getRun (Registry.idAt 1)), (53, .getOutcome (Registry.idAt 2))]

theorem answers_independent_of_others_two_clients :
    let s : Service := { maxAge := .int 10 }
    let full := ((s.after earlierClient).createRun 2 firstSteps).2
    let alone := (s.createRun 2 firstSteps).2
    s.registry.Fresh ∧ s.maxAge.number? = some 10 ∧ full.Spares (Registry.idAt 2) twoClients ∧
      full.answersTo (Registry.idAt 2) twoClients =
        (alone.answersTo (Registry.idAt 1)
          (twoClients.onRun (Registry.idAt 2) (Registry.idAt 1))).map
            (answerWithRun (Registry.idAt 2)) := by
  intro s full alone
  have hspares : full.Spares (Registry.idAt 2) twoClients := by decide +kernel
  have hid : ((s.after earlierClient).createRun 2 firstSteps).1.toOption.map (·.id) =
      some (Registry.idAt 2) := by decide +kernel
  have hid' : (s.createRun 2 firstSteps).1.toOption.map (·.id) = some (Registry.idAt 1) := by
    decide +kernel
  refine ⟨Registry.fresh_empty, rfl, hspares, ?_⟩
  rcases answers_independent_of_others (s := s) Registry.fresh_empty rfl earlierClient 2
    firstSteps with ⟨f, hf, -⟩ | ⟨view, view', full', alone', hfull, halone, -, hlater⟩
  · rw [hf] at hid
    cases hid
  · rw [hfull] at hid
    rw [halone] at hid'
    have hview : view.id = Registry.idAt 2 := Option.some.inj hid
    have hview' : view'.id = Registry.idAt 1 := Option.some.inj hid'
    have hfull' : full = full' := congrArg Prod.snd hfull
    have halone' : alone = alone' := congrArg Prod.snd halone
    rw [hfull', ← hview] at hspares
    rw [hfull', halone', ← hview, ← hview']
    exact (hlater twoClients hspares).1

end Service

end GridRobot
