import GridRobot.Proofs.Program.Shape
import GridRobot.Proofs.Run.Progress
import GridRobot.Proofs.Service.History
import Mathlib.Data.List.Forall2

/-!
# Events in batches

The service hands out the events of a run in batches whose sizes the client chooses. However the
client chooses them, and whatever else the service is asked meanwhile, the batches are the pieces of
one list: the events of the program when it is run at once.

The proof has two halves that meet at `Served`, which cuts a list of events into batches. The first
half shows that the service serves batches that way, request by request. The second half reads off
`Served` what a client can rely on (`Delivers`).
-/

namespace GridRobot

/-! ## Cutting events into batches -/

/-- The batches of the given sizes cut up the events that are left. A batch that cannot be filled
tells the outcome. -/
inductive Served (o : Outcome) : List Event → List Nat → List Batch → Prop
  | nil (rest : List Event) : Served o rest [] []
  | pull {rest : List Event} {n : Nat} {b : Batch} {ns : List Nat} {bs : List Batch} (hn : 0 < n)
      (hevents : b.events = rest.take n) (hdone : b.done = decide (rest.length < n))
      (houtcome : b.outcome = if rest.length < n then some o else none)
      (hnext : Served o (rest.drop n) ns bs) : Served o rest (n :: ns) (b :: bs)

/-- What a client gets of a run with the given events and outcome if it asks for batches of the
given sizes. -/
structure Delivers (es : List Event) (o : Outcome) (sizes : List Nat) (bs : List Batch) :
    Prop where
  /-- A batch is no larger than asked for, and it is the last one iff it is smaller. -/
  sized : List.Forall₂ (fun n b => b.events.length ≤ n ∧ (b.done ↔ b.events.length < n)) sizes bs
  joined : bs.flatMap (·.events) <+: es
  /-- When the run is done, all events have been handed out. -/
  whole : ∀ (i : Nat) (b : Batch), bs[i]? = some b → b.done →
    (bs.take (i + 1)).flatMap (·.events) = es ∧ b.outcome = some o
  /-- A batch for every event and one more are enough. -/
  ends : ∀ (i : Nat) (b : Batch), bs[i]? = some b → es.length ≤ i → b.done
  stays : ∀ (i j : Nat) (b c : Batch), i < j → bs[i]? = some b → bs[j]? = some c → b.done →
    c.events = [] ∧ c.done ∧ c.outcome = b.outcome

namespace Delivers

variable {o : Outcome} {sizes : List Nat} {bs : List Batch}

theorem nil (es : List Event) (o : Outcome) : Delivers es o [] [] where
  sized := .nil
  joined := List.nil_prefix
  whole := fun _ _ hb => nomatch hb
  ends := fun _ _ hb => nomatch hb
  stays := fun _ _ _ _ _ hb => nomatch hb

/-- When nothing is left, all batches are empty and tell the outcome. -/
theorem of_nothing_left (h : Delivers [] o sizes bs) {j : Nat} {c : Batch} (hc : bs[j]? = some c) :
    c.events = [] ∧ c.done ∧ c.outcome = some o := by
  have hempty : c.events = [] := by
    have hall := List.flatMap_eq_nil_iff.1 (List.prefix_nil.1 h.joined)
    exact hall c (List.mem_of_getElem? hc)
  have hdone := h.ends j c hc (Nat.zero_le j)
  exact ⟨hempty, hdone, (h.whole j c hc hdone).2⟩

/-- One more batch in front. -/
theorem cons {rest : List Event} {n : Nat} {b : Batch} (hn : 0 < n)
    (hevents : b.events = rest.take n) (hdone : b.done = decide (rest.length < n))
    (houtcome : b.outcome = if rest.length < n then some o else none)
    (h : Delivers (rest.drop n) o sizes bs) : Delivers rest o (n :: sizes) (b :: bs) where
  sized := by
    refine .cons ?_ h.sized
    rw [hevents, hdone, List.length_take, decide_eq_true_iff]
    omega
  joined := by
    have hjoined := (List.prefix_append_right_inj (rest.take n)).2 h.joined
    rwa [List.take_append_drop, ← hevents] at hjoined
  whole := by
    intro i c hc hlast
    cases i with
    | zero =>
      -- the first batch is the last one if fewer events are left than it has room for
      cases hc
      have hshort : rest.length < n := by rwa [hdone, decide_eq_true_iff] at hlast
      refine ⟨?_, by rw [houtcome, if_pos hshort]⟩
      simp [hevents, List.take_of_length_le (Nat.le_of_lt hshort)]
    | succ i =>
      obtain ⟨hall, hc'⟩ := h.whole i c hc hlast
      refine ⟨?_, hc'⟩
      rw [List.take_succ_cons, List.flatMap_cons, hall, hevents, List.take_append_drop]
  ends := by
    intro i c hc hlong
    cases i with
    | zero =>
      cases hc
      rw [hdone, decide_eq_true_iff]
      omega
    | succ i =>
      refine h.ends i c hc ?_
      rw [List.length_drop]
      omega
  stays := by
    intro i j c d hij hc hd hlast
    cases j with
    | zero => exact absurd hij (Nat.not_lt_zero i)
    | succ j =>
      cases i with
      | succ i => exact h.stays i j c d (Nat.lt_of_succ_lt_succ hij) hc hd hlast
      | zero =>
        cases hc
        have hshort : rest.length < n := by rwa [hdone, decide_eq_true_iff] at hlast
        rw [List.drop_eq_nil_of_le (Nat.le_of_lt hshort)] at h
        rw [houtcome, if_pos hshort]
        exact h.of_nothing_left hd

end Delivers

/-- A run that is served in batches is delivered. -/
theorem Served.delivers {o : Outcome} {rest : List Event} {sizes : List Nat} {bs : List Batch}
    (h : Served o rest sizes bs) : Delivers rest o sizes bs := by
  induction h with
  | nil rest => exact .nil rest o
  | pull hn hevents hdone houtcome hnext ih => exact .cons hn hevents hdone houtcome ih

/-! ## Serving a batch -/

variable {p : Program} {w : World} {g : Goal} {es rest : List Event} {o : Outcome}

namespace Run

/-- The run is on its track and not cancelled, and some events are left. -/
structure Serves (p : Program) (w : World) (g : Goal) (es : List Event) (o : Outcome)
    (rest : List Event) (ended : Bool) (r : Run) : Prop where
  tracks : r.Tracks p w g es (.ok o)
  kept : r.phase ≠ .cancelled
  left : r.trace ++ rest = es
  active : r.isActive = !ended

namespace Serves

variable {r : Run} {ended : Bool}

/-- A run that is served is finished exactly if the end was told. -/
theorem finished_iff (h : r.Serves p w g es o rest ended) : r.phase = .finished ↔ ended := by
  have hactive := h.active
  cases ended with
  | true =>
    rcases isActive_eq_false_iff.1 hactive with hphase | hphase
    · exact ⟨fun _ => rfl, fun _ => hphase⟩
    · exact absurd hphase h.kept
  | false =>
    refine ⟨fun hphase => ?_, fun hended => nomatch hended⟩
    rw [isActive_eq_false_iff.2 (.inl hphase)] at hactive
    cases hactive

/-- A run that is served has its outcome when the end was told, and not before. -/
theorem outcome_eq (h : r.Serves p w g es o rest ended) :
    r.outcome = if ended then some o else none := by
  rw [h.tracks.outcome_eq]
  simp only [h.finished_iff, Except.toOption]

theorem left_eq_nil (h : r.Serves p w g es o rest true) : rest = [] := by
  have htrace := (h.tracks.finished (h.finished_iff.2 rfl)).2.1
  have hleft := h.left
  rw [htrace] at hleft
  exact List.append_right_eq_self.1 hleft

/-- The next batch is the next piece of what is left, and the run is over if the batch cannot be
filled. -/
theorem steps (hrun : p.run w g = .ok (es, o)) (h : r.Serves p w g es o rest ended) (now : Number)
    {n : Nat} (hn : 0 < n) :
    ∃ r' : Run, r.steps now n = (.ok (rest.take n), r') ∧ r'.id = r.id ∧
      r'.Serves p w g es o (rest.drop n) (decide (rest.length < n)) := by
  obtain ⟨got, r', hsteps, htracks, hyields, hlen, hiff⟩ := h.tracks.steps hrun now n
  have hkept : r'.phase ≠ .cancelled := fun hphase => h.kept (hyields.cancelled hphase)
  obtain ⟨tail, htail⟩ := htracks.trace_prefix (Program.run_eq_ok_iff_course.1 hrun)
  have hrest : rest = got ++ tail := by
    have hjoined : r.trace ++ (got ++ tail) = r.trace ++ rest := by
      rw [← List.append_assoc, ← hyields.trace, htail, h.left]
    exact (List.append_cancel_left hjoined).symm
  cases hactive : r'.isActive with
  | true =>
    -- a run that is still active has given as many events as it was asked for
    have hfull : got.length = n := (hiff.1 hactive).2
    have hlong : ¬ rest.length < n := by
      rw [hrest, List.length_append]
      omega
    have htake : rest.take n = got := by rw [hrest, List.take_left' hfull]
    have hdrop : rest.drop n = tail := by rw [hrest, List.drop_left' hfull]
    rw [htake, hdrop, decide_eq_false hlong]
    exact ⟨r', hsteps, hyields.id, htracks, hkept, htail, hactive⟩
  | false =>
    -- the run is finished, so no events are left
    have hphase : r'.phase = .finished :=
      (isActive_eq_false_iff.1 hactive).resolve_right hkept
    have hnil : tail = [] := by
      rw [(htracks.finished hphase).2.1] at htail
      exact List.append_right_eq_self.1 htail
    have hgot : rest = got := by rw [hrest, hnil, List.append_nil]
    have hshort : rest.length < n := by
      rw [hgot]
      cases hbefore : r.isActive with
      | true =>
        have hne : got.length ≠ n := fun hfull => by
          rw [hiff.2 ⟨hbefore, hfull⟩] at hactive
          cases hactive
        omega
      | false =>
        have hsame := hyields.trace
        rw [hyields.settled hbefore] at hsame
        rw [List.append_right_eq_self.1 hsame.symm]
        exact hn
    have htake : rest.take n = got := by rw [List.take_of_length_le (Nat.le_of_lt hshort), hgot]
    have hdrop : rest.drop n = tail := by rw [List.drop_eq_nil_of_le (Nat.le_of_lt hshort), hnil]
    rw [htake, hdrop, decide_eq_true hshort]
    exact ⟨r', hsteps, hyields.id, htracks, hkept, htail, hactive⟩

end Serves

end Run

/-! ## Sizes -/

/-- The size of the batch that a limit asks for, where the service gives no more than a maximum. -/
def Value.sizeWithin (max : Int) : Value → Nat
  | .int n => (min n max).toNat
  | _ => max.toNat

/-- The size of the batch that a request pulls from a run. -/
def Request.size? (id : Value) (max : Int) : Request → Option Nat
  | .pullEvents pulled limit => if pulled = id then some (limit.sizeWithin max) else none
  | _ => none

/-- A request about another run pulls nothing from this one. -/
theorem Request.size?_of_other {id : Value} {max : Int} {q : Request} (hq : q.run? ≠ some id) :
    q.size? id max = none := by
  cases q with
  | pullEvents pulled limit => exact if_neg fun h => hq (congrArg some h)
  | _ => rfl

/-- The request neither cancels nor ends a run, and it pulls from the run without a limit or with a
positive one. -/
def Request.Harmless (id : Value) : Request → Prop
  | .cancelRun other | .endRun other => other ≠ id
  | .pullEvents pulled limit => pulled = id → limit = .null ∨ ∃ n : Int, 1 ≤ n ∧ limit = .int n
  | _ => True

/-- The sizes of the batches that are pulled from a run. -/
def History.sizes (id : Value) (max : Int) (history : History) : List Nat :=
  history.filterMap fun (_, q) => q.size? id max

namespace Service

variable {s : Service} {id limit : Value} {max : Int}

/-- A batch is as large as was asked for, within what the service allows. -/
theorem batchSize_eq (hmax : s.maxBatch = .int max) (hpos : 1 ≤ max)
    (hlimit : limit = .null ∨ ∃ n : Int, 1 ≤ n ∧ limit = .int n) :
    0 < limit.sizeWithin max ∧ ∃ size, s.batchSize limit = .ok size ∧
      ∀ r, batchCount size r = limit.sizeWithin max := by
  unfold batchSize
  rcases hlimit with rfl | ⟨n, hn, rfl⟩
  · refine ⟨?_, .int max, ?_, fun r => rfl⟩
    · simp only [Value.sizeWithin]
      omega
    · simp [hmax, Value.isTruthy, Value.number?]
  · have htruthy : Value.isTruthy (.int n) := by
      simp only [Value.isTruthy, decide_eq_true_iff]
      omega
    have hsize : (if max < n then Number.int max else .int n) = .int (min n max) := by
      split
      · rw [Int.min_eq_right (by omega)]
      · rw [Int.min_eq_left (by omega)]
    refine ⟨?_, .int (min n max), ?_, fun r => rfl⟩
    · simp only [Value.sizeWithin]
      omega
    · simp only [htruthy, if_true, hmax, Value.number?, Number.below_int, decide_eq_true_iff, hsize]

/-- The batch with which a request on a run is answered. -/
def batchTo? (id : Value) (s : Service) (now : Number) (q : Request) : Option Batch :=
  match q.run? == some id, (s.handle now q).1 with
  | true, .ok (.batch b) => some b
  | _, _ => none

/-- The batches of a run that are handed out along a history. -/
def batches (id : Value) (s : Service) : History → List Batch
  | [] => []
  | (now, q) :: history =>
    (s.batchTo? id now q).toList ++ (s.handle now q).2.batches id history

/-! ## Along a history -/

/-- A run with the given id is registered, and it is on its track. -/
def Knows (p : Program) (w : World) (g : Goal) (es : List Event) (o : Outcome) (id : Value)
    (rest : List Event) (ended : Bool) (s : Service) : Prop :=
  ∃ e, s.registry.entry? id = some e ∧ e.run.Serves p w g es o rest ended

variable {ended : Bool}

/-- A request on another run has no part in the batches. -/
theorem batchTo?_of_other {q : Request} (hq : q.run? ≠ some id) (now : Number) :
    s.batchTo? id now q = none := by
  have hne : (q.run? == some id) = false := by simpa using hq
  rw [batchTo?, hne]

/-- Pulling from a run serves the next batch. -/
theorem Knows.pull (hrun : p.run w g = .ok (es, o)) (hkey : id.isKey)
    (hmax : s.maxBatch = .int max) (hpos : 1 ≤ max)
    (hlimit : limit = .null ∨ ∃ n : Int, 1 ≤ n ∧ limit = .int n)
    (h : s.Knows p w g es o id rest ended) (now : Number) :
    ∃ b, s.batchTo? id now (.pullEvents id limit) = some b ∧
      b.events = rest.take (limit.sizeWithin max) ∧
      b.done = decide (rest.length < limit.sizeWithin max) ∧
      b.outcome = (if rest.length < limit.sizeWithin max then some o else none) ∧
      (s.handle now (.pullEvents id limit)).2.Knows p w g es o id
        (rest.drop (limit.sizeWithin max)) b.done := by
  obtain ⟨e, he, hserves⟩ := h
  obtain ⟨hsize, size, hbatch, hcount⟩ := batchSize_eq hmax hpos hlimit
  obtain ⟨r, hsteps, hid, hserves'⟩ := hserves.steps hrun now hsize
  have hpull : s.pullEvents now id limit =
      (.ok (batchOf r (rest.take (limit.sizeWithin max))), s.update r) := by
    rw [pullEvents_of_entry hkey he, hbatch]
    dsimp only
    rw [hcount, hsteps]
  have hdone : (batchOf r (rest.take (limit.sizeWithin max))).done =
      decide (rest.length < limit.sizeWithin max) := by
    rw [batchOf, hserves'.active, Bool.not_not]
  refine ⟨_, ?_, rfl, hdone, ?_, ?_⟩
  · rw [batchTo?, handle, hpull]
    simp [Request.run?, Except.map]
  · rw [batchOf, hserves'.outcome_eq]
    simp
  · rw [handle, hpull, hdone]
    exact ⟨_, entry?_update_self he (hid.trans (Registry.id_of_entry? he)), hserves'⟩

/-- A harmless request serves the next batch, or it has no part in the batches and leaves the run as
it is. -/
theorem Knows.handle (hrun : p.run w g = .ok (es, o)) (hkey : id.isKey)
    (hmax : s.maxBatch = .int max) (hpos : 1 ≤ max) (hspent : s.registry.Spent id) {now : Number}
    {q : Request} (hq : q.Harmless id) (hkept : s.drops now id q = false)
    (h : s.Knows p w g es o id rest ended) :
    (s.batchTo? id now q = none ∧ q.size? id max = none ∧
        (s.handle now q).2.Knows p w g es o id rest ended) ∨
      ∃ n b, s.batchTo? id now q = some b ∧ q.size? id max = some n ∧ 0 < n ∧
        b.events = rest.take n ∧ b.done = decide (rest.length < n) ∧
        b.outcome = (if rest.length < n then some o else none) ∧
        (s.handle now q).2.Knows p w g es o id (rest.drop n) b.done := by
  -- only pulls of the run itself take events from it
  by_cases hother : q.run? = some id
  · cases q with
    | listLevels => cases hother
    | getLevel => cases hother
    | createRun => cases hother
    | listRuns => cases hother
    | cancelRun => exact absurd (Option.some.inj hother) hq
    | endRun => exact absurd (Option.some.inj hother) hq
    | getRun =>
      refine Or.inl ⟨?_, rfl, h⟩
      rw [batchTo?, Service.handle]
      cases s.getRun _ <;> simp [Except.map]
    | getOutcome =>
      refine Or.inl ⟨?_, rfl, h⟩
      rw [batchTo?, Service.handle]
      cases s.getOutcome _ <;> simp [Except.map]
    | pullEvents pulled limit =>
      cases hother
      have hlimit := hq rfl
      have hsize := (batchSize_eq hmax hpos hlimit).1
      obtain ⟨b, hb, hserved⟩ := h.pull hrun hkey hmax hpos hlimit now
      exact Or.inr ⟨_, b, hb, if_pos rfl, hsize, hserved⟩
  · obtain ⟨e, he, hserves⟩ := h
    have hentry := (entry?_handle_of_other hspent hother hkept).trans he
    exact Or.inl ⟨batchTo?_of_other hother now, Request.size?_of_other hother, e, hentry, hserves⟩

/-- Along a history of harmless requests the events that are left are served batch by batch. -/
theorem Knows.served (hrun : p.run w g = .ok (es, o)) (hkey : id.isKey)
    (hmax : s.maxBatch = .int max) (hpos : 1 ≤ max) (hspent : s.registry.Spent id)
    {history : History} (hharmless : ∀ step ∈ history, step.2.Harmless id)
    (hspares : s.Spares id history) (h : s.Knows p w g es o id rest ended) :
    Served o rest (history.sizes id max) (s.batches id history) ∧
      ∃ rest', (s.batches id history).flatMap (·.events) ++ rest' = rest ∧
        (s.after history).Knows p w g es o id rest'
          (ended || (s.batches id history).any (·.done)) := by
  induction history generalizing s rest ended with
  | nil =>
    refine ⟨.nil rest, rest, rfl, ?_⟩
    simpa [batches, after] using h
  | cons step history ih =>
    obtain ⟨now, q⟩ := step
    obtain ⟨hkept, hspares⟩ := hspares
    obtain ⟨hq, hharmless⟩ := List.forall_mem_cons.1 hharmless
    have hmax' : (s.handle now q).2.maxBatch = .int max :=
      (s.sameSettings_handle now q).maxBatch.trans hmax
    have hspent' := spent_handle hspent now q
    rcases h.handle hrun hkey hmax hpos hspent hq hkept with
      ⟨hbatch, hsize, hknows⟩ | ⟨n, b, hbatch, hsize, hn, hevents, hdone, houtcome, hknows⟩
    · have hrest := ih hmax' hspent' hharmless hspares hknows
      simpa [batches, hbatch, History.sizes, hsize, after] using hrest
    · obtain ⟨hserved, rest', hleft, hknows'⟩ := ih hmax' hspent' hharmless hspares hknows
      simp only [batches, hbatch, History.sizes, List.filterMap_cons, hsize, Option.toList_some,
        List.singleton_append, List.flatMap_cons, List.any_cons]
      refine ⟨.pull hn hevents hdone houtcome hserved, rest', ?_, ?_⟩
      · rw [List.append_assoc, hleft, hevents, List.take_append_drop]
      · cases ended with
        | false => exact hknows'
        | true =>
          -- once the run is over, every batch says so
          obtain ⟨e, -, hserves⟩ := h
          rw [hserves.left_eq_nil, List.length_nil, decide_eq_true hn] at hdone
          rwa [hdone, Bool.true_or] at hknows'

/-! ## Batches refine the plain run -/

/-- All events of a new run are left. What was read has no nodes of derived classes, so the program
runs to its end. -/
theorem knows_withNew (hfresh : s.registry.Fresh) (hlaunch : Run.launchFault? p = none)
    {data : Value} (hread : Program.ofRecords data = .ok p) (now : Number) (sub : Submission)
    (l : Level) (w : World) :
    ∃ es o, p.run w l.goal = .ok (es, o) ∧
      (s.withNew now sub l p w).Knows p w l.goal es o s.registry.nextId es false := by
  have hnew : Run.launch s.registry.nextId now p w l.goal =
      .ok (Run.new s.registry.nextId now p w l.goal) := by
    rw [Run.launch, hlaunch]
  have hgenuine := (Program.wellShaped_of_ofRecords hread).genuine
  obtain ⟨es, o, hrun⟩ :=
    Program.run_ok_of_genuine (Run.launch_eq_ok hnew).2 hgenuine w l.goal
  refine ⟨es, o, hrun, _, entry?_withNew hfresh now sub l p w, ?_⟩
  exact {
    tracks := Run.tracks_new _ now p w l.goal es (.ok o)
    kept := fun hphase => nomatch hphase
    left := rfl
    active := rfl }

/-- The view of a run tells how many events were handed out, and the outcome at the end. -/
theorem Knows.getRun (hkey : id.isKey) (h : s.Knows p w g es o id rest ended)
    {got : List Event} (hgot : got ++ rest = es) :
    ∃ shown, s.getRun id = .ok shown ∧ shown.emitted = got.length ∧
      shown.outcome = if ended then some o else none := by
  obtain ⟨e, he, hserves⟩ := h
  have htrace : e.run.trace = got := List.append_cancel_right (hserves.left.trans hgot.symm)
  refine ⟨_, getRun_of_entry hkey he, ?_, hserves.outcome_eq⟩
  rw [entryView, hserves.tracks.eventCount_eq, htrace]

/-- At the end the outcome can be asked for. -/
theorem Knows.getOutcome (hkey : id.isKey) (h : s.Knows p w g es o id rest ended)
    (hended : ended) : s.getOutcome id = .ok (some o) := by
  obtain ⟨e, he, hserves⟩ := h
  rw [getOutcome_of_entry hkey he, if_pos (hserves.finished_iff.2 hended), hserves.outcome_eq,
    if_pos hended]

/-- Batch boundaries do not matter. A run that has been created is one of the program, on the world
of the level for the seed, with the events and the outcome that the program has when it is run at
once. Let any requests follow that do not cancel, end or sweep the run, in which batches are pulled
with any positive limits. Then the batches are the pieces of these events, the last of them comes
with the outcome, and the run is shown with as many events as have been handed out. -/
theorem batches_refine_plain_run {s' : Service} {now : Number} {sub : Submission}
    {shown : RunView} (hfresh : s.registry.Fresh) (hmax : s.maxBatch = .int max) (hpos : 1 ≤ max)
    (hcreate : s.createRun now sub = (.ok shown, s')) :
    ∃ l p w es o, requireLevel (.int sub.level) = .ok l ∧
      Program.ofRecords (.list sub.program) = .ok p ∧ s.makeWorld l sub.seed = .ok w ∧
      p.run w l.goal = .ok (es, o) ∧
      ∀ history : History, (∀ step ∈ history, step.2.Harmless shown.id) →
        s'.Spares shown.id history →
        let bs := s'.batches shown.id history
        Delivers es o (history.sizes shown.id max) bs ∧
          (∃ view, (s'.after history).getRun shown.id = .ok view ∧
            view.emitted = (bs.flatMap (·.events)).length ∧
            view.outcome = if bs.any (·.done) then some o else none) ∧
          (bs.any (·.done) → (s'.after history).getOutcome shown.id = .ok (some o)) := by
  obtain ⟨l, p, w, hplan, rfl, rfl⟩ := createRun_eq_ok hfresh hcreate
  obtain ⟨hexamine, hworld, hlaunch⟩ := plan_eq_ok hplan
  obtain ⟨hlevel, hread⟩ := examine_eq_ok hexamine
  obtain ⟨es, o, hrun, hknows⟩ := knows_withNew hfresh hlaunch hread now sub l w
  refine ⟨l, p, w, es, o, hlevel, hread, hworld, hrun, ?_⟩
  intro history hharmless hspares
  have hkey : s.registry.nextId.isKey := Registry.isKey_idAt _
  have hmax' : (s.withNew now sub l p w).maxBatch = .int max := hmax
  have hspent := s.spent_withNew now sub l p w
  obtain ⟨hserved, rest, hleft, hend⟩ :=
    hknows.served hrun hkey hmax' hpos hspent hharmless hspares
  rw [Bool.false_or] at hend
  exact ⟨hserved.delivers, hend.getRun hkey hleft, fun hdone => hend.getOutcome hkey hdone⟩

/-- Three pulls from a run, with a larger limit than the service allows among them, while another
run is made and cancelled. -/
def threePulls : History :=
  [(1, .pullEvents (Registry.idAt 1) (.int 1)), (2, .createRun firstSteps),
    (3, .cancelRun (Registry.idAt 2)), (4, .pullEvents (Registry.idAt 1) (.int 5)),
    (5, .pullEvents (Registry.idAt 1) .null)]

/-- Those pulls deliver the run, though another client makes and cancels one of its own in between.
-/
theorem batches_refine_plain_run_three_pulls :
    let s : Service := { maxBatch := .int 2 }
    s.registry.Fresh ∧ s.maxBatch = .int 2 ∧ (1 : Int) ≤ 2 ∧
      ∃ shown s' es o, s.createRun 0 firstSteps = (.ok shown, s') ∧
        (∀ step ∈ threePulls, step.2.Harmless shown.id) ∧ s'.Spares shown.id threePulls ∧
        Delivers es o [1, 2, 2] (s'.batches shown.id threePulls) ∧
        (s'.after threePulls).getOutcome shown.id = .ok (some o) := by
  intro s
  have hfresh : s.registry.Fresh := Registry.fresh_empty
  have hid : (s.createRun 0 firstSteps).1.toOption.map (·.id) = some (Registry.idAt 1) := by
    decide +kernel
  have hspares : (s.createRun 0 firstSteps).2.Spares (Registry.idAt 1) threePulls := by
    decide +kernel
  have hdone :
      ((s.createRun 0 firstSteps).2.batches (Registry.idAt 1) threePulls).any (·.done) := by
    decide +kernel
  have hharmless : ∀ step ∈ threePulls, step.2.Harmless (Registry.idAt 1) := by
    simp [threePulls, Request.Harmless, Registry.idAt_inj]
  cases hcreate : s.createRun 0 firstSteps with
  | mk answer s' =>
    rw [hcreate] at hid hspares hdone
    cases answer with
    | error f => cases hid
    | ok shown =>
      have hshown : shown.id = Registry.idAt 1 := Option.some.inj hid
      rw [← hshown] at hspares hdone hharmless
      obtain ⟨l, p, w, es, o, -, -, -, -, hall⟩ :=
        batches_refine_plain_run hfresh rfl (by decide) hcreate
      obtain ⟨hdelivers, -, houtcome⟩ := hall threePulls hharmless hspares
      rw [hshown] at hdelivers
      refine ⟨hfresh, rfl, by decide, shown, s', es, o, rfl, hharmless, hspares, ?_,
        houtcome hdone⟩
      rw [hshown]
      exact hdelivers

end Service

end GridRobot
