import GridRobot.Proofs.Registry.Session

/-!
# The registry over time

What the registry lists is settled by what was started, ended and swept, whoever drove the runs in
the meantime. The lists are told from what the orders gave and from the runs as their hosts see
them.

* `Session.ids_perform`, `Session.ids_after`: which ids one order, or many, leave in the registry;
* `Session.activeIds_eq`: which of them are listed as active;
* `Session.Exact`: what can be relied on at any time (`Session.Sound.exact`).
-/

namespace GridRobot.Session

variable {κ : Type}

/-! ## What is told about a session -/

/-- Is the run with an id idle or running? -/
def isActive (s : Session κ) (id : Value) : Bool :=
  (s.run? id).any (fun r => r.phase = .idle || r.phase = .running)

/-- Has the run with an id been finished or cancelled, more than so many seconds ago? -/
def isOutdated (s : Session κ) (now maxAge : Number) (id : Value) : Bool :=
  (s.run? id).any (fun r => (r.phase = .finished || r.phase = .cancelled) &&
    r.finishedAt.any (fun time => maxAge.below (now.sub time)))

variable [Coordinate κ]

/-- The ids that an order takes from the registry: the one that is said to be ended, or those of the
runs that a sweep finds outdated. -/
def removedBy (now : Number) (s : Session κ) : Order κ → List Value
  | .endRun id =>
    match (s.perform now (.endRun id)).1 with
    | .ended true => [.text id]
    | _ => []
  | .sweep maxAge =>
    match maxAge.number? with
    | some n => s.registry.ids.filter (s.isOutdated now n)
    | none => []
  | .start .. | .cancel _ | .call .. => []

/-- The ids of the runs that some orders start. -/
def started (s : Session κ) : List (Number × Order κ) → List Value
  | [] => []
  | (now, order) :: orders =>
    (s.perform now order).1.started?.toList ++ (s.perform now order).2.started orders

/-- The ids that some orders take from the registry. -/
def removed (s : Session κ) : List (Number × Order κ) → List Value
  | [] => []
  | (now, order) :: orders => s.removedBy now order ++ (s.perform now order).2.removed orders

/-! ## One order -/

variable {s : Session κ} {id : Value}

/-- A run is outdated if the registry takes it for stale. -/
theorem isStale_eq (h : s.Sound) {e : Entry κ} (he : e ∈ s.registry.entries) (now maxAge : Number) :
    Registry.isStale now maxAge e.run = s.isOutdated now maxAge e.run.id := by
  have hrun : s.run? e.run.id = some e.run := run?_of_get? (Registry.get?_of_mem h.nodup he)
  rw [isOutdated, hrun, Option.any_some, Registry.isStale, Run.age?]
  cases e.run.phase <;> cases e.run.finishedAt <;> simp [Phase.isTerminal]

/-- A run in the registry is active exactly if the session says so. -/
theorem isActive_eq (h : s.Sound) {e : Entry κ} (he : e ∈ s.registry.entries) :
    e.run.isActive = s.isActive e.run.id := by
  have hrun : s.run? e.run.id = some e.run := run?_of_get? (Registry.get?_of_mem h.nodup he)
  rw [isActive, hrun, Option.any_some, Run.isActive]
  cases e.run.phase <;> rfl

/-- The runs that are listed as active are those of the listed runs that are idle or running. -/
theorem activeIds_eq (h : s.Sound) : s.registry.activeIds = s.registry.ids.filter s.isActive := by
  rw [← s.registry.ids_filter s.isActive, Registry.activeIds]
  exact congrArg _ (List.filter_congr (fun e he => isActive_eq h he))

/-- A sweep takes from the registry the ids that are outdated. -/
theorem sweep_spec (h : s.Sound) (now n : Number) :
    (s.registry.sweep now n).1.map (·.id) = s.registry.ids.filter (s.isOutdated now n) ∧
      (s.registry.sweep now n).2.ids =
        s.registry.ids.filter (fun id => !s.isOutdated now n id) := by
  constructor
  · rw [← s.registry.ids_filter (s.isOutdated now n), Registry.sweep, List.map_map]
    exact congrArg _ (List.filter_congr (fun e he => isStale_eq h he now n))
  · rw [← s.registry.ids_filter (fun id => !s.isOutdated now n id)]
    refine congrArg _ (List.filter_congr ?_)
    intro e he
    rw [isStale_eq h he]

/-- What one order leaves in the registry: the ids that were there and the one that is started, but
those that it takes away. -/
theorem ids_perform (h : s.Sound) (now : Number) (order : Order κ) :
    (s.perform now order).2.registry.ids =
      (s.registry.ids ++ (s.perform now order).1.started?.toList).filter
        (fun id => id ∉ s.removedBy now order) := by
  cases order with
  | start p w goal level seed =>
    rcases s.start_cases now p w goal level seed with ⟨f, -, hstart⟩ | ⟨-, hstart⟩
    · simp [hstart, removedBy, Receipt.started?]
    · rw [hstart, Registry.ids_add]
      simp [removedBy, Receipt.started?, Run.new]
  | cancel id =>
    rcases s.cancel_cases now id with ⟨-, hcancel⟩ | ⟨r, -, hcancel⟩
    · simp [hcancel, removedBy, Receipt.started?]
    · simp [hcancel, removedBy, Receipt.started?, Registry.ids_update]
  | endRun id =>
    rcases s.endRun_cases now id with ⟨-, hend⟩ | ⟨r, -, hend⟩
    · simp [hend, removedBy, Receipt.started?]
    · rw [removedBy, hend]
      dsimp only [Receipt.started?, Option.toList]
      rw [Registry.ids_endRun, List.append_nil]
      simp
  | sweep maxAge =>
    cases hnumber : maxAge.number? with
    | none =>
      rw [s.sweep_of_none now hnumber, started?_sweep, removedBy, hnumber]
      simp
    | some n =>
      rw [s.sweep_of_number now hnumber, removedBy, hnumber]
      dsimp only [Receipt.started?, Option.toList]
      rw [(sweep_spec h now n).2, List.append_nil]
      -- what is removed by a sweep are the outdated ones among the ids that were there
      apply List.filter_congr
      intro i hi
      simp [hi]
  | call id c =>
    rcases s.call_cases now id c with ⟨-, hcall⟩ | ⟨r, -, hcall⟩
    · simp [hcall, removedBy, Receipt.started?]
    · simp [hcall, removedBy, Receipt.started?, drive, Registry.ids_update]

/-! ## Orders in a row -/

/-- A session stays sound whatever is ordered. -/
theorem sound_after (h : s.Sound) (orders : List (Number × Order κ)) : (s.after orders).Sound := by
  induction orders generalizing s with
  | nil => exact h
  | cons timed orders ih => exact ih (h.perform timed.1 timed.2)

/-- The id that an order starts is the next one, and what is spent stays so. -/
theorem issued_perform (s : Session κ) (now : Number) (order : Order κ) :
    s.registry.issued ≤ (s.perform now order).2.registry.issued ∧
      ∀ id ∈ (s.perform now order).1.started?, ¬ s.registry.Spent id := by
  have hnothing {receipt : Receipt κ} (h : receipt.started? = none) :
      ∀ id ∈ receipt.started?, ¬ s.registry.Spent id := by
    rw [h]
    rintro id ⟨⟩
  cases order with
  | start p w goal level seed =>
    rcases s.start_cases now p w goal level seed with ⟨f, -, hstart⟩ | ⟨-, hstart⟩
    · rw [hstart]
      exact ⟨Nat.le_refl _, hnothing rfl⟩
    · rw [hstart]
      refine ⟨Nat.le_succ _, ?_⟩
      -- the id that was next is issued now, so it cannot have been spent before
      rintro id ⟨⟩ hspent
      exact hspent _ (Nat.lt_succ_self _) rfl
  | cancel id =>
    rcases s.cancel_cases now id with ⟨-, hcancel⟩ | ⟨r, -, hcancel⟩
    · rw [hcancel]
      exact ⟨Nat.le_refl _, hnothing rfl⟩
    · rw [hcancel]
      exact ⟨Nat.le_refl _, hnothing rfl⟩
  | endRun id =>
    rcases s.endRun_cases now id with ⟨-, hend⟩ | ⟨r, hget, hend⟩
    · rw [hend]
      exact ⟨Nat.le_refl _, hnothing rfl⟩
    · rw [hend, Registry.endRun_of_get? hget]
      exact ⟨Nat.le_refl _, hnothing rfl⟩
  | sweep maxAge =>
    cases hnumber : maxAge.number? with
    | none =>
      rw [s.sweep_of_none now hnumber, started?_sweep]
      refine ⟨Nat.le_refl _, ?_⟩
      rintro id ⟨⟩
    | some n =>
      rw [s.sweep_of_number now hnumber]
      exact ⟨Nat.le_refl _, hnothing rfl⟩
  | call id c =>
    rcases s.call_cases now id c with ⟨-, hcall⟩ | ⟨r, -, hcall⟩
    · rw [hcall]
      exact ⟨Nat.le_refl _, hnothing rfl⟩
    · rw [hcall]
      exact ⟨Nat.le_refl _, hnothing rfl⟩

/-- No id that is spent is started again. -/
theorem not_spent_of_started {orders : List (Number × Order κ)} (h : id ∈ s.started orders) :
    ¬ s.registry.Spent id := by
  induction orders generalizing s with
  | nil => cases h
  | cons timed orders ih =>
    rcases s.issued_perform timed.1 timed.2 with ⟨hle, hnext⟩
    rcases List.mem_append.1 h with hnow | hlater
    · exact hnext id (Option.mem_toList.1 hnow)
    · intro hspent
      exact ih hlater (hspent.mono hle)

theorem mem_ids_of_removedBy {now : Number} {order : Order κ} (h : id ∈ s.removedBy now order) :
    id ∈ s.registry.ids := by
  cases order with
  | endRun i =>
    rcases s.endRun_cases now i with ⟨-, hend⟩ | ⟨r, hget, hend⟩
    · rw [removedBy, hend] at h
      cases h
    · rw [removedBy, hend] at h
      rw [List.mem_singleton.1 h]
      exact Registry.mem_ids_iff.2 ⟨r, hget⟩
  | sweep maxAge =>
    rw [removedBy] at h
    split at h
    · exact (List.mem_filter.1 h).1
    · cases h
  | start | cancel | call => cases h

/-- What is listed after some orders: the ids that were there and those that were started, but those
that were taken away. -/
theorem ids_after (h : s.Sound) (orders : List (Number × Order κ)) :
    (s.after orders).registry.ids =
      (s.registry.ids ++ s.started orders).filter (fun id => id ∉ s.removed orders) := by
  induction orders generalizing s with
  | nil => simp [after, started, removed]
  | cons timed orders ih =>
    rcases timed with ⟨now, order⟩
    rw [after, ih (h.perform now order), ids_perform h, started, removed, ← List.append_assoc,
      List.filter_append _ ((s.perform now order).2.started orders),
      List.filter_append _ ((s.perform now order).2.started orders), List.filter_filter]
    -- what is started later cannot have been taken away before
    have hlater : ∀ id ∈ (s.perform now order).2.started orders, id ∉ s.removedBy now order := by
      intro id hstarted hremoved
      apply not_spent_of_started hstarted
      rcases List.mem_map.1 (mem_ids_of_removedBy hremoved) with ⟨e, he, rfl⟩
      exact (h.fresh e he).mono (s.issued_perform now order).1
    congr 1
    · apply List.filter_congr
      intro id _
      simp [not_or, and_comm]
    · apply List.filter_congr
      intro id hid
      simp [hlater id hid]

/-! ## What can be relied on -/

/-- What a host may rely on at any time, when some ids were started so far and some were taken
away. -/
structure Exact (started removed : List Value) (s : Session κ) : Prop where
  /-- The registry lists what was started and not taken away, in the order of creation. -/
  ids_eq : s.registry.ids = started.filter (fun id => id ∉ removed)
  nodup : s.registry.ids.Nodup
  activeIds_eq : s.registry.activeIds = s.registry.ids.filter s.isActive
  /-- The end of a run is stamped when it is finished or cancelled, and not before. -/
  stamped : ∀ id r, s.run? id = some r →
    (r.finishedAt.isSome ↔ r.phase = .finished ∨ r.phase = .cancelled)
  /-- A run that cannot be started adds nothing. -/
  refuses : ∀ now p w goal level seed f,
    (s.perform now (.start p w goal level seed)).1 = .refused f →
      (s.perform now (.start p w goal level seed)).2 = s
  /-- A sweep takes away exactly what is outdated, and tells how many that are. -/
  sweeps : ∀ now maxAge n, maxAge.number? = some n →
    (s.perform now (.sweep maxAge)).1 =
        .swept (s.registry.ids.filter (s.isOutdated now n)).length ∧
      (s.perform now (.sweep maxAge)).2.registry.ids =
        s.registry.ids.filter (fun id => !s.isOutdated now n id) ∧
      (s.perform now (.sweep maxAge)).2.registry.activeIds = s.registry.activeIds
  /-- Ending a run says whether it was listed, and takes it away. -/
  ends : ∀ now id,
    (s.perform now (.endRun id)).1 = .ended (decide (.text id ∈ s.registry.ids)) ∧
      (s.perform now (.endRun id)).2.registry.ids =
        s.registry.ids.filter (fun i => i ≠ .text id)
  /-- The run that is ended is over then; if it was over before, it is what it was, and so are all
  other runs. -/
  ends_run : ∀ now id, .text id ∈ s.registry.ids →
    (∃ r r', s.run? (.text id) = some r ∧
      (s.perform now (.endRun id)).2.run? (.text id) = some r' ∧
      (r'.phase = .finished ∨ r'.phase = .cancelled) ∧
      (r.phase = .finished ∨ r.phase = .cancelled → r' = r)) ∧
    ∀ other, other ≠ .text id → (s.perform now (.endRun id)).2.run? other = s.run? other
  /-- Cancelling by the registry is cancelling the run, and no other one. -/
  cancels : ∀ now id,
    (s.perform now (.cancel id)).2.run? (.text id) =
        (s.run? (.text id)).map (fun r => (r.cancel now).2) ∧
      ∀ other, other ≠ .text id → (s.perform now (.cancel id)).2.run? other = s.run? other
  /-- A call on a run does to it what the call does, and nothing to other runs. -/
  calls : ∀ now id c r, s.run? (.text id) = some r →
    (s.perform now (.call id c)).2.run? (.text id) =
        some (Host.call now ⟨r, s.streams (.text id)⟩ c).2.run ∧
      ∀ other, other ≠ .text id → (s.perform now (.call id c)).2.run? other = s.run? other

/-- A sound session can be relied on. -/
theorem Sound.exact (h : s.Sound) {started removed : List Value}
    (hids : s.registry.ids = started.filter (fun id => id ∉ removed)) :
    s.Exact started removed where
  ids_eq := hids
  nodup := h.nodup
  activeIds_eq := activeIds_eq h
  stamped := by
    intro id r hrun
    rcases h.run?_cases hrun with ⟨-, htrack, -⟩
    rw [htrack.stamped]
    cases r.phase <;> simp [Phase.isTerminal]
  refuses := by
    intro now p w goal level seed f hrefused
    rcases s.start_cases now p w goal level seed with ⟨_, -, hstart⟩ | ⟨-, hstart⟩
    · rw [hstart]
    · rw [hstart] at hrefused
      cases hrefused
  sweeps := by
    intro now maxAge n hnumber
    -- what goes and what stays is said once for the sweep of the registry
    rcases sweep_spec h now n with ⟨hgone, hkept⟩
    have hcount : (s.registry.sweep now n).1.length =
        (s.registry.ids.filter (s.isOutdated now n)).length := by
      rw [← hgone, List.length_map]
    refine ⟨?_, ?_, ?_⟩
    · rw [s.sweep_of_number now hnumber, hcount]
    · rw [s.sweep_of_number now hnumber, hkept]
    · rw [s.sweep_of_number now hnumber]
      exact Registry.activeIds_sweep s.registry now n
  ends := by
    intro now id
    have hids : (s.perform now (.endRun id)).2.registry.ids =
        (s.registry.endRun now (.text id)).2.ids := by
      rcases s.endRun_cases now id with ⟨hget, hend⟩ | ⟨r, hget, hend⟩
      · rw [hend, Registry.endRun_of_none hget]
      · rw [hend]
    refine ⟨?_, ?_⟩
    · rcases s.endRun_cases now id with ⟨hget, hend⟩ | ⟨r, hget, hend⟩
      · rw [hend, decide_eq_false (Registry.notMem_ids_iff.2 hget)]
      · rw [hend, decide_eq_true (Registry.mem_ids_iff.2 ⟨r, hget⟩)]
    · rw [hids, Registry.ids_endRun]
  ends_run := by
    intro now id hmem
    -- the run is cancelled on its way out, which does nothing if it was over
    rcases Registry.mem_ids_iff.1 hmem with ⟨r, hget⟩
    refine ⟨⟨r, (r.cancel now).2, run?_of_get? hget, run?_endRun h now hget, ?_, ?_⟩, ?_⟩
    · exact Run.isActive_eq_false_iff.1 (Run.isActive_cancel now r)
    · intro hover
      exact (r.cancel_spec now).2.1.settled (Run.isActive_eq_false_iff.2 hover)
    · intro other hne
      exact s.run?_endRun_of_ne now hne
  cancels := by
    intro now id
    rcases s.cancel_cases now id with ⟨hget, hcancel⟩ | ⟨r, hget, hcancel⟩
    · rw [hcancel]
      refine ⟨?_, fun _ _ => rfl⟩
      cases hrun : s.run? (.text id) with
      | none => rfl
      | some r =>
        -- only a run that is over is not registered
        rcases h.run?_cases hrun with ⟨-, -, hget' | ⟨-, hover⟩⟩
        · rw [hget] at hget'
          cases hget'
        · rw [Option.map_some, (r.cancel_spec now).2.1.settled hover]
    · have hid : (r.cancel now).2.id = .text id := Registry.id_cancel_of_get? hget now
      have hnew : (s.registry.update (r.cancel now).2).get? (.text id) =
          some (r.cancel now).2 := by
        rw [Registry.get?_update, if_pos hid.symm, hget, Option.map_some]
      rw [hcancel]
      refine ⟨?_, ?_⟩
      · rw [run?_of_get? hget, run?_of_get? hnew, Option.map_some]
      · intro other hne
        rw [run?, Registry.get?_update, hid, if_neg hne, run?]
  calls := by
    intro now id c r hrun
    rcases h.run?_cases hrun with ⟨hid, htrack, -⟩
    rcases htrack.call (h := ⟨r, s.streams (.text id)⟩) now c with ⟨-, hid', -⟩
    have hsame : (Host.call now ⟨r, s.streams (.text id)⟩ c).2.run.id = .text id := hid'.trans hid
    rcases s.call_cases now id c with ⟨hnone, -⟩ | ⟨r', hrun', hcall⟩
    · rw [hrun] at hnone
      cases hnone
    · rw [hrun] at hrun'
      cases hrun'
      rw [hcall]
      refine ⟨?_, ?_⟩
      · rw [run?_drive, if_pos hsame.symm, hrun, Option.map_some]
      · intro other hne
        rw [run?_drive, hsame, if_neg hne]

/-- The registry is exact over any history: whatever is ordered, by runs or by the registry, and at
whatever times. -/
theorem registry_exact (orders : List (Number × Order κ)) :
    (({} : Session κ).after orders).Exact (({} : Session κ).started orders)
      (({} : Session κ).removed orders) := by
  apply Sound.exact (sound_after .empty orders)
  exact ids_after .empty orders

end GridRobot.Session
