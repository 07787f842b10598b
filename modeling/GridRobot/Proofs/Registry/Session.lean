import GridRobot.Proofs.Registry.Entries
import GridRobot.Proofs.Run.Lifecycle
import Mathlib.Data.List.Nodup

/-!
# Sessions

Runs are registered when they are made, and their hosts hold them too: a host drives its run whether
the registry still knows it or not. A session is a registry together with the runs that it has
dropped. Orders go to the registry, and calls go past it, to the runs.

* `Session.Sound`: what every order keeps, whether it goes to the registry or to a run
  (`Session.Sound.perform`);
* `Session.run?_drive`, `Session.run?_endRun`, `Session.run?_endRun_of_ne`: which runs change when
  a run is driven or ended.
-/

namespace GridRobot

variable {κ : Type}

/-- A registry, the runs that it has dropped, and the streams of all runs. -/
structure Session (κ : Type := Int) where
  registry : Registry κ := {}
  dropped : List (Run κ) := []
  streams : Value → StreamState := fun _ => .absent

namespace Session

/-- What can be ordered: the first four go to the registry, the last one goes to a run. -/
inductive Order (κ : Type := Int) where
  | start (p : Program) (w : World κ) (goal : Goal κ) (level seed : Value)
  | cancel (id : Text)
  | endRun (id : Text)
  | sweep (maxAge : Value)
  | call (id : Text) (c : Call)

/-- What an order gives. -/
inductive Receipt (κ : Type := Int) where
  | started (id : Value)
  | refused (f : LaunchFault)
  | cancelled (granted : Bool)
  /-- Was the run known? -/
  | ended (known : Bool)
  | swept (count : Nat)
  | unordered (f : AgeFault)
  | called (a : Answer κ)
  /-- There is no such run. -/
  | unknown

/-- The id of the run that has been started. -/
def Receipt.started? : Receipt κ → Option Value
  | .started id => some id
  | _ => none

/-- The run with an id, whether the registry still knows it or not. -/
def run? (s : Session κ) (id : Value) : Option (Run κ) :=
  (s.registry.get? id).or (s.dropped.find? (fun r => r.id == id))

/-- The session with a new state of a run and of its stream. -/
def drive (s : Session κ) (h : Host κ) : Session κ where
  registry := s.registry.update h.run
  dropped := s.dropped.map (fun r => if r.id == h.run.id then h.run else r)
  streams id := if id = h.run.id then h.stream else s.streams id

variable [Coordinate κ]

/-- Carry out an order at a time. -/
def perform (now : Number) (s : Session κ) : Order κ → Receipt κ × Session κ
  | .start p w goal level seed =>
    match s.registry.start now p w goal level seed with
    | (.ok r, g) => (.started r.id, { s with registry := g })
    | (.error f, g) => (.refused f, { s with registry := g })
  | .cancel id =>
    let (granted, g) := s.registry.cancel now (.text id)
    (.cancelled granted, { s with registry := g })
  | .endRun id =>
    match s.registry.endRun now (.text id) with
    | (some r, g) => (.ended true, { s with registry := g, dropped := s.dropped ++ [r] })
    | (none, g) => (.ended false, { s with registry := g })
  | .sweep maxAge =>
    match s.registry.sweepBy now maxAge with
    | .ok (runs, g) => (.swept runs.length, { s with registry := g, dropped := s.dropped ++ runs })
    | .error f => (.unordered f, s)
  | .call id c =>
    match s.run? (.text id) with
    | none => (.unknown, s)
    | some r =>
      let (a, h) := Host.call now ⟨r, s.streams (.text id)⟩ c
      (.called a, s.drive h)

/-- The session after some orders, each at its time. -/
def after (s : Session κ) : List (Number × Order κ) → Session κ
  | [] => s
  | (now, order) :: orders => (s.perform now order).2.after orders

end Session

/-! ## Ids of the registry -/

namespace Run

/-- Nothing is active after it has been cancelled. -/
theorem isActive_cancel (now : Number) (r : Run κ) : (r.cancel now).2.isActive = false := by
  unfold cancel
  split
  · rfl
  · next hover => exact Bool.eq_false_iff.2 hover

/-- Only a run that is over can be stale. -/
theorem isActive_of_isStale {now maxAge : Number} {r : Run κ}
    (h : Registry.isStale now maxAge r = true) : r.isActive = false := by
  unfold Registry.isStale age? at h
  unfold isActive
  split at h
  · next hterminal =>
    rw [hterminal]
    rfl
  · cases h

end Run

namespace Registry

variable {g : Registry κ} {id : Value}

/-- Updating a run changes no id. -/
theorem ids_update (g : Registry κ) (r : Run κ) : (g.update r).ids = g.ids := by
  unfold ids update
  rw [List.map_map]
  apply List.map_congr_left
  intro e _
  by_cases hid : e.run.id = r.id
  · simp [hid]
  · simp [hid]

theorem ids_add (g : Registry κ) (e : Entry κ) : (g.add e).ids = g.ids ++ [e.run.id] := by
  simp [ids, add]

/-- The ids of a registry are those under which a run is found. -/
theorem mem_ids_iff : id ∈ g.ids ↔ ∃ r, g.get? id = some r := by
  constructor
  · intro h
    rcases List.mem_map.1 h with ⟨e, he, rfl⟩
    have hfound : (g.entries.find? (fun e' => e'.run.id == e.run.id)).isSome :=
      List.find?_isSome.2 ⟨e, he, by simp⟩
    rcases Option.isSome_iff_exists.1 hfound with ⟨e', he'⟩
    exact ⟨e'.run, get?_of_entry? he'⟩
  · rintro ⟨r, hr⟩
    rcases Option.map_eq_some_iff.1 hr with ⟨e, he, rfl⟩
    rw [← id_of_entry? he]
    exact List.mem_map_of_mem (List.mem_of_find?_eq_some he)

theorem id_of_get? {r : Run κ} (h : g.get? id = some r) : r.id = id := by
  rcases Option.map_eq_some_iff.1 h with ⟨e, he, rfl⟩
  exact id_of_entry? he

theorem notMem_ids_iff : id ∉ g.ids ↔ g.get? id = none := by
  rw [mem_ids_iff, ← Option.isSome_iff_exists, Option.not_isSome_iff_eq_none]

theorem exists_entry_of_get? {r : Run κ} (h : g.get? id = some r) : ∃ e ∈ g.entries, e.run = r := by
  rcases Option.map_eq_some_iff.1 h with ⟨e, he, rfl⟩
  exact ⟨e, List.mem_of_find?_eq_some he, rfl⟩

/-- Where no id occurs twice, every entry is found under its id. -/
theorem get?_of_mem (hnodup : g.ids.Nodup) {e : Entry κ} (he : e ∈ g.entries) :
    g.get? e.run.id = some e.run := by
  rcases mem_ids_iff.1 (List.mem_map_of_mem he : e.run.id ∈ g.ids) with ⟨r, hr⟩
  rcases Option.map_eq_some_iff.1 hr with ⟨e', he', rfl⟩
  have hid : e'.run.id = e.run.id := id_of_entry? he'
  have hsame : e' = e := List.inj_on_of_nodup_map hnodup (List.mem_of_find?_eq_some he') he hid
  rw [hr, hsame]

/-- The next id belongs to no run. -/
theorem Fresh.nextId_notMem (h : g.Fresh) : g.nextId ∉ g.ids := by
  rw [notMem_ids_iff, get?, h.entry?_nextId]
  rfl

/-- Cancelling a run does not change under which id it is found. -/
theorem id_cancel_of_get? {r : Run κ} (h : g.get? id = some r) (now : Number) :
    (r.cancel now).2.id = id := by
  rw [(r.cancel_spec now).2.1.id, id_of_get? h]

/-- To end a run is to cancel it and to take it out. -/
theorem endRun_of_get? {r : Run κ} (h : g.get? id = some r) (now : Number) :
    g.endRun now id = (some (r.cancel now).2, { g with
      entries := g.entries.filter (fun e => e.run.id != id) }) := by
  rw [endRun, h]

theorem endRun_of_none (h : g.get? id = none) (now : Number) : g.endRun now id = (none, g) := by
  rw [endRun, h]

/-- Only the run that has changed is a new one. -/
theorem get?_update (g : Registry κ) (r : Run κ) (id : Value) :
    (g.update r).get? id = if id = r.id then (g.get? id).map (fun _ => r) else g.get? id := by
  rw [get?, get?, entry?_update]
  split
  · rw [Option.map_map, Option.map_map]
    rfl
  · rfl

/-- A sweep leaves the active runs alone. -/
theorem activeIds_sweep (g : Registry κ) (now maxAge : Number) :
    (g.sweep now maxAge).2.activeIds = g.activeIds := by
  rw [activeIds, activeIds, sweep, List.filter_filter]
  refine congrArg _ (List.filter_congr ?_)
  intro e _
  cases hstale : isStale now maxAge e.run with
  | false => simp
  | true => simp [Run.isActive_of_isStale hstale]

theorem ids_filter (g : Registry κ) (keep : Value → Bool) :
    (g.entries.filter (fun e => keep e.run.id)).map (·.run.id) = g.ids.filter keep := by
  rw [ids, List.filter_map]
  rfl

/-- Ending a run takes its id out. -/
theorem ids_endRun (g : Registry κ) (now : Number) (id : Value) :
    (g.endRun now id).2.ids = g.ids.filter (fun i => i ≠ id) := by
  cases hget : g.get? id with
  | some r =>
    rw [endRun_of_get? hget, ← g.ids_filter]
    refine congrArg _ (List.filter_congr ?_)
    intro e _
    simp [bne, beq_eq_decide]
  | none =>
    rw [endRun_of_none hget, eq_comm, List.filter_eq_self]
    intro i hi
    have hne : i ≠ id := by
      rintro rfl
      exact notMem_ids_iff.2 hget hi
    simpa using hne

end Registry

/-! ## What orders keep -/

/-- The run is at some point of some program, which may break off in the end. -/
def Run.OnTrack [Coordinate κ] (r : Run κ) : Prop :=
  ∃ p w g es ending, Program.course p w g = (es, ending) ∧ r.Tracks p w g es ending

namespace Run.OnTrack

variable [Coordinate κ] {r : Run κ}

/-- A new run is on track. -/
theorem new (id : Value) (now : Number) (p : Program) (w : World κ) (g : Goal κ) :
    (Run.new id now p w g).OnTrack := by
  obtain ⟨es, ending, hcourse⟩ : ∃ es ending, p.course w g = (es, ending) := ⟨_, _, rfl⟩
  exact ⟨p, w, g, es, ending, hcourse, tracks_new id now p w g es ending⟩

/-- Cancelling keeps a run on track. -/
theorem cancel (h : r.OnTrack) (now : Number) : (r.cancel now).2.OnTrack := by
  rcases h with ⟨p, w, g, es, ending, hcourse, htracks⟩
  exact ⟨p, w, g, es, ending, hcourse, htracks.cancel now⟩

/-- No call gets a run off its track, changes its id, or changes it at all once it is over. -/
theorem call {h : Host κ} (ht : h.run.OnTrack) (now : Number) (c : Call) :
    (h.call now c).2.run.OnTrack ∧ (h.call now c).2.run.id = h.run.id ∧
      (h.run.isActive = false → (h.call now c).2.run = h.run) := by
  rcases ht with ⟨p, w, g, es, ending, hcourse, htracks⟩
  rcases Host.tracks_call hcourse htracks now c with ⟨htracks', hbecomes⟩
  exact ⟨⟨p, w, g, es, ending, hcourse, htracks'⟩, hbecomes.id, hbecomes.settled⟩

/-- A run on track has a time of its end exactly if it is over. -/
theorem stamped (h : r.OnTrack) : r.finishedAt.isSome = r.phase.isTerminal := by
  rcases h with ⟨p, w, g, es, ending, -, htracks⟩
  exact htracks.finishedAt_isSome

end Run.OnTrack

namespace Session

variable {s : Session κ} {id : Value} {r : Run κ}

/-- A run in the registry is the one that is meant by its id. -/
theorem run?_of_get? (h : s.registry.get? id = some r) : s.run? id = some r := by
  rw [run?, h, Option.some_or]

theorem run?_of_none (h : s.registry.get? id = none) :
    s.run? id = s.dropped.find? (fun r => r.id == id) := by
  rw [run?, h, Option.none_or]

/-- Only the run that is driven becomes another one. -/
theorem run?_drive (s : Session κ) (host : Host κ) (id : Value) :
    (s.drive host).run? id =
      if id = host.run.id then (s.run? id).map (fun _ => host.run) else s.run? id := by
  have hdropped : (s.dropped.map (fun r => if r.id == host.run.id then host.run else r)).find?
      (fun r => r.id == id) =
      if id = host.run.id then (s.dropped.find? (fun r => r.id == id)).map (fun _ => host.run)
      else s.dropped.find? (fun r => r.id == id) := by
    have hsame : ((fun r : Run κ => r.id == id) ∘
        fun r => if r.id == host.run.id then host.run else r) = fun r => r.id == id := by
      funext r
      by_cases hr : r.id = host.run.id
      · simp [hr]
      · simp [hr]
    rw [List.find?_map, hsame]
    cases hfind : s.dropped.find? (fun r => r.id == id) with
    | none => simp
    | some r =>
      have hid : r.id = id := by simpa using List.find?_some hfind
      by_cases h : id = host.run.id
      · simp [hid, h]
      · simp [hid, h]
  rw [run?, drive, hdropped, Registry.get?_update, run?]
  split
  · rw [Option.map_or]
  · rfl

variable [Coordinate κ]

/-- What every order keeps: no id occurs twice, or is still to be given, all runs are on their
tracks, and those that were dropped are over. -/
structure Sound (s : Session κ) : Prop where
  fresh : s.registry.Fresh
  nodup : s.registry.ids.Nodup
  tracked : ∀ e ∈ s.registry.entries, e.run.OnTrack
  dropped : ∀ r ∈ s.dropped,
    r.OnTrack ∧ r.isActive = false ∧ s.registry.Spent r.id ∧ r.id ∉ s.registry.ids

namespace Sound

/-- A session in which nothing has happened is sound. -/
theorem empty : Sound ({} : Session κ) where
  fresh := Registry.fresh_empty
  nodup := List.nodup_nil
  tracked := by
    intro e he
    cases he
  dropped := by
    intro r hr
    cases hr

/-- Every run that is found is on track. -/
theorem tracked_of_get? (h : s.Sound) (hr : s.registry.get? id = some r) : r.OnTrack := by
  rcases Registry.exists_entry_of_get? hr with ⟨e, he, rfl⟩
  exact h.tracked e he

/-- A run with an id is one of the registered runs, or one of those that were dropped. -/
theorem run?_cases (h : s.Sound) (hr : s.run? id = some r) :
    r.id = id ∧ r.OnTrack ∧
      (s.registry.get? id = some r ∨ id ∉ s.registry.ids ∧ r.isActive = false) := by
  cases hget : s.registry.get? id with
  | some r' =>
    rw [run?_of_get? hget] at hr
    cases hr
    exact ⟨Registry.id_of_get? hget, h.tracked_of_get? hget, Or.inl rfl⟩
  | none =>
    rw [run?_of_none hget] at hr
    have hid : r.id = id := by simpa using List.find?_some hr
    rcases h.dropped r (List.mem_of_find?_eq_some hr) with ⟨htrack, hover, -, hnot⟩
    rw [hid] at hnot
    exact ⟨hid, htrack, Or.inr ⟨hnot, hover⟩⟩

/-- A registered run may become another one that is on its track. -/
theorem update (h : s.Sound) (hr : r.OnTrack) :
    Sound { s with registry := s.registry.update r } where
  fresh := h.fresh.update r
  nodup := by
    rw [Registry.ids_update]
    exact h.nodup
  tracked := by
    intro e he
    rcases List.mem_map.1 he with ⟨e₀, he₀, rfl⟩
    split
    · exact hr
    · exact h.tracked e₀ he₀
  dropped := by
    intro r' hr'
    rw [Registry.ids_update]
    exact h.dropped r' hr'

/-- A run that was dropped may only become one that is over. -/
theorem drive (h : s.Sound) {host : Host κ} (hr : host.run.OnTrack)
    (hover : host.run.id ∉ s.registry.ids → host.run.isActive = false) : (s.drive host).Sound where
  fresh := (h.update hr).fresh
  nodup := (h.update hr).nodup
  tracked := (h.update hr).tracked
  dropped := by
    intro r hmem
    rcases List.mem_map.1 hmem with ⟨r₀, hr₀, rfl⟩
    rcases (h.update hr).dropped r₀ hr₀ with ⟨htrack, hover₀, hspent, hnot⟩
    split
    · next hid =>
      rw [eq_of_beq hid] at hspent hnot
      have hnot' : host.run.id ∉ s.registry.ids := by
        rwa [Registry.ids_update] at hnot
      exact ⟨hr, hover hnot', hspent, hnot⟩
    · exact ⟨htrack, hover₀, hspent, hnot⟩

/-- Runs that are over may be dropped from the registry. -/
theorem drop (h : s.Sound) {keep : Entry κ → Bool} {gone : List (Run κ)}
    (hgone : ∀ r ∈ gone, r.OnTrack ∧ r.isActive = false ∧ r.id ∈ s.registry.ids ∧
      ∀ e ∈ s.registry.entries, e.run.id = r.id → keep e = false) :
    Sound {
      s with
      registry := { s.registry with entries := s.registry.entries.filter keep }
      dropped := s.dropped ++ gone } where
  fresh := h.fresh.of_ids (Nat.le_refl _) (fun e he => ⟨e, (List.mem_filter.1 he).1, rfl⟩)
  nodup := h.nodup.sublist (List.filter_sublist.map _)
  tracked := fun e he => h.tracked e (List.mem_filter.1 he).1
  dropped := by
    intro r hmem
    rcases List.mem_append.1 hmem with hold | hnew
    · rcases h.dropped r hold with ⟨htrack, hover, hspent, hnot⟩
      refine ⟨htrack, hover, hspent, ?_⟩
      intro hid
      exact hnot ((List.filter_sublist.map _).subset hid)
    · rcases hgone r hnew with ⟨htrack, hover, hid, hdrops⟩
      rcases List.mem_map.1 hid with ⟨e₀, he₀, hid₀⟩
      refine ⟨htrack, hover, ?_, ?_⟩
      · rw [← hid₀]
        exact h.fresh e₀ he₀
      · intro hkept
        rcases List.mem_map.1 hkept with ⟨e, he, hsame⟩
        rcases List.mem_filter.1 he with ⟨hmem', hkeep⟩
        rw [hdrops e hmem' hsame] at hkeep
        cases hkeep

end Sound

/-! ## One order -/

/-- A program that does not start changes nothing, and one that does is added under the next id. -/
theorem start_cases (s : Session κ) (now : Number) (p : Program) (w : World κ) (goal : Goal κ)
    (level seed : Value) :
    (∃ f, Run.launchFault? p = some f ∧
        s.perform now (.start p w goal level seed) = (.refused f, s)) ∨
      Run.launchFault? p = none ∧
        s.perform now (.start p w goal level seed) = (.started s.registry.nextId, { s with
          registry := s.registry.add ⟨.new s.registry.nextId now p w goal, level, seed⟩ }) := by
  rcases s.registry.start_cases now p w goal level seed with ⟨f, hfault, hstart⟩ | ⟨hfault, hstart⟩
  · exact Or.inl ⟨f, hfault, by rw [perform, hstart]⟩
  · exact Or.inr ⟨hfault, by rw [perform, hstart]; rfl⟩

/-- An unknown id cannot be cancelled; a known run is, if it is active. -/
theorem cancel_cases (s : Session κ) (now : Number) (id : Text) :
    s.registry.get? (.text id) = none ∧ s.perform now (.cancel id) = (.cancelled false, s) ∨
      ∃ r, s.registry.get? (.text id) = some r ∧
        s.perform now (.cancel id) = (.cancelled (r.cancel now).1,
          { s with registry := s.registry.update (r.cancel now).2 }) := by
  cases hget : s.registry.get? (.text id) with
  | none => exact Or.inl ⟨rfl, by rw [perform, Registry.cancel, hget]⟩
  | some r => exact Or.inr ⟨r, rfl, by rw [perform, Registry.cancel, hget]⟩

/-- An unknown id cannot be ended; a known run is dropped. -/
theorem endRun_cases (s : Session κ) (now : Number) (id : Text) :
    s.registry.get? (.text id) = none ∧ s.perform now (.endRun id) = (.ended false, s) ∨
      ∃ r, s.registry.get? (.text id) = some r ∧
        s.perform now (.endRun id) = (.ended true, {
          s with
          registry := (s.registry.endRun now (.text id)).2
          dropped := s.dropped ++ [(r.cancel now).2] }) := by
  cases hget : s.registry.get? (.text id) with
  | none => exact Or.inl ⟨rfl, by rw [perform, Registry.endRun_of_none hget]⟩
  | some r => exact Or.inr ⟨r, rfl, by rw [perform, Registry.endRun_of_get? hget]⟩

/-- A sweep drops the runs that are stale by then. -/
theorem sweep_of_number (s : Session κ) (now : Number) {maxAge : Value} {n : Number}
    (h : maxAge.number? = some n) :
    s.perform now (.sweep maxAge) = (.swept (s.registry.sweep now n).1.length, {
      s with
      registry := (s.registry.sweep now n).2
      dropped := s.dropped ++ (s.registry.sweep now n).1 }) := by
  rw [perform, Registry.sweepBy, h]

/-- A sweep by something that is no age changes nothing. -/
theorem sweep_of_none (s : Session κ) (now : Number) {maxAge : Value}
    (h : maxAge.number? = none) : (s.perform now (.sweep maxAge)).2 = s := by
  rw [perform, Registry.sweepBy, h]
  cases s.registry.entries.findSome? (fun e => e.run.age? now) with
  | none =>
    dsimp only
    rw [List.append_nil]
  | some age => rfl

theorem started?_sweep (s : Session κ) (now : Number) (maxAge : Value) :
    (s.perform now (.sweep maxAge)).1.started? = none := by
  rw [perform]
  split <;> rfl

/-- A call goes to the run with the id, wherever it is kept. -/
theorem call_cases (s : Session κ) (now : Number) (id : Text) (c : Call) :
    s.run? (.text id) = none ∧ s.perform now (.call id c) = (.unknown, s) ∨
      ∃ r, s.run? (.text id) = some r ∧
        s.perform now (.call id c) =
          (.called (Host.call now ⟨r, s.streams (.text id)⟩ c).1,
            s.drive (Host.call now ⟨r, s.streams (.text id)⟩ c).2) := by
  cases hrun : s.run? (.text id) with
  | none => exact Or.inl ⟨rfl, by rw [perform, hrun]⟩
  | some r => exact Or.inr ⟨r, rfl, by rw [perform, hrun]⟩

/-- Every order keeps a session sound. -/
theorem Sound.perform (h : s.Sound) (now : Number) (order : Order κ) :
    (s.perform now order).2.Sound := by
  cases order with
  | start p w goal level seed =>
    -- a program that starts is added behind the other runs, under the next id
    rcases s.start_cases now p w goal level seed with ⟨f, -, hstart⟩ | ⟨hfault, hstart⟩
    · rw [hstart]
      exact h
    · rw [hstart]
      exact {
        fresh := h.fresh.add rfl
        nodup := by
          rw [Registry.ids_add, List.nodup_append]
          refine ⟨h.nodup, List.nodup_singleton _, ?_⟩
          -- the next id is that of no run
          rintro i hi _ hj rfl
          rw [List.mem_singleton.1 hj] at hi
          exact h.fresh.nextId_notMem hi
        tracked := by
          intro e he
          rcases List.mem_append.1 he with hold | hnew
          · exact h.tracked e hold
          · rw [List.mem_singleton.1 hnew]
            exact .new _ now p w goal
        dropped := by
          intro r hr
          rcases h.dropped r hr with ⟨htrack, hover, hspent, hnot⟩
          refine ⟨htrack, hover, hspent.mono (Nat.le_succ _), ?_⟩
          rw [Registry.ids_add, List.mem_append, List.mem_singleton]
          rintro (hold | hnew)
          · exact hnot hold
          · -- the next id was not spent
            exact hspent _ (Nat.lt_succ_self _) hnew }
  | cancel id =>
    -- cancelling changes one run, which stays on its track and in its place
    rcases s.cancel_cases now id with ⟨-, hcancel⟩ | ⟨r, hget, hcancel⟩
    · rw [hcancel]
      exact h
    · rw [hcancel]
      exact h.update ((h.tracked_of_get? hget).cancel now)
  | endRun id =>
    -- ending a run moves it from the registry to those that were dropped
    rcases s.endRun_cases now id with ⟨-, hend⟩ | ⟨r, hget, hend⟩
    · rw [hend]
      exact h
    · rw [hend, Registry.endRun_of_get? hget]
      -- only the run that is ended goes, and it has been cancelled unless it was over
      apply h.drop
      intro r' hr'
      rw [List.mem_singleton.1 hr']
      have hid : (r.cancel now).2.id = .text id := Registry.id_cancel_of_get? hget now
      refine ⟨(h.tracked_of_get? hget).cancel now, Run.isActive_cancel now r, ?_, ?_⟩
      · rw [hid]
        exact Registry.mem_ids_iff.2 ⟨r, hget⟩
      · intro e _ he
        simp [he, hid]
  | sweep maxAge =>
    -- a sweep does the same to all stale runs at once, unless it is given no age
    cases hnumber : maxAge.number? with
    | none =>
      rw [s.sweep_of_none now hnumber]
      exact h
    | some n =>
      rw [s.sweep_of_number now hnumber]
      apply h.drop
      intro r hr
      rcases List.mem_map.1 hr with ⟨e, he, rfl⟩
      rcases List.mem_filter.1 he with ⟨hmem, hstale⟩
      refine ⟨h.tracked e hmem, Run.isActive_of_isStale hstale, List.mem_map_of_mem hmem, ?_⟩
      -- ids are unique, so what has the id of a stale run is that run
      intro e' he' hid
      have hsame : e' = e := List.inj_on_of_nodup_map h.nodup he' hmem hid
      rw [hsame, hstale]
      rfl
  | call id c =>
    -- a call drives the run that has the id, be it registered or dropped
    rcases s.call_cases now id c with ⟨-, hcall⟩ | ⟨r, hrun, hcall⟩
    · rw [hcall]
      exact h
    · rw [hcall]
      rcases h.run?_cases hrun with ⟨hid, htrack, hwhere⟩
      rcases htrack.call (h := ⟨r, s.streams (.text id)⟩) now c with ⟨htrack', hid', hsettled⟩
      apply h.drive htrack'
      -- what is not registered is over, and calls do not change it any more
      intro hnot
      rw [hid', hid] at hnot
      rcases hwhere with hget | ⟨-, hover⟩
      · exact absurd (Registry.mem_ids_iff.2 ⟨r, hget⟩) hnot
      · rw [hsettled hover]
        exact hover

/-- A run that is ended is still held by its host. -/
theorem run?_endRun (h : s.Sound) (now : Number) {i : Text}
    (hget : s.registry.get? (.text i) = some r) :
    (s.perform now (.endRun i)).2.run? (.text i) = some (r.cancel now).2 := by
  have hid : (r.cancel now).2.id = .text i := Registry.id_cancel_of_get? hget now
  have hgone : (s.registry.endRun now (.text i)).2.get? (.text i) = none := by
    rw [Registry.get?, Registry.entry?_endRun_self]
    rfl
  -- no run that was dropped before has the id of a registered one
  have hnew : s.dropped.find? (fun r => r.id == .text i) = none := by
    rw [List.find?_eq_none]
    intro r' hr' hsame
    rcases h.dropped r' hr' with ⟨-, -, -, hnot⟩
    rw [eq_of_beq hsame] at hnot
    exact hnot (Registry.mem_ids_iff.2 ⟨r, hget⟩)
  rcases s.endRun_cases now i with ⟨hnone, -⟩ | ⟨r', hget', hend⟩
  · rw [hget] at hnone
    cases hnone
  · rw [hget] at hget'
    cases hget'
    rw [hend, run?_of_none hgone, List.find?_append, hnew, Option.none_or, List.find?_singleton,
      hid, beq_self_eq_true, if_pos rfl]

/-- Ending a run leaves the other ones alone. -/
theorem run?_endRun_of_ne (s : Session κ) (now : Number) {i : Text} (hid : id ≠ .text i) :
    (s.perform now (.endRun i)).2.run? id = s.run? id := by
  rcases s.endRun_cases now i with ⟨-, hend⟩ | ⟨r, hget, hend⟩
  · rw [hend]
  · have hother : ((r.cancel now).2.id == id) = false := by
      rw [Registry.id_cancel_of_get? hget]
      exact beq_false_of_ne hid.symm
    rw [hend, run?, run?, Registry.get?, Registry.entry?_endRun_of_ne _ _ hid, Registry.get?,
      List.find?_append, List.find?_singleton, hother, if_neg Bool.false_ne_true, Option.or_none]

end Session

end GridRobot
