import GridRobot.Registry

/-!
# Looking up the entry of a run

What the operations of the registry do to the entry under one id, and which ids may still be given.
An id is spent if it is none of those that are still to come; a registry is fresh if the ids of all
its runs are spent.

* `entry?_update`, `entry?_endRun`, `entry?_sweep`: changing, ending or sweeping runs leaves the
  entries of the other runs alone;
* `Fresh.entry?_add_self`, `Fresh.add`: a new run is found under an id that no run had, and the
  registry stays fresh.
-/

namespace GridRobot.Registry

variable {κ : Type} {g : Registry κ} {id : Value}

/-! ## Entries -/

/-- The entry that is found for an id has that id. -/
theorem id_of_entry? {e : Entry κ} (h : g.entry? id = some e) : e.run.id = id := by
  have hfound := List.find?_some (p := fun e : Entry κ => e.run.id == id) h
  exact eq_of_beq hfound

theorem get?_of_entry? {e : Entry κ} (h : g.entry? id = some e) : g.get? id = some e.run := by
  rw [get?, h]
  rfl

/-- Only the entry of the run that has changed is a new one. -/
theorem entry?_update (g : Registry κ) (r : Run κ) (id : Value) :
    entry? (g.update r) id =
      if id = r.id then (g.entry? id).map (fun e => { e with run := r }) else g.entry? id := by
  have hsame : ((fun e : Entry κ => e.run.id == id) ∘
      fun e => if e.run.id == r.id then { e with run := r } else e) =
      fun e => e.run.id == id := by
    funext e
    by_cases he : e.run.id = r.id
    · simp [he]
    · simp [he]
  have hfind : entry? (g.update r) id =
      (g.entry? id).map (fun e => if e.run.id == r.id then { e with run := r } else e) := by
    unfold entry? update
    rw [List.find?_map, hsame]
  rw [hfind]
  cases he : g.entry? id with
  | none => simp
  | some e =>
    have hid := id_of_entry? he
    by_cases h : id = r.id
    · simp [hid, h]
    · simp [hid, h]

/-- Dropping entries leaves the one that is looked for, unless it is dropped itself. -/
theorem find?_filter_of_kept {α : Type} {keep test : α → Bool} {xs : List α}
    (h : ∀ x, xs.find? test = some x → keep x) : (xs.filter keep).find? test = xs.find? test := by
  induction xs with
  | nil => rfl
  | cons x xs ih =>
    by_cases htest : test x
    · have hkeep : keep x := h x (by rw [List.find?_cons, htest])
      rw [List.filter_cons, if_pos hkeep, List.find?_cons, List.find?_cons, htest]
    · have hrest := ih (fun y hy => h y (by simpa [htest] using hy))
      by_cases hkeep : keep x
      · simpa [List.filter_cons, hkeep, htest] using hrest
      · simpa [List.filter_cons, hkeep, htest] using hrest

/-- A run that was ended is gone. -/
theorem entry?_endRun_self (g : Registry κ) (now : Number) (id : Value) :
    entry? (g.endRun now id).2 id = none := by
  unfold endRun get?
  cases hentry : g.entry? id with
  | none => exact hentry
  | some e =>
    rw [Option.map_some, entry?, List.find?_eq_none]
    intro e' he'
    have hne : (e'.run.id != id) = true := (List.mem_filter.1 he').2
    simpa using hne

/-- Ending a run leaves the others alone. -/
theorem entry?_endRun_of_ne (g : Registry κ) (now : Number) {ended : Value} (h : id ≠ ended) :
    entry? (g.endRun now ended).2 id = g.entry? id := by
  unfold endRun
  split
  · rfl
  · refine find?_filter_of_kept ?_
    intro e he
    have hid : e.run.id = id := id_of_entry? he
    simpa [hid] using h

/-- A run that has not been over for too long survives a sweep. -/
theorem entry?_sweep {now maxAge : Number}
    (h : ∀ e, g.entry? id = some e → isStale now maxAge e.run = false) :
    entry? (g.sweep now maxAge).2 id = g.entry? id := by
  refine find?_filter_of_kept ?_
  intro e he
  rw [h e he]
  rfl

/-! ## Ids -/

/-- The id of the run that is created as the given one in order. -/
def idAt (n : Nat) : Value := .text s!"run-{n}"

theorem isKey_idAt (n : Nat) : (idAt n).isKey := rfl

/-- No id is issued twice. -/
theorem idAt_inj {m n : Nat} : idAt m = idAt n ↔ m = n := by
  constructor
  · intro h
    injection h with htext
    have hstring : "run-" ++ m.repr = "run-" ++ n.repr := Text.ofString_inj.1 htext
    have hrepr : m.repr = n.repr := (String.append_right_inj _).1 hstring
    have hdigits : Nat.toDigits 10 m = Nat.toDigits 10 n := by
      rw [← Nat.toList_repr, ← Nat.toList_repr, hrepr]
    -- a number can be read off its digits
    calc m = Nat.ofDigitChars 10 (Nat.toDigits 10 m) 0 :=
          (Nat.ofDigitChars_toDigits (by decide) (by decide)).symm
      _ = Nat.ofDigitChars 10 (Nat.toDigits 10 n) 0 := by rw [hdigits]
      _ = n := Nat.ofDigitChars_toDigits (by decide) (by decide)
  · rintro rfl
    rfl

/-- The id is not given any more. -/
def Spent (g : Registry κ) (id : Value) : Prop := ∀ n, g.issued < n → id ≠ idAt n

/-- The ids that are still to be given are those of no run. -/
def Fresh (g : Registry κ) : Prop := ∀ e ∈ g.entries, g.Spent e.run.id

/-- An id that was issued stays issued. -/
theorem Spent.mono {g' : Registry κ} (h : g.Spent id) (hle : g.issued ≤ g'.issued) : g'.Spent id :=
  fun n hn => h n (Nat.lt_of_le_of_lt hle hn)

theorem fresh_empty : Fresh ({} : Registry κ) := fun _ he => absurd he List.not_mem_nil

/-- The next id is not in use. -/
theorem Fresh.entry?_nextId (h : g.Fresh) : g.entry? g.nextId = none := by
  unfold entry?
  rw [List.find?_eq_none]
  intro e he hid
  exact h e he (g.issued + 1) (Nat.lt_succ_self _) (eq_of_beq hid)

/-- A registry whose entries stem from a fresh one, under the ids they had, is fresh. -/
theorem Fresh.of_ids {g' : Registry κ} (h : g.Fresh) (hle : g.issued ≤ g'.issued)
    (hids : ∀ e ∈ g'.entries, ∃ e₀ ∈ g.entries, e.run.id = e₀.run.id) : g'.Fresh := by
  intro e he
  obtain ⟨e₀, he₀, hid⟩ := hids e he
  rw [hid]
  exact (h e₀ he₀).mono hle

theorem Fresh.update (h : g.Fresh) (r : Run κ) : (g.update r).Fresh := by
  refine h.of_ids (Nat.le_refl _) ?_
  intro e he
  obtain ⟨e₀, he₀, rfl⟩ := List.mem_map.1 he
  refine ⟨e₀, he₀, ?_⟩
  by_cases hid : e₀.run.id = r.id
  · simp [hid]
  · simp [hid]

/-- Ending a run keeps the next ids free. -/
theorem Fresh.endRun (h : g.Fresh) (now : Number) (id : Value) : (g.endRun now id).2.Fresh := by
  unfold Registry.endRun
  split
  · exact h
  · exact h.of_ids (Nat.le_refl _) (fun e he => ⟨e, (List.mem_filter.1 he).1, rfl⟩)

/-- Sweeping keeps the next ids free. -/
theorem Fresh.sweep (h : g.Fresh) (now maxAge : Number) : (g.sweep now maxAge).2.Fresh :=
  h.of_ids (Nat.le_refl _) (fun e he => ⟨e, (List.mem_filter.1 he).1, rfl⟩)

/-! ## New runs -/

/-- The registry with one more entry, at the last place. -/
def add (g : Registry κ) (e : Entry κ) : Registry κ :=
  { entries := g.entries ++ [e], issued := g.issued + 1 }

/-- Making a run fails if its program cannot be run, and then nothing changes. Else the run is added
under the next id. -/
theorem start_cases (g : Registry κ) (now : Number) (p : Program) (w : World κ) (goal : Goal κ)
    (level seed : Value) :
    (∃ f, Run.launchFault? p = some f ∧ g.start now p w goal level seed = (.error f, g)) ∨
      Run.launchFault? p = none ∧
        g.start now p w goal level seed =
          (.ok (Run.new g.nextId now p w goal),
            g.add ⟨Run.new g.nextId now p w goal, level, seed⟩) := by
  unfold start launch Run.launch
  rw [if_neg (by decide)]
  cases hfault : Run.launchFault? p with
  | some f => exact Or.inl ⟨f, rfl, rfl⟩
  | none => exact Or.inr ⟨rfl, rfl⟩

/-- A new entry leaves the others alone. -/
theorem entry?_add_of_ne (g : Registry κ) {e : Entry κ} (h : id ≠ e.run.id) :
    entry? (g.add e) id = g.entry? id := by
  have hne : (e.run.id == id) = false := by simpa using Ne.symm h
  unfold entry? add
  rw [List.find?_append]
  simp [hne]

/-- A new entry is found under the id that was next. -/
theorem Fresh.entry?_add_self (h : g.Fresh) {e : Entry κ} (hid : e.run.id = g.nextId) :
    entry? (g.add e) g.nextId = some e := by
  have hnone : g.entries.find? (fun e => e.run.id == g.nextId) = none := h.entry?_nextId
  unfold entry? add
  rw [List.find?_append, hnone]
  simp [hid]

/-- The id that was given last is spent. -/
theorem spent_nextId_add (g : Registry κ) (e : Entry κ) : (g.add e).Spent g.nextId := by
  intro n hn heq
  have hsame : g.issued + 1 = n := idAt_inj.1 heq
  exact absurd hn (by rw [← hsame]; exact Nat.lt_irrefl _)

/-- Adding an entry under the next id keeps the ids behind it free. -/
theorem Fresh.add (h : g.Fresh) {e : Entry κ} (hid : e.run.id = g.nextId) : (g.add e).Fresh := by
  intro e' he'
  rcases List.mem_append.1 he' with hold | hnew
  · exact (h e' hold).mono (Nat.le_succ _)
  · rw [List.mem_singleton.1 hnew, hid]
    exact g.spent_nextId_add e

end GridRobot.Registry
