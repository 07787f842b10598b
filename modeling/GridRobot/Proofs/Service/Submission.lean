import GridRobot.Proofs.Program.Fit
import GridRobot.Proofs.Service.History
import GridRobot.Service.Field
import Mathlib.Data.List.Nodup

/-!
# Which submissions become runs

A submission passes five gates one after the other: its level, its records, the check by the rules
of the level, the world, and the check before a run starts. Together they ask for what can be read
off the submission (`Service.Acceptable`), and the last gate turns away nothing that has come so
far. A submission that is refused leaves all runs alone but those that were due to be swept.

* `Submission.ofRecord_toRecord`: a submission of records can be read back from its own record;
* `Service.plan_ok_iff`: a run can be made of the submissions that are acceptable, and only of them.
-/

namespace GridRobot

/-! ## Submissions as records -/

theorem Field.records_list {vs : List Value} (h : ∀ v ∈ vs, ∃ fields, v = .record fields) :
    records (.list vs) = .ok vs := by
  have hnone : itemErrors vs = [] := by
    rw [itemErrors, List.filterMap_eq_nil_iff]
    rintro ⟨v, index⟩ hmem
    obtain ⟨fields, rfl⟩ := h v (List.fst_mem_of_mem_zipIdx hmem)
    rfl
  rw [records, hnone]
  rfl

namespace Submission

/-- The record of a submission. -/
def toRecord (sub : Submission) : Value := .record [
  ("level_id", .int sub.level),
  ("program", .list sub.program),
  ("seed", (sub.seed.map .int).getD .null)]

/-- A submission of records can be read back from its own record. -/
theorem ofRecord_toRecord {sub : Submission} (hlevel : 1 ≤ sub.level)
    (hrecords : ∀ v ∈ sub.program, ∃ fields, v = .record fields) :
    ofRecord sub.toRecord = .ok sub := by
  obtain ⟨level, program, seed⟩ := sub
  have hfirst : Field.atLeastOne level = .ok level := if_neg (Int.not_lt.2 hlevel)
  have hnumber : Field.required (toRecord ⟨level, program, seed⟩) "level_id"
      (Field.whole (fun v => (Field.integer v).bind Field.atLeastOne)) = .ok level := by
    rw [Field.required, toRecord, Value.field?, Block.lookup_ofString, if_pos rfl]
    simp [Field.whole, Field.integer, Except.bind, Except.mapError, hfirst]
  have hblocks : Field.required (toRecord ⟨level, program, seed⟩) "program" Field.records =
      .ok program := by
    rw [Field.required, toRecord, Value.field?, Block.lookup_ofString, if_neg (by decide),
      Block.lookup_ofString, if_pos rfl]
    dsimp only
    rw [Field.records_list hrecords]
    rfl
  have hseed : Field.optional (toRecord ⟨level, program, seed⟩) "seed"
      (Field.whole Field.integer) = .ok seed := by
    rw [Field.optional, toRecord, Value.field?, Block.lookup_ofString, if_neg (by decide),
      Block.lookup_ofString, if_neg (by decide), Block.lookup_ofString, if_pos rfl]
    cases seed <;> rfl
  rw [ofRecord, hnumber, hblocks, hseed]

end Submission

/-! ## The gates -/

namespace Level

/-- A level is found under its number. -/
theorem find?_eq_some_iff {number : Int} {l : Level} :
    find? number = some l ↔ l ∈ catalog ∧ l.number = number := by
  have hdistinct : (catalog.map (·.number)).Nodup := by decide
  have hfound {l' : Level} (h : find? number = some l') : l' ∈ catalog ∧ l'.number = number :=
    ⟨List.mem_of_find?_eq_some h, by simpa using List.find?_some h⟩
  constructor
  · exact hfound
  · rintro ⟨hl, hnumber⟩
    cases h : find? number with
    | none =>
      rw [find?, List.find?_eq_none] at h
      exact absurd hnumber (by simpa using h l hl)
    | some l' =>
      obtain ⟨hl', hnumber'⟩ := hfound h
      exact congrArg some
        (List.inj_on_of_nodup_map hdistinct hl' hl (hnumber'.trans hnumber.symm))

end Level

namespace Service

open Grammar

variable {s : Service} {sub : Submission} {l : Level} {p : Program}

/-- What makes a submission acceptable: its level is in the catalog, its program is not empty, every
record is one of a block, the blocks and their loop counts suit the level, the budget affords them,
and the level has a world for the seed. -/
def Acceptable (s : Service) (sub : Submission) : Prop :=
  ∃ l ∈ Level.catalog, l.number = sub.level ∧ sub.program ≠ [] ∧
    (∀ v ∈ sub.program, Accepted 1 v ∧ Suits (· ∈ l.palette) v) ∧
    (sub.program.length : Int) ≤ l.limit ∧ ∃ w, l.world (sub.seed.getD s.freeSeed) = .ok w

/-- A level is found by its number in the catalog. -/
theorem requireLevel_eq_ok_iff {number : Int} :
    requireLevel (.int number) = .ok l ↔ l ∈ Level.catalog ∧ l.number = number := by
  have hkey : (Value.int number).isKey = true := rfl
  have hfind : Level.atKey? (.int number) = Level.find? number := rfl
  rw [← Level.find?_eq_some_iff, requireLevel, if_pos hkey, hfind]
  cases Level.find? number <;> simp

/-- The check by the rules of a level. -/
theorem check_level_eq_nil_iff {vs : List Value} (h : Program.ofRecords (.list vs) = .ok p) :
    (p.check l.rules).issues = [] ↔
      (∀ v ∈ vs, Suits (· ∈ l.palette) v) ∧ (vs.length : Int) ≤ l.limit := by
  have hallows : (fun k => l.rules.allows k = true) = (· ∈ l.palette) := by
    funext k
    simp [Rules.allows, Level.rules]
  rw [Program.check_ofRecords_eq_nil_iff _ h, hallows, Rules.affords_iff rfl]

/-- A program is empty if it was read from an empty list. -/
theorem isEmpty_ofRecords {vs : List Value} (h : Program.ofRecords (.list vs) = .ok p) :
    p.isEmpty = vs.isEmpty := by
  obtain ⟨ws, hws, hread⟩ := Program.ofRecords_eq_ok_iff.1 h
  cases hws
  cases hread <;> rfl

/-- The check before a run starts passes what a level has let pass. -/
theorem launchFault?_eq_none {vs : List Value} (h : Program.ofRecords (.list vs) = .ok p)
    (hsome : vs ≠ []) (hsuits : ∀ v ∈ vs, Suits (· ∈ l.palette) v) : Run.launchFault? p = none := by
  have hissues : (p.check {}).issues = [] := by
    refine (Program.check_ofRecords_eq_nil_iff {} h).2 ⟨?_, rfl⟩
    intro v hv path node k hstands hkind
    exact ⟨rfl, (hsuits v hv path node k hstands hkind).2⟩
  have hempty : p.isEmpty = false := by
    rw [isEmpty_ofRecords h]
    simpa using hsome
  rw [Run.launchFault?, hempty, hissues]
  rfl

/-- A submission passes if there is the level, the program can be read and is not empty, and the
level has nothing against it. -/
theorem examine_eq_ok_iff :
    examine sub = .ok (l, p) ↔
      requireLevel (.int sub.level) = .ok l ∧ Program.ofRecords (.list sub.program) = .ok p ∧
        sub.program ≠ [] ∧ (p.check l.rules).issues = [] := by
  constructor
  · intro h
    obtain ⟨hlevel, hread⟩ := examine_eq_ok h
    rw [examine, hlevel] at h
    dsimp only at h
    rw [hread] at h
    dsimp only at h
    split at h
    · cases h
    · next hsome =>
      refine ⟨hlevel, hread, ?_, ?_⟩
      · rwa [isEmpty_ofRecords hread, List.isEmpty_iff] at hsome
      · cases hissues : (p.check l.rules).issues with
        | nil => rfl
        | cons issue issues => simp [hissues] at h
  · rintro ⟨hlevel, hread, hsome, hissues⟩
    have hempty : ¬ p.isEmpty = true := by
      rwa [isEmpty_ofRecords hread, List.isEmpty_iff]
    rw [examine, hlevel]
    dsimp only
    rw [hread]
    dsimp only
    rw [if_neg hempty, hissues]

/-- The world is that of the level for the seed, or for a free one. -/
theorem makeWorld_eq_ok_iff {seed : Option Int} {w : World} :
    s.makeWorld l seed = .ok w ↔ l.world (seed.getD s.freeSeed) = .ok w := by
  unfold makeWorld
  cases l.world (seed.getD s.freeSeed) <;> simp [Except.mapError]

/-- What has passed the rules of its level also starts. -/
theorem launchFault?_of_examine (h : examine sub = .ok (l, p)) : Run.launchFault? p = none := by
  obtain ⟨-, hread, hsome, hissues⟩ := examine_eq_ok_iff.1 h
  exact launchFault?_eq_none hread hsome ((check_level_eq_nil_iff hread).1 hissues).1

/-- A plan needs a submission that passes and a world. -/
theorem plan_eq_ok_iff {w : World} :
    s.plan sub = .ok (l, p, w) ↔ examine sub = .ok (l, p) ∧ s.makeWorld l sub.seed = .ok w := by
  constructor
  · intro h
    obtain ⟨hexamine, hworld, -⟩ := plan_eq_ok h
    exact ⟨hexamine, hworld⟩
  · rintro ⟨hexamine, hworld⟩
    rw [plan, hexamine]
    dsimp only
    rw [hworld]
    dsimp only
    rw [launchFault?_of_examine hexamine]

theorem ofLevel_ne_notLaunched (key : Value) (f : LaunchFault) :
    Refusal.ofLevel key ≠ .notLaunched f := by
  unfold Refusal.ofLevel
  split <;> simp

theorem ofIssues_ne_notLaunched (number : Int) (issues : List Issue) (f : LaunchFault) :
    Refusal.ofIssues number issues ≠ .notLaunched f := by
  unfold Refusal.ofIssues
  split <;> simp

theorem requireLevel_ne_notLaunched (key : Value) (f : LaunchFault) :
    requireLevel key ≠ .error (.notLaunched f) := by
  intro h
  unfold requireLevel at h
  split at h
  · split at h
    · cases h
    · exact ofLevel_ne_notLaunched key f (Except.error.inj h)
  · cases h

/-- A submission that does not pass is not refused for its start. -/
theorem examine_ne_notLaunched (sub : Submission) (f : LaunchFault) :
    examine sub ≠ .error (.notLaunched f) := by
  intro h
  unfold examine at h
  split at h
  · next hlevel =>
    cases h
    exact requireLevel_ne_notLaunched _ f hlevel
  · split at h
    · cases h
    · split at h
      · cases h
      · split at h
        · cases h
        · exact ofIssues_ne_notLaunched _ _ f (Except.error.inj h)

/-- No submission comes to the start of its run and fails there. -/
theorem plan_ne_notLaunched (s : Service) (sub : Submission) (f : LaunchFault) :
    s.plan sub ≠ .error (.notLaunched f) := by
  intro h
  unfold plan at h
  split at h
  · next hexamine =>
    cases h
    exact examine_ne_notLaunched sub f hexamine
  · next l p hexamine =>
    split at h
    · next hworld =>
      cases h
      unfold makeWorld at hworld
      cases hl : l.world (sub.seed.getD s.freeSeed) with
      | error e => simp [hl, Except.mapError] at hworld
      | ok w => simp [hl, Except.mapError] at hworld
    · rw [launchFault?_of_examine hexamine] at h
      cases h

/-- A run can be made of the submissions that are acceptable, and only of them. -/
theorem plan_ok_iff : (∃ planned, s.plan sub = .ok planned) ↔ s.Acceptable sub := by
  constructor
  · rintro ⟨⟨l, p, w⟩, h⟩
    obtain ⟨hexamine, hworld⟩ := plan_eq_ok_iff.1 h
    obtain ⟨hlevel, hread, hsome, hissues⟩ := examine_eq_ok_iff.1 hexamine
    obtain ⟨hl, hnumber⟩ := requireLevel_eq_ok_iff.1 hlevel
    obtain ⟨hsuits, hbudget⟩ := (check_level_eq_nil_iff hread).1 hissues
    obtain ⟨vs, hvs, haccepted⟩ := Program.ofRecords_ok_iff.1 ⟨p, hread⟩
    cases hvs
    exact ⟨l, hl, hnumber, hsome, fun v hv => ⟨haccepted v hv, hsuits v hv⟩, hbudget, w,
      makeWorld_eq_ok_iff.1 hworld⟩
  · rintro ⟨l, hl, hnumber, hsome, hrecords, hbudget, w, hworld⟩
    obtain ⟨p, hread⟩ := Program.ofRecords_ok_iff.2 ⟨_, rfl, fun v hv => (hrecords v hv).1⟩
    have hissues := (check_level_eq_nil_iff hread).2 ⟨fun v hv => (hrecords v hv).2, hbudget⟩
    have hexamine := examine_eq_ok_iff.2
      ⟨requireLevel_eq_ok_iff.2 ⟨hl, hnumber⟩, hread, hsome, hissues⟩
    exact ⟨_, plan_eq_ok_iff.2 ⟨hexamine, makeWorld_eq_ok_iff.2 hworld⟩⟩

/-! ## Making a run -/

/-- The registry keeps the runs that have not been over for too long. -/
def kept (s : Service) (now ttl : Number) : List Entry :=
  s.registry.entries.filter (fun e => !Registry.isStale now ttl e.run)

/-- A submission is made a run: the request succeeds, and its run, which holds the program that was
submitted, is the new last entry of the registry. -/
def Registers (s : Service) (now ttl : Number) (sub : Submission) : Prop :=
  ∃ view e, (s.createRun now sub).1 = .ok view ∧ view.id = e.run.id ∧
    e.run.id = s.registry.nextId ∧ Program.ofRecords (.list sub.program) = .ok e.run.program ∧
    (s.createRun now sub).2.registry.entries = s.kept now ttl ++ [e]

variable {now ttl : Number}

/-- A sweep keeps the runs that are not stale. -/
theorem swept_eq (hage : s.maxAge.number? = some ttl) :
    s.swept now = { s.registry with entries := s.kept now ttl } := by
  rw [swept, hage]
  rfl

/-- Once old runs are swept, a run is added if one can be made of the submission. -/
theorem createRun_cases (hage : s.maxAge.number? = some ttl) (now : Number) (sub : Submission) :
    (∃ f, s.plan sub = .error f ∧ s.createRun now sub =
        (.error f, { s with registry := { s.registry with entries := s.kept now ttl } })) ∨
      (∃ planned, s.plan sub = .ok planned) ∧ s.Registers now ttl sub := by
  have hplan : plan { s with registry := s.swept now } sub = s.plan sub := rfl
  have hcreate : s.createRun now sub = addRun { s with registry := s.swept now } now sub := by
    rw [createRun, sweep_eq_ok hage]
  rcases addRun_cases { s with registry := s.swept now } now sub with
    ⟨f, hf, hadd⟩ | ⟨l, p, w, hl, hadd⟩
  · refine Or.inl ⟨f, hplan ▸ hf, ?_⟩
    rw [hcreate, hadd, swept_eq hage]
  · refine Or.inr ⟨⟨_, hplan ▸ hl⟩, ?_⟩
    rw [hplan] at hl
    obtain ⟨-, hread, -, -⟩ := examine_eq_ok_iff.1 (plan_eq_ok_iff.1 hl).1
    unfold Registers
    rw [hcreate, hadd]
    refine ⟨_, newEntry (s.swept now).nextId now sub l p w, rfl, rfl, nextId_swept s now, hread, ?_⟩
    rw [swept_eq hage]
    rfl

/-- Runs that are not over, or have not been over for too long, are kept. -/
theorem mem_kept {e : Entry} (he : e ∈ s.registry.entries)
    (hyoung : e.run.isActive = true ∨
      ∃ age, e.run.age? now = some age ∧ ttl.below age = false) : e ∈ s.kept now ttl := by
  refine List.mem_filter.2 ⟨he, ?_⟩
  rcases hyoung with hactive | ⟨age, hage, hbelow⟩
  · have hnone : e.run.age? now = none := by
      rw [Run.isActive, Bool.not_eq_true'] at hactive
      rw [Run.age?, hactive]
      rfl
    rw [Registry.isStale, hnone]
    rfl
  · rw [Registry.isStale, hage, Option.any_some, hbelow]
    rfl

/-- A submission is made a run exactly if it is acceptable. What was read from its records can only
be at fault by the palette, the range of loop counts or the budget, and the check before the start
turns nothing away. A submission that is refused adds no run and changes none; only runs that have
been over for too long are gone. -/
theorem createRun_admission (hage : s.maxAge.number? = some ttl) (now : Number)
    (sub : Submission) :
    (s.Registers now ttl sub ↔ s.Acceptable sub) ∧
      (∀ r p, Program.ofRecords (.list sub.program) = .ok p →
        ∀ issue ∈ (p.check r).issues, issue.concernsFit = true) ∧
      (∀ f, (s.createRun now sub).1 ≠ .error (.notLaunched f)) ∧
      ∀ f, (s.createRun now sub).1 = .error f →
        (s.createRun now sub).2 =
            { s with registry := { s.registry with entries := s.kept now ttl } } ∧
          ∀ e ∈ s.registry.entries,
            (e.run.isActive = true ∨ ∃ age, e.run.age? now = some age ∧ ttl.below age = false) →
              e ∈ (s.createRun now sub).2.registry.entries := by
  refine ⟨?_, ?_, ?_, ?_⟩
  · rw [← plan_ok_iff]
    -- a sweep comes before the plan, and the plan decides
    rcases createRun_cases hage now sub with ⟨f, hplan, hcreate⟩ | ⟨hplan, hregisters⟩
    · constructor
      · rintro ⟨view, e, hview, -⟩
        rw [hcreate] at hview
        cases hview
      · rintro ⟨planned, hplanned⟩
        rw [hplan] at hplanned
        cases hplanned
    · exact ⟨fun _ => hplan, fun _ => hregisters⟩
  · intro r p hread issue hissue
    exact Program.concernsFit_of_mem_issues hread hissue
  · intro f h
    rcases createRun_cases hage now sub with ⟨f', hplan, hcreate⟩ | ⟨-, view, e, hview, -⟩
    · rw [hcreate] at h
      cases h
      exact plan_ne_notLaunched s sub f hplan
    · rw [hview] at h
      cases h
  · intro f h
    rcases createRun_cases hage now sub with ⟨f', -, hcreate⟩ | ⟨-, view, e, hview, -⟩
    · rw [hcreate]
      refine ⟨rfl, ?_⟩
      intro e he hyoung
      exact mem_kept he hyoung
    · rw [hview] at h
      cases h

/-- A loop of seven rounds in the body of another one. -/
def sevenRounds : Submission :=
  { level := 15
    program := [.record [("type", .text "LOOP"), ("value", .int 2), ("children", .list [
      .record [("type", .text "LOOP"), ("value", .int 7), ("children", .list [
        .record [("type", .text "UP")]])]])]] }

theorem createRun_admission_second_submission :
    let s := (({} : Service).createRun 0 firstSteps).2
    s.maxAge.number? = some 3600 ∧ s.Registers 7 3600 firstSteps ∧ ¬ s.Acceptable sevenRounds ∧
      (s.createRun 7 sevenRounds).2.registry.entries = s.kept 7 3600 := by
  intro s
  have hage : s.maxAge.number? = some 3600 := by decide +kernel
  have hok : (s.plan firstSteps).isOk = true := by decide +kernel
  have hfail : (s.createRun 7 sevenRounds).1.isOk = false := by decide +kernel
  have hregisters : s.Registers 7 3600 firstSteps := by
    refine (createRun_admission hage 7 firstSteps).1.2 (plan_ok_iff.1 ?_)
    cases hplan : s.plan firstSteps with
    | error f =>
      rw [hplan] at hok
      cases hok
    | ok planned => exact ⟨planned, rfl⟩
  cases hrefused : (s.createRun 7 sevenRounds).1 with
  | ok view =>
    rw [hrefused] at hfail
    cases hfail
  | error f =>
    obtain ⟨hiff, -, -, hkept⟩ := createRun_admission hage 7 sevenRounds
    refine ⟨hage, hregisters, ?_, congrArg (·.registry.entries) (hkept f hrefused).1⟩
    intro hacceptable
    obtain ⟨view, e, hview, -⟩ := hiff.2 hacceptable
    rw [hrefused] at hview
    cases hview

end Service

end GridRobot
