import GridRobot.CommandLine.Shell
import GridRobot.Proofs.CommandLine.Arguments
import GridRobot.Proofs.Service.Batches
import GridRobot.Proofs.Service.Submission
import GridRobot.Proofs.Value.Limits

/-!
# The command line and the service agree

A program can be run by a command or by the service. The two check it in another order, and the
command leaves to the start of the run what the service checks by itself. And yet the command fails
exactly if the service refuses the program, and else it tells the events that the service hands out
and the outcome that it comes to.

* `tell_eq`: what is told of a run;
* `runCommand_cases`: the command tells a run exactly if the service can make one;
* `Service.createRun_delivers`: what is handed out of a run that the service makes.

The two do part where the command cannot take in what it is given: a number with too many digits on
the command line, and a file beyond the limits of the reader.
-/

namespace GridRobot

/-! ## The world of a run -/

namespace Run

theorem world_cancel (now : Number) (r : Run) : (r.cancel now).2.world = r.world := by
  unfold cancel
  split <;> rfl

theorem world_conclude (now : Number) (r : Run) : (r.conclude now).world = r.world := by
  unfold conclude
  dsimp only
  split
  · exact r.world_cancel now
  · rfl

theorem world_pull (now : Number) (r : Run) : (r.pull now).2.world = r.world := by
  unfold pull
  split
  · rfl
  · obtain ⟨e | - | f, m⟩ := r.machine.pull (fun _ => r.cancelRequested)
    · rfl
    · exact world_conclude now _
    · cases f <;> rfl

theorem world_step (now : Number) (r : Run) : (r.step now).2.world = r.world := by
  unfold step
  split
  · exact world_pull now _
  · exact world_pull now r
  · rfl
  · rfl

/-- Pulling any number of events leaves the world alone. -/
theorem world_stepsFrom (now : Number) (pulled : List Event) (n : Nat) (r : Run) :
    (r.stepsFrom now pulled n).2.world = r.world := by
  induction n generalizing r pulled with
  | zero => rfl
  | succ n ih =>
    have hstep := r.world_step now
    rw [stepsFrom]
    rcases hanswer : r.step now with ⟨f | (- | e), r'⟩
    · rwa [hanswer] at hstep
    · rwa [hanswer] at hstep
    · rw [hanswer] at hstep
      exact (ih (e :: pulled) r').trans hstep

theorem world_steps (now : Number) (n : Nat) (r : Run) : (r.steps now n).2.world = r.world := by
  have hworld := r.world_stepsFrom now [] n
  rw [steps]
  rcases hsteps : r.stepsFrom now [] n with ⟨⟨pulled, - | f⟩, r'⟩
  · rwa [hsteps] at hworld
  · rwa [hsteps] at hworld

/-- A run stays in its world. -/
theorem world_runToEnd (now : Number) (r : Run) : (r.runToEnd now).2.world = r.world :=
  r.world_steps now (r.machine.work + 1)

end Run

/-! ## Runs that the service makes -/

/-- A run that can be made is made, and along any history of harmless requests it is delivered. Once
it is done, its outcome can be asked for. -/
theorem Service.createRun_delivers {s : Service} {sub : Submission} {l : Level} {p : Program}
    {w : World} {ttl : Number} {max : Int} (hfresh : s.registry.Fresh)
    (hage : s.maxAge.number? = some ttl) (hmax : s.maxBatch = .int max) (hpos : 1 ≤ max)
    (hplan : s.plan sub = .ok (l, p, w)) (now : Number) :
    ∃ view s' es o, s.createRun now sub = (.ok view, s') ∧ p.run w l.goal = .ok (es, o) ∧
      ∀ history : History, (∀ step ∈ history, step.2.Harmless view.id) →
        s'.Spares view.id history →
        Delivers es o (history.sizes view.id max) (s'.batches view.id history) ∧
          ((s'.batches view.id history).any (·.done) →
            (s'.after history).getOutcome view.id = .ok (some o)) := by
  obtain ⟨hexamine, -, hlaunch⟩ := plan_eq_ok hplan
  obtain ⟨-, hread⟩ := examine_eq_ok hexamine
  obtain ⟨es, o, hrun, hknows⟩ := knows_withNew hfresh hlaunch hread now sub l w
  have hcreate := createRun_eq hfresh (sweep_eq_ok hage now) sub
  rw [hplan] at hcreate
  refine ⟨_, _, es, o, hcreate, hrun, ?_⟩
  intro history hharmless hspares
  have hkey : s.registry.nextId.isKey := Registry.isKey_idAt _
  have hmax' : (s.withNew now sub l p w).maxBatch = .int max := hmax
  obtain ⟨hserved, rest, -, hend⟩ :=
    hknows.served hrun hkey hmax' hpos (s.spent_withNew now sub l p w) hharmless hspares
  rw [Bool.false_or] at hend
  exact ⟨hserved.delivers, fun hdone => hend.getOutcome hkey hdone⟩

/-- Nothing is made of a submission that is refused. -/
theorem Service.createRun_refuses {s : Service} {sub : Submission} {f : Refusal} {ttl : Number}
    (hage : s.maxAge.number? = some ttl) (hplan : s.plan sub = .error f) (now : Number) :
    (s.createRun now sub).1 = .error f := by
  rcases createRun_cases hage now sub with ⟨f', hf', hcreate⟩ | ⟨⟨planned, hok⟩, -⟩
  · rw [hplan] at hf'
    cases hf'
    rw [hcreate]
  · rw [hplan] at hok
    cases hok

namespace CommandLine

/-! ## What is told of a run -/

/-- The lines that tell a run: the level, where it starts and shall end, a line for every event, a
line if the program was stopped early, and the verdict. -/
def told (l : Level) (w : World) (es : List Event) (o : Outcome) : List String :=
  [s!"Level {l.number}: {l.name}", s!"Start {w.start.text}, goal {w.goal.text}"] ++
    es.map eventLine ++
    (if o.stoppedEarly then ["Program stopped early at a BREAK outside any loop"] else []) ++
    [o.verdict.message]

variable {l : Level} {p : Program} {w : World} {es : List Event} {o : Outcome}

/-- A new run of a program that does not break off is told to its end. -/
theorem tell_eq (id : Value) (hrun : p.run w l.goal = .ok (es, o)) :
    tell l (Run.new id 0 p w l.goal) =
      .printing (told l w es o) (if o.verdict.success then 0 else 2) := by
  have htracks := Run.tracks_new id 0 p w l.goal es (.ok o)
  obtain ⟨got, r, -, hend, htracks', hyields, hover⟩ := htracks.runToEnd hrun 0
  -- nobody has cancelled the run, so it is over because it is finished
  have hfinished : r.phase = .finished := by
    rcases Run.isActive_eq_false_iff.1 hover with hphase | hphase
    · exact hphase
    · cases hyields.cancelled hphase
  have houtcome : r.outcome = some o := by
    rw [htracks'.outcome_eq, if_pos hfinished]
    rfl
  have hworld := Run.world_runToEnd 0 (Run.new id 0 p w l.goal)
  rw [hend] at hworld
  have hstart : r.world = w := hworld
  rw [tell, hend]
  dsimp only
  rw [houtcome, (htracks'.finished hfinished).2.1, hstart]
  dsimp only
  rw [outcomeLines, told, List.append_assoc _ _ [o.verdict.message]]

/-! ## The gates of the command -/

variable {env : Surroundings} {path text : Text} {vs : List Value} {level seed : Int} {s : Service}

/-- If a text holds a list, its program is read from that list. -/
theorem parse_of_list {nesting : Nat} {t : Text} (h : Value.parse nesting t = .ok (.list vs)) :
    Program.parse nesting t = Program.ofRecords (.list vs) := by
  rw [Program.parse, h]
  rfl

/-- The program in a file that holds a list is what can be read from the list. -/
theorem loadProgram_cases (hfile : env.file path = .ok text)
    (hread : Value.parse env.nesting ⟨unixLines text.glyphs⟩ = .ok (.list vs)) :
    (∃ p, Program.ofRecords (.list vs) = .ok p ∧ loadProgram env path = .ok p) ∨
      (∃ e, Program.ofRecords (.list vs) = .error e) ∧
        ∃ r, loadProgram env path = .error r ∧ r.exit = 1 := by
  rw [loadProgram, hfile]
  dsimp only
  rw [parse_of_list hread, Program.ofRecords]
  split
  · next blocks _ => exact Or.inl ⟨blocks, rfl, rfl⟩
  · exact Or.inr ⟨⟨_, rfl⟩, _, rfl, rfl⟩

/-- What the service needs to make a run of a list of records for a seed. -/
theorem plan_eq_ok_iff_gates :
    s.plan ⟨level, vs, some seed⟩ = .ok (l, p, w) ↔
      Level.find? level = some l ∧ Program.ofRecords (.list vs) = .ok p ∧ vs ≠ [] ∧
        (p.check l.rules).issues = [] ∧ l.world seed = .ok w := by
  rw [Service.plan_eq_ok_iff, Service.examine_eq_ok_iff, Service.makeWorld_eq_ok_iff,
    Service.requireLevel_eq_ok_iff, ← Level.find?_eq_some_iff]
  simp only [and_assoc, Option.getD_some]

/-- What cannot be planned is refused. -/
theorem exists_refusal {sub : Submission} (h : ∀ l p w, s.plan sub ≠ .ok (l, p, w)) :
    ∃ f, s.plan sub = .error f := by
  rcases hplan : s.plan sub with f | ⟨l, p, w⟩
  · exact ⟨f, rfl⟩
  · exact absurd hplan (h l p w)

/-- A program that starts was not read from an empty list. -/
theorem ne_nil_of_launchFault? (hread : Program.ofRecords (.list vs) = .ok p)
    (h : Run.launchFault? p = none) : vs ≠ [] := by
  intro hvs
  have hempty : p.isEmpty = true := by
    rw [Service.isEmpty_ofRecords hread, hvs]
    rfl
  rw [Run.launchFault?, hempty] at h
  cases h

/-- A program that has been read is told if it passes the gates behind the reader, and else the
command fails. -/
theorem runProgram_cases (env : Surroundings) (l : Level) (seed : Int)
    (hread : Program.ofRecords (.list vs) = .ok p) :
    (∃ w, (vs ≠ [] ∧ (p.check l.rules).issues = [] ∧ l.world seed = .ok w) ∧
        runProgram env l p (some (.value seed)) = tell l (Run.new (.text "") 0 p w l.goal)) ∨
      (∀ w, ¬ (vs ≠ [] ∧ (p.check l.rules).issues = [] ∧ l.world seed = .ok w)) ∧
        (runProgram env l p (some (.value seed))).exit = 1 := by
  rw [runProgram]
  cases hissues : (p.check l.rules).issues with
  | cons issue issues =>
    -- the issues are told, or the command breaks off because one of them cannot be
    refine Or.inr ⟨?_, ?_⟩
    · rintro w ⟨-, hnone, -⟩
      cases hnone
    · show (if _ then Result.printing _ 1 else Result.broken .unwritable).exit = 1
      split <;> rfl
  | nil =>
    dsimp only
    rw [runProgram.onLayout]
    cases hworld : l.world seed with
    | error f =>
      refine Or.inr ⟨?_, rfl⟩
      rintro w ⟨-, -, hw⟩
      cases hw
    | ok w =>
      dsimp only
      rw [Run.launch]
      cases hlaunch : Run.launchFault? p with
      | none => exact Or.inl ⟨w, ⟨ne_nil_of_launchFault? hread hlaunch, rfl, rfl⟩, rfl⟩
      | some f =>
        -- only an empty program comes so far and does not start
        refine Or.inr ⟨?_, rfl⟩
        rintro w' ⟨hsome, -, -⟩
        have hsuits := ((Service.check_level_eq_nil_iff hread).1 hissues).1
        rw [Service.launchFault?_eq_none hread hsome hsuits] at hlaunch
        cases hlaunch

/-- The command tells a run if the service can make one of the same program, and else it fails. -/
theorem runCommand_cases (s : Service) (hfile : env.file path = .ok text)
    (hread : Value.parse env.nesting ⟨unixLines text.glyphs⟩ = .ok (.list vs)) (level seed : Int) :
    (∃ l p w, s.plan ⟨level, vs, some seed⟩ = .ok (l, p, w) ∧
        runCommand env (.run path (.value level) (some (.value seed))) =
          tell l (Run.new (.text "") 0 p w l.goal)) ∨
      (∃ f, s.plan ⟨level, vs, some seed⟩ = .error f) ∧
        (runCommand env (.run path (.value level) (some (.value seed)))).exit = 1 := by
  rw [runCommand, load]
  cases hfind : Level.find? level with
  | none =>
    -- both sides look the level up first
    refine Or.inr ⟨exists_refusal ?_, rfl⟩
    intro l p w hplan
    rw [(plan_eq_ok_iff_gates.1 hplan).1] at hfind
    cases hfind
  | some l =>
    dsimp only
    -- then the file is read, and only then is the program checked
    rcases loadProgram_cases hfile hread with ⟨p, hp, hload⟩ | ⟨⟨e, he⟩, r, hload, hexit⟩
    · rw [hload]
      rcases runProgram_cases env l seed hp with ⟨w, hgates, htell⟩ | ⟨hnone, hexit⟩
      · exact Or.inl ⟨l, p, w, plan_eq_ok_iff_gates.2 ⟨hfind, hp, hgates⟩, htell⟩
      · refine Or.inr ⟨exists_refusal ?_, hexit⟩
        intro l' p' w hplan
        obtain ⟨hfind', hp', hgates⟩ := plan_eq_ok_iff_gates.1 hplan
        cases hfind.symm.trans hfind'
        cases hp.symm.trans hp'
        exact hnone w hgates
    · rw [hload]
      refine Or.inr ⟨exists_refusal ?_, hexit⟩
      intro l' p w hplan
      rw [(plan_eq_ok_iff_gates.1 hplan).2.1] at he
      cases he

/-! ## Pulling a run to its end -/

/-- Requests that pull a run so many times, with as many events as the service hands out at once. -/
def pulls (id : Value) (now : Number) (n : Nat) : History :=
  List.replicate n (now, .pullEvents id .null)

/-- Pulling a run does it no harm. -/
theorem harmless_pulls (id : Value) (now : Number) (n : Nat) :
    ∀ step ∈ pulls id now n, step.2.Harmless id := by
  intro step hstep
  rw [List.eq_of_mem_replicate hstep]
  exact fun _ => Or.inl rfl

/-- Pulls of the run itself leave it in the registry. -/
theorem spares_pulls (s : Service) (id : Value) (now : Number) (n : Nat) :
    s.Spares id (pulls id now n) := by
  induction n generalizing s with
  | zero => exact trivial
  | succ n ih => exact ⟨rfl, ih _⟩

theorem length_sizes_pulls (id : Value) (now : Number) (max : Int) (n : Nat) :
    ((pulls id now n).sizes id max).length = n := by
  simp [pulls, History.sizes, Request.size?]

/-- More pulls than there are events bring a run to its end. -/
theorem any_done_of_delivers {id : Value} {now : Number} {max : Int} {n : Nat} {bs : List Batch}
    (hn : es.length < n) (h : Delivers es o ((pulls id now n).sizes id max) bs) :
    bs.any (·.done) = true := by
  have hlength : es.length < bs.length := by
    rwa [← h.sized.length_eq, length_sizes_pulls]
  have hlast : bs[es.length]? = some bs[es.length] := List.getElem?_eq_getElem hlength
  exact List.any_eq_true.2 ⟨_, List.getElem_mem hlength, h.ends _ _ hlast (Nat.le_refl _)⟩

/-! ## The verdicts agree -/

/-- Arguments that are read as a command run it. -/
theorem runArguments_eq {args : List Text} {c : Command} (h : readArguments args = .ok (some c)) :
    runArguments env args = runCommand env c := by
  rw [runArguments, h]

/-- A plain line with numbers that can be read says to run the program. -/
theorem readArguments_of_fits (hpath : path.glyphs.head? ≠ some (.char '-'))
    (hlevel : Numeral.fits level = true) (hseed : Numeral.fits seed = true) :
    readArguments (plainLine path level seed) =
      .ok (some (.run path (.value level) (some (.value seed)))) := by
  rw [readArguments_plainLine hpath, if_pos hlevel, if_pos hseed]

/-- The command line and the service give the same verdict. Let a file hold what the reader of files
takes for a list. The plain line says that the program in it shall be run on a level for a seed, if
the path does not look like a flag and the numbers are not too long to be read. Whatever arguments
say so, the command fails exactly if the service refuses to make a run of the list. Otherwise it
tells the events that are handed out when the run is pulled, however it is pulled, and the outcome
that it comes to, and ends well exactly if that is a success. -/
theorem verdict_agrees {ttl : Number} {max : Int} (hfile : env.file path = .ok text)
    (hread : Value.parse env.nesting ⟨unixLines text.glyphs⟩ = .ok (.list vs))
    (hfresh : s.registry.Fresh) (hage : s.maxAge.number? = some ttl)
    (hmax : s.maxBatch = .int max) (hpos : 1 ≤ max) (level seed : Int) (now : Number) :
    let command : Command := .run path (.value level) (some (.value seed))
    let sub : Submission := ⟨level, vs, some seed⟩
    (path.glyphs.head? ≠ some (.char '-') → Numeral.fits level = true →
        Numeral.fits seed = true →
        readArguments (plainLine path level seed) = .ok (some command)) ∧
      ∀ args, readArguments args = .ok (some command) →
        let r := runArguments env args
        (r.exit = 1 ↔ ∃ f, (s.createRun now sub).1 = .error f) ∧
          ∀ view s', s.createRun now sub = (.ok view, s') →
            ∃ l w es o, Level.find? level = some l ∧ l.world seed = .ok w ∧
              r = .printing (told l w es o) (if o.verdict.success then 0 else 2) ∧
              (s'.after (pulls view.id now (es.length + 1))).getOutcome view.id = .ok (some o) ∧
              ∀ history : History, (∀ step ∈ history, step.2.Harmless view.id) →
                s'.Spares view.id history →
                Delivers es o (history.sizes view.id max) (s'.batches view.id history) ∧
                  ((s'.batches view.id history).any (·.done) →
                    (s'.after history).getOutcome view.id = .ok (some o)) := by
  intro command sub
  refine ⟨readArguments_of_fits, ?_⟩
  intro args hargs r
  have hr : r = runCommand env command := runArguments_eq hargs
  rcases runCommand_cases s hfile hread level seed with
    ⟨l, p, w, hplan, htell⟩ | ⟨⟨f, hplan⟩, hexit⟩
  · -- the service makes a run, and the command tells one of the same program
    obtain ⟨hfind, -, -, -, hworld⟩ := plan_eq_ok_iff_gates.1 hplan
    obtain ⟨view, s', es, o, hcreate, hrun, hall⟩ :=
      Service.createRun_delivers hfresh hage hmax hpos hplan now
    have hprints : r = .printing (told l w es o) (if o.verdict.success then 0 else 2) := by
      rw [hr, htell, tell_eq _ hrun]
    rw [hcreate]
    constructor
    · constructor
      · intro hone
        rw [hprints] at hone
        cases hsuccess : o.verdict.success <;> simp [Result.printing, hsuccess] at hone
      · rintro ⟨f, hf⟩
        cases hf
    · intro view' s'' hview
      cases hview
      refine ⟨l, w, es, o, hfind, hworld, hprints, ?_, hall⟩
      obtain ⟨hdelivers, houtcome⟩ := hall _ (harmless_pulls _ now _) (spares_pulls _ _ now _)
      exact houtcome (any_done_of_delivers (Nat.lt_succ_self _) hdelivers)
  · -- the service refuses the program, and the command fails
    have hrefused := Service.createRun_refuses hage hplan now
    constructor
    · rw [hr, hexit, hrefused]
      exact ⟨fun _ => ⟨f, rfl⟩, fun _ => rfl⟩
    · intro view s' hview
      rw [hview] at hrefused
      cases hrefused

/-- Two steps to the right, the first of them with a note that nobody reads. -/
def noted (note : Value) : List Value := [
  .record [("note", note), ("type", .text "RIGHT")], .record [("type", .text "RIGHT")]]

/-- Surroundings in which every file holds the same text. -/
def holding (nesting : Nat) (text : Text) : Surroundings :=
  { file := fun _ => .ok text, nesting := nesting }

/-- A line in another order and spelling, a file with other line ends and a note in it: the command
and the service win, and the plain line says the same. -/
theorem verdict_agrees_noted :
    let text : Text :=
      "[\x7b\"note\": [null], \"type\": \"RIGHT\"\x7d,\r\n \x7b\"type\": \"RIGHT\"\x7d]"
    let env := holding 3 text
    let args : List Text := ["run", "-l1", "p", "--seed=-5"]
    let vs := noted (.list [.null])
    let s : Service := {}
    readArguments args = .ok (some (.run "p" (.value 1) (some (.value (-5))))) ∧
      Value.parse env.nesting ⟨unixLines text.glyphs⟩ = .ok (.list vs) ∧ s.registry.Fresh ∧
      runArguments env (plainLine "p" 1 (-5)) = runArguments env args ∧
      ∃ view s' l w es o, s.createRun 0 ⟨1, vs, some (-5)⟩ = (.ok view, s') ∧
        runArguments env args = .printing (told l w es o) 0 ∧ o.verdict.success = true ∧
        (s'.after (pulls view.id 0 (es.length + 1))).getOutcome view.id = .ok (some o) := by
  intro text env args vs s
  have hargs : readArguments args = .ok (some (.run "p" (.value 1) (some (.value (-5))))) := by
    decide +kernel
  have hread : Value.parse env.nesting ⟨unixLines text.glyphs⟩ = .ok (.list vs) := by
    decide +kernel
  have hexit : (runArguments env args).exit = 0 := by decide +kernel
  have hfresh : s.registry.Fresh := Registry.fresh_empty
  have hfile : env.file "p" = .ok text := rfl
  have hage : s.maxAge.number? = some Registry.defaultMaxAge := by decide
  obtain ⟨hplain, hall⟩ := verdict_agrees hfile hread hfresh hage rfl (by decide) 1 (-5) 0
  have hline := hplain (by decide) (by decide) (by decide)
  have hsame : runArguments env (plainLine "p" 1 (-5)) = runArguments env args := by
    rw [runArguments_eq hline, runArguments_eq hargs]
  obtain ⟨hfails, htells⟩ := hall args hargs
  refine ⟨hargs, hread, hfresh, hsame, ?_⟩
  rcases hcreate : s.createRun 0 ⟨1, vs, some (-5)⟩ with ⟨f | view, s'⟩
  · rw [hcreate, hexit] at hfails
    exact absurd (hfails.2 ⟨f, rfl⟩) (by decide)
  · obtain ⟨l, w, es, o, -, -, hprints, houtcome, -⟩ := htells view s' hcreate
    have hsuccess : o.verdict.success = true := by
      rw [hprints] at hexit
      cases hsuccess : o.verdict.success with
      | true => rfl
      | false => simp [Result.printing, hsuccess] at hexit
    rw [hsuccess] at hprints
    exact ⟨view, s', l, w, es, o, rfl, hprints, hsuccess, houtcome⟩

/-! ## Beyond the limits -/

/-- A line with a number that is too long is not run. -/
theorem exit_plainLine (env : Surroundings) (hpath : path.glyphs.head? ≠ some (.char '-'))
    (h : Numeral.fits level = false ∨ Numeral.fits seed = false) :
    (runArguments env (plainLine path level seed)).exit = 2 := by
  rw [runArguments, readArguments_plainLine hpath]
  rcases h with hlevel | hseed
  · rw [hlevel]
    rfl
  · rw [hseed]
    cases Numeral.fits level <;> rfl

/-- A text without carriage returns stays as it is. -/
theorem unixLines_eq_self {gs : List Glyph} (h : .char '\r' ∉ gs) : unixLines gs = gs := by
  fun_induction unixLines gs with
  | case1 => simp at h
  | case2 => simp at h
  | case3 g gs _ _ ih => rw [ih (List.not_mem_of_not_mem_cons h)]
  | case4 => rfl

theorem not_mem_toString (n : Int) : .char '\r' ∉ Glyph.ofChars (toString n).toList := by
  intro h
  obtain ⟨c, hc, heq⟩ := List.mem_map.1 h
  cases heq
  rw [Numeral.toList_toString, List.mem_append] at hc
  rcases hc with hsign | hdigit
  · split at hsign
    · exact absurd hsign (by decide)
    · cases hsign
  · exact absurd (Source.isDigit_of_mem_toDigits hdigit) (by decide)

/-- What the reader cannot take in breaks the command off. -/
theorem loadProgram_beyond {e : SourceFailure} (hfile : env.file path = .ok text)
    (hread : Source.document env.nesting (unixLines text.glyphs) = .error e)
    (hlimit : e.problem.isMalformed = false) :
    loadProgram env path = .error (.broken (.beyondLimits e.problem)) := by
  rw [loadProgram, hfile]
  dsimp only
  rw [Program.parse, Value.parse, hread]
  dsimp only
  rw [hlimit]
  rfl

/-- How the two steps are written around the note. -/
theorem write_noted (note : Value) :
    (Value.list (noted note)).write .plain 0 =
      .char '[' :: .char '\x7b' :: (Value.writeText "note" ++ (Value.colon ++
        (note.write .plain 2 ++ Glyph.ofChars
          ", \"type\": \"RIGHT\"\x7d, \x7b\"type\": \"RIGHT\"\x7d]".toList))) := by
  have htail : Glyph.ofChars [',', ' '] ++ (Value.writeText "type" ++ (Value.colon ++
      (Value.writeText "RIGHT" ++ .char '\x7d' :: (Glyph.ofChars [',', ' '] ++
        .char '\x7b' :: (Value.writeText "type" ++ (Value.colon ++
          (Value.writeText "RIGHT" ++ [.char '\x7d', .char ']']))))))) =
      Glyph.ofChars ", \"type\": \"RIGHT\"\x7d, \x7b\"type\": \"RIGHT\"\x7d]".toList := by
    decide +kernel
  rw [← htail]
  simp [noted, Value.write, Value.writeItems, Value.writeFields, Value.Style.lead,
    Value.Style.separator]

/-- A note that the reader cannot take in breaks the command off, wherever the line is run. -/
theorem runArguments_noted {note : Value} {problem : SourceProblem} {room : Nat}
    (hopens : Source.Opens (note.write .plain 2)) (hclean : .char '\r' ∉ note.write .plain 2)
    (hlimit : problem.isMalformed = false)
    (hstops : ∀ rest, Source.Ends rest → ∃ left, ∀ fuel,
      2 * (note.write .plain 2 ++ rest).length ≤ fuel →
        Source.value fuel room (note.write .plain 2 ++ rest) = .error ⟨problem, left⟩) :
    runArguments (holding (room + 2) ((Value.list (noted note)).render .plain))
      (plainLine "p" 1 7) = .broken (.beyondLimits problem) := by
  have htail : Source.Ends (Glyph.ofChars
      ", \"type\": \"RIGHT\"\x7d, \x7b\"type\": \"RIGHT\"\x7d]".toList) :=
    Source.Ends.cons (by decide) _
  obtain ⟨left, hstops⟩ := hstops _ htail
  have hdocument := Source.document_of_field (Text.isWhole_ofString "note") (hopens.append _) hstops
  rw [← write_noted] at hdocument
  have hlines : unixLines ((Value.list (noted note)).write .plain 0) =
      (Value.list (noted note)).write .plain 0 := by
    apply unixLines_eq_self
    rw [write_noted, List.mem_cons, List.mem_cons, List.mem_append, List.mem_append,
      List.mem_append]
    rintro (h | h | h | h | h | h)
    · cases h
    · cases h
    · exact absurd h (by decide)
    · exact absurd h (by decide)
    · exact hclean h
    · exact absurd h (by decide +kernel)
  rw [← hlines] at hdocument
  have hload : loadProgram (holding (room + 2) ((Value.list (noted note)).render .plain)) "p" =
      .error (.broken (.beyondLimits problem)) :=
    loadProgram_beyond (e := ⟨problem, left⟩) rfl hdocument hlimit
  obtain ⟨l, hfind⟩ : ∃ l, Level.find? 1 = some l := ⟨_, rfl⟩
  have hargs : readArguments (plainLine "p" 1 7) =
      .ok (some (.run "p" (.value 1) (some (.value 7)))) :=
    readArguments_of_fits (by decide) (by decide) (by decide)
  rw [runArguments_eq hargs, runCommand, load, hfind]
  dsimp only
  rw [hload]
  rfl

theorem not_mem_nested (n : Nat) : .char '\r' ∉ (Value.nested n).write .plain 2 := by
  rw [Value.write_nested, List.mem_append, List.mem_replicate, List.mem_replicate]
  rintro (⟨-, h⟩ | ⟨-, h⟩)
  · cases h
  · cases h

/-- The reader stops at lists that are nested one level deeper than it has room for. -/
theorem stops_nested (n : Nat) (rest : List Glyph) :
    ∃ left, ∀ fuel, 2 * ((Value.nested n).write .plain 2 ++ rest).length ≤ fuel →
      Source.value fuel n ((Value.nested n).write .plain 2 ++ rest) =
        .error ⟨.listTooDeep, left⟩ := by
  rw [Value.write_nested, List.append_assoc]
  refine ⟨_, fun fuel hfuel => Source.value_nested _ ?_⟩
  simp only [List.length_append, List.length_replicate] at hfuel
  omega

/-- The reader stops at an integer that has too many digits, whatever room there is. -/
theorem stops_long {n : Int} {room : Nat} {rest : List Glyph}
    (hlong : 4300 < (Nat.toDigits 10 n.natAbs).length) (hends : Source.Ends rest) :
    ∃ left, ∀ fuel, 2 * ((Value.int n).write .plain 2 ++ rest).length ≤ fuel →
      Source.value fuel room ((Value.int n).write .plain 2 ++ rest) =
        .error ⟨.tooManyDigits (Nat.toDigits 10 n.natAbs).length, left⟩ := by
  rw [Value.write]
  refine ⟨_, fun fuel hfuel => Source.value_long hlong hends ?_⟩
  obtain ⟨g, gs, hgs, -⟩ := Source.opens_int n
  rw [hgs, List.length_append, List.length_cons] at hfuel
  omega

/-- Two steps to the right. -/
def twoSteps : Program := [.move (.known .right), .move (.known .right)]

/-- The note does not matter to the reader of programs. -/
theorem ofRecords_noted (note : Value) : Program.ofRecords (.list (noted note)) = .ok twoSteps := by
  have hkind : Grammar.OfKind (.record [("note", note), ("type", .text "RIGHT")]) .right := by
    refine ⟨.text "RIGHT", ?_, by decide, Block.spells_kind .right⟩
    rw [Value.field?, Block.lookup_ofString, if_neg (by decide), Block.lookup_ofString, if_pos rfl]
  have hfirst : Block.ofRecord Block.maxDepth
      (.record [("note", note), ("type", .text "RIGHT")]) = .ok (.move (.known .right)) :=
    Block.ofRecord_succ_eq_ok_iff.2 ⟨.right, hkind, Or.inl ⟨rfl, rfl⟩⟩
  have hsecond : Block.ofRecord Block.maxDepth (.record [("type", .text "RIGHT")]) =
      .ok (.move (.known .right)) :=
    Block.ofRecord_leaf 15 (k := .right) rfl
  exact Program.ofRecords_eq_ok_iff.2 ⟨_, rfl, .cons hfirst (.cons hsecond .nil)⟩

/-- The layout of the first level is given, and two steps win it. -/
theorem twoSteps_win : ∃ l w, Level.find? 1 = some l ∧ (∀ seed, l.world seed = .ok w) ∧
    (twoSteps.check l.rules).issues = [] ∧
    ∃ es o, twoSteps.run w l.goal = .ok (es, o) ∧ es.length = 2 ∧ o.verdict.success = true := by
  have hworld : Layout.world ⟨1, 2⟩ ⟨3, 2⟩ [] [] = .ok ⟨6, ⟨1, 2⟩, ⟨3, 2⟩, [], []⟩ := by
    decide +kernel
  refine ⟨_, _, rfl, fun seed => hworld, by decide +kernel, ?_⟩
  exact ⟨_, _, rfl, rfl, rfl⟩

/-- The service wins with the two steps, whatever the note and the seed. -/
theorem createRun_noted (note : Value) (seed : Int) :
    ∃ view s' o, Service.createRun {} 0 ⟨1, noted note, some seed⟩ = (.ok view, s') ∧
      (s'.after (pulls view.id 0 3)).getOutcome view.id = .ok (some o) ∧
      o.verdict.success = true := by
  obtain ⟨l, w, hfind, hworld, hissues, es, o, hrun, hlength, hsuccess⟩ := twoSteps_win
  have hplan : Service.plan {} ⟨1, noted note, some seed⟩ = .ok (l, twoSteps, w) :=
    plan_eq_ok_iff_gates.2
      ⟨hfind, ofRecords_noted note, List.cons_ne_nil _ _, hissues, hworld seed⟩
  have hage : Value.number? (Service.maxAge {}) = some Registry.defaultMaxAge := by decide
  obtain ⟨view, s', es', o', hcreate, hrun', hall⟩ :=
    Service.createRun_delivers Registry.fresh_empty hage rfl (by decide) hplan 0
  rw [hrun] at hrun'
  cases hrun'
  obtain ⟨hdelivers, houtcome⟩ := hall _ (harmless_pulls _ 0 3) (spares_pulls _ _ 0 3)
  have hdone := any_done_of_delivers (by omega) hdelivers
  exact ⟨view, s', o, hcreate, houtcome hdone, hsuccess⟩

/-- Beyond the limits the verdicts part. The service wins with two steps whatever their note and the
seed, and refuses a level that is not there. But the command does not take a level or a seed with
too many digits. And however deep the reader of files goes, it breaks off at a note that is nested
deeper or is such a number itself. -/
theorem verdicts_part_beyond_limits :
    let s : Service := {}
    let file (room : Nat) (note : Value) :=
      holding (room + 2) ((Value.list (noted note)).render .plain)
    let long := Numeral.tooBig
    (∀ note seed, ∃ view s' o, s.createRun 0 ⟨1, noted note, some seed⟩ = (.ok view, s') ∧
        (s'.after (pulls view.id 0 3)).getOutcome view.id = .ok (some o) ∧
        o.verdict.success = true) ∧
      (∃ f, (s.createRun 0 ⟨long, noted .null, some 7⟩).1 = .error f) ∧
      ∀ room, (runArguments (file room .null) (plainLine "p" 1 long)).exit = 2 ∧
        (runArguments (file room .null) (plainLine "p" long 7)).exit = 2 ∧
        runArguments (file room (.nested room)) (plainLine "p" 1 7) =
          .broken (.beyondLimits .listTooDeep) ∧
        runArguments (file room (.int long)) (plainLine "p" 1 7) =
          .broken (.beyondLimits (.tooManyDigits 4301)) := by
  intro s file long
  have hlong : 4300 < (Nat.toDigits 10 long.natAbs).length := by
    rw [Numeral.length_tooBig]
    decide
  refine ⟨createRun_noted, ?_, ?_⟩
  · have hnone : Level.find? long = none := by decide +kernel
    obtain ⟨f, hplan⟩ : ∃ f, s.plan ⟨long, noted .null, some 7⟩ = .error f := by
      apply exists_refusal
      intro l p w hplan
      rw [(plan_eq_ok_iff_gates.1 hplan).1] at hnone
      cases hnone
    have hage : s.maxAge.number? = some Registry.defaultMaxAge := by decide
    exact ⟨f, Service.createRun_refuses hage hplan 0⟩
  · intro room
    refine ⟨?_, ?_, ?_, ?_⟩
    · exact exit_plainLine _ (by decide) (Or.inr Numeral.fits_tooBig)
    · exact exit_plainLine _ (by decide) (Or.inl Numeral.fits_tooBig)
    · -- the note is nested deeper than there is room for
      apply runArguments_noted
      · rw [Value.write_nested]
        exact (Source.opens_bracket _).append _
      · exact not_mem_nested room
      · rfl
      · exact fun rest _ => stops_nested room rest
    · -- the note is a number that is too long
      have hdigits : (Nat.toDigits 10 long.natAbs).length = 4301 := Numeral.length_tooBig
      rw [← hdigits]
      apply runArguments_noted
      · rw [Value.write]
        exact Source.opens_int long
      · rw [Value.write]
        exact not_mem_toString long
      · rfl
      · exact fun rest hends => stops_long hlong hends

end CommandLine

end GridRobot
