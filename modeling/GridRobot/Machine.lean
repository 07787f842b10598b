import GridRobot.Execution

/-!
# Execution in single steps

A machine runs a program one atomic action at a time, so that its host may stop between any two of
them. What is still to do is a stack of frames, innermost first. Looking for the next action does
not change the state of the robot: a body in which nothing acts now would not act in a further
repetition either, so a loop around it is passed over at once.
-/

namespace GridRobot

/-- A piece of a program that is still to run. -/
inductive Frame where
  /-- Siblings below a path, the first of them at the given index. -/
  | siblings (path : Path) (index : Nat) (blocks : List Block)
  /-- Further repetitions of the body of the loop at a path. -/
  | repetitions (path : Path) (count : Nat) (body : List Block)
deriving Repr

/-- An atomic action about to happen; the direction of a move may be no direction. -/
inductive Intent where
  | act (action : Action)
  | badMove (v : Value)
deriving DecidableEq, Repr

/-- What is found when the next action is looked for in some blocks. -/
inductive Search where
  /-- Nothing acts. -/
  | nothing
  /-- The block at a path acts next, and then the frames are to run. -/
  | found (intent : Intent) (path : Path) (rest : List Frame)
  /-- The program cannot go on. -/
  | fault (f : RunFault)

namespace Search

/-- More is to run after what was found. -/
def followedBy (s : Search) (frame : Frame) : Search :=
  match s with
  | found intent path rest => found intent path (rest ++ [frame])
  | s => s

end Search

variable {κ : Type} [Coordinate κ]

namespace Block

mutual
/-- The next action in the block at a path. -/
def search (w : World κ) (s : State κ) (path : Path) : Block → Search
  | .move (.known d) => .found (.act (.move d)) path []
  | .move (.other v) => .found (.badMove v) path []
  | .collect => .found (.act .collect) path []
  | .wait => .found (.act .wait) path []
  | .breakOut => .found (.act .breakOut) path []
  | .loop count body =>
    match count.count? with
    | some 0 => .nothing
    | some (n + 1) => (searchFrom w s path 0 body).followedBy (.repetitions path n body)
    | none => .fault (.badCount count)
  | .conditional condition body =>
    match condition.test w s with
    | .ok true => searchFrom w s path 0 body
    | .ok false => .nothing
    | .error f => .fault f
  | .function _ body => searchFrom w s path 0 body
  | .foreign v => .fault (.noHandler v.typeName path)
  | .derived name _ => .fault (.noHandler name path)

/-- The next action in siblings below a path. -/
def searchFrom (w : World κ) (s : State κ) (path : Path) (index : Nat) : List Block → Search
  | [] => .nothing
  | b :: bs =>
    match search w s (path ++ [index]) b with
    | .nothing => searchFrom w s path (index + 1) bs
    | found => found.followedBy (.siblings path (index + 1) bs)
end

end Block

/-- The next action in a frame. -/
def Frame.search (w : World κ) (s : State κ) : Frame → Search
  | .siblings path index blocks => Block.searchFrom w s path index blocks
  | .repetitions _ 0 _ => .nothing
  | .repetitions path (n + 1) body =>
    (Block.searchFrom w s path 0 body).followedBy (.repetitions path n body)

/-- The next action in a stack of frames. -/
def Frame.searchStack (w : World κ) (s : State κ) : List Frame → Search
  | [] => .nothing
  | frame :: frames =>
    match frame.search w s with
    | .nothing => searchStack w s frames
    | .found intent path rest => .found intent path (rest ++ frames)
    | .fault f => .fault f

/-- The frames that a break leaves: those below the innermost loop, if there is a loop. -/
def Frame.leaveLoop : List Frame → Option (List Frame)
  | [] => none
  | .siblings .. :: frames => leaveLoop frames
  | .repetitions .. :: frames => some frames

/-! ## Work left -/

mutual
/-- A bound on the number of actions of a block. -/
def Block.work : Block → Nat
  | .loop count body => count.count?.getD 0 * workAll body
  | .conditional _ body => workAll body
  | .function _ body => workAll body
  | .foreign _ => 0
  | .derived .. => 0
  | .move _ => 1
  | .collect => 1
  | .wait => 1
  | .breakOut => 1

/-- A bound on the number of actions of siblings. -/
def Block.workAll : List Block → Nat
  | [] => 0
  | b :: bs => b.work + workAll bs
end

/-- A bound on the number of actions of a frame. -/
def Frame.work : Frame → Nat
  | .siblings _ _ blocks => Block.workAll blocks
  | .repetitions _ count body => count * Block.workAll body

/-- A bound on the number of actions of a stack of frames. -/
def Frame.workAll : List Frame → Nat
  | [] => 0
  | frame :: frames => frame.work + workAll frames

/-! ## The machine -/

/-- A program on its way. -/
structure Machine (κ : Type := Int) where
  world : World κ
  frames : List Frame
  state : State κ
  /-- How often the host has been asked whether to cancel. -/
  checks : Nat := 0
  /-- Did a break outside every loop stop the program? -/
  stoppedEarly : Bool := false

namespace Machine

/-- A machine that has done nothing yet. -/
def start (w : World κ) (p : Program) : Machine κ where
  world := w
  frames := [.siblings [] 0 p]
  state := State.initial w

/-- The next action of a machine. -/
def next (m : Machine κ) : Search := Frame.searchStack m.world m.state m.frames

/-- The machine after an action of the block at a path, with the frames that are then to run. -/
def perform (m : Machine κ) (action : Action) (path : Path) (rest : List Frame) : Machine κ :=
  let state := action.perform m.world path m.state
  let checks := m.checks + 1
  if action = .breakOut then
    match Frame.leaveLoop rest with
    | some frames => { m with frames := frames, state := state, checks := checks }
    | none => { m with frames := [], state := state, checks := checks, stoppedEarly := true }
  else { m with frames := rest, state := state, checks := checks }

/-- A bound on the number of actions left. -/
def work (m : Machine κ) : Nat := Frame.workAll m.frames

/-- What one turn of a machine gives. -/
inductive Turn (κ : Type := Int) where
  /-- An action happened, and maybe emitted an event. -/
  | acted (event : Option (Event κ))
  /-- Nothing is left to do. -/
  | ended
  /-- The program cannot go on, or was cancelled. -/
  | failed (f : RunFault)
deriving DecidableEq, Repr

/-- Do the next action, unless the host cancels. The host is asked once in front of every action;
`cancel n` is its answer after `n` earlier questions. -/
def turn (cancel : Nat → Bool) (m : Machine κ) : Turn κ × Machine κ :=
  match m.next with
  | .nothing => (.ended, m)
  | .fault f => (.failed f, m)
  | .found intent path rest =>
    if cancel m.checks then (.failed .cancelled, { m with checks := m.checks + 1 })
    else
      match intent with
      | .badMove v => (.failed (.badDirection v), { m with checks := m.checks + 1 })
      | .act action =>
        let m := m.perform action path rest
        (.acted m.state.journal.head?.join, m)

/-- What a host that waits for events gets. -/
inductive Pull (κ : Type := Int) where
  | event (e : Event κ)
  | ended
  | failed (f : RunFault)
deriving DecidableEq, Repr

/-- Turn until there is an event, at most so many times. -/
def pullWithin (cancel : Nat → Bool) : (turns : Nat) → Machine κ → Pull κ × Machine κ
  | 0, m => (.ended, m)
  | turns + 1, m =>
    match m.turn cancel with
    | (.acted (some e), m) => (.event e, m)
    | (.acted none, m) => pullWithin cancel turns m
    | (.ended, m) => (.ended, m)
    | (.failed f, m) => (.failed f, m)

/-- Turn until there is an event or the program is over. Every action uses up some of the work left,
which bounds the number of turns. -/
def pull (cancel : Nat → Bool) (m : Machine κ) : Pull κ × Machine κ :=
  m.pullWithin cancel (m.work + 1)

/-- The outcome of a machine that has nothing left to do. -/
def outcome (m : Machine κ) (g : Goal κ) : Outcome κ :=
  m.state.outcome m.world g m.stoppedEarly

end Machine

end GridRobot
