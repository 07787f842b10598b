import GridRobot.Event.Record
import GridRobot.Service

/-!
# Records of replies

The exchange form of what the service replies. Cells are records with two coordinates, and a field
that has no value is null.
-/

namespace GridRobot

/-- The record of a cell. -/
def Cell.toRecord (c : Cell) : Value := .record [("x", .int c.x), ("y", .int c.y)]

/-- The record of an item. -/
def Item.toRecord (i : Item) : Value :=
  .record [("x", .int i.cell.x), ("y", .int i.cell.y), ("kind", .text i.kind.name)]

/-- The record of a world. -/
def World.toRecord (w : World) : Value := .record [
  ("grid_size", .int w.size),
  ("start", w.start.toRecord),
  ("goal", w.goal.toRecord),
  ("walls", .list (w.walls.map Cell.toRecord)),
  ("collectibles", .list (w.items.map Item.toRecord))]

/-- The short record of a level. -/
def Level.toShortRecord (l : Level) : Value := .record [
  ("level_id", .int l.number),
  ("name", .text l.name),
  ("concept", .text l.topic),
  ("max_blocks", .int l.limit),
  ("has_walls", .bool l.terrain.hasWalls),
  ("collectibles", .int l.terrain.items)]

/-- The record of an event in a batch. -/
def Event.toBatchRecord (e : Event) : Value := .record [
  ("sequence", .int e.sequence),
  ("kind", .text e.deed.name),
  ("actor_pos", e.position.toRecord),
  ("collected", .list (e.marks.map .bool)),
  ("block_path", .list (e.path.map (fun (index : Nat) => .int index))),
  ("direction", .ofOption (fun d => .text d.name) e.deed.direction?),
  ("target", .ofOption Cell.toRecord e.deed.target?),
  ("collectible", .ofOption Item.toRecord e.deed.item?)]

/-- The record of an outcome. -/
def Outcome.toRecord (o : Outcome) : Value := .record [
  ("success", .bool o.verdict.success),
  ("message", .text o.verdict.message),
  ("failure_code", .ofOption (fun f => .text f.code) o.verdict.failure?),
  ("final_position", o.position.toRecord),
  ("collected_count", .int o.takenCount),
  ("total_collectibles", .int o.marks.length),
  ("terminated_early", .bool o.stoppedEarly),
  ("steps", .int o.steps)]

/-- The record of a level with its world. -/
def LevelView.toRecord (v : LevelView) : Value := .record [
  ("level_id", .int v.level.number),
  ("name", .text v.level.name),
  ("concept", .text v.level.topic),
  ("tutorial", .text v.level.tutorial),
  ("instructions", .texts v.level.instructions),
  ("hints", .texts v.level.hints),
  ("max_blocks", .int v.level.limit),
  ("available_blocks", .list (v.level.palette.map (fun k => .text k.name))),
  ("required_concept", .ofOption (fun c => .text c.name) v.level.concept),
  ("seed", .ofOption .int v.seed),
  ("world", v.world.toRecord)]

/-- The record of how a run stands. -/
def RunView.toRecord (v : RunView) : Value := .record [
  ("run_id", v.id),
  ("level_id", v.level),
  ("state", .text v.phase.name),
  ("events_emitted", .int v.emitted),
  ("outcome", .ofOption Outcome.toRecord v.outcome),
  ("warnings", .list (v.warnings.map (fun w => .text w.message)))]

/-- The record of a batch. -/
def Batch.toRecord (b : Batch) : Value := .record [
  ("run_id", b.id),
  ("state", .text b.phase.name),
  ("events", .list (b.events.map Event.toBatchRecord)),
  ("done", .bool b.done),
  ("outcome", .ofOption Outcome.toRecord b.outcome)]

/-- The record of the answer to a request to cancel. -/
def CancelView.toRecord (v : CancelView) : Value := .record [
  ("run_id", v.id),
  ("cancelled", .bool v.cancelled),
  ("state", .text v.phase.name)]

/-- The record of the list of levels. -/
def Level.listRecord (levels : List Level) : Value := .record [
  ("levels", .list (levels.map Level.toShortRecord)),
  ("count", .int levels.length)]

/-- The record of a list of runs. -/
def Run.listRecord (ids : List Value) : Value := .record [
  ("runs", .list ids),
  ("count", .int ids.length)]

end GridRobot
