import GridRobot.Block
import GridRobot.Block.Record
import GridRobot.Cell
import GridRobot.CommandLine.Arguments
import GridRobot.CommandLine.Command
import GridRobot.CommandLine.Folder
import GridRobot.CommandLine.Shell
import GridRobot.Editor
import GridRobot.Event
import GridRobot.Event.Record
import GridRobot.Execution
import GridRobot.Goal
import GridRobot.Http.Address
import GridRobot.Http.Body
import GridRobot.Http.Echo
import GridRobot.Http.Front
import GridRobot.Http.Route
import GridRobot.Item
import GridRobot.Item.Tally
import GridRobot.Level
import GridRobot.Level.Catalog
import GridRobot.Level.Custom
import GridRobot.Level.Layout
import GridRobot.Level.World
import GridRobot.Machine
import GridRobot.Main
import GridRobot.Number
import GridRobot.Number.Binary64
import GridRobot.Number.Bytes
import GridRobot.Number.Index
import GridRobot.Number.Layout
import GridRobot.Number.Numeral
import GridRobot.Number.Shortest
import GridRobot.Program.Check
import GridRobot.Proofs.CommandLine.Arguments
import GridRobot.Proofs.CommandLine.Verdict
import GridRobot.Proofs.Editor.Addresses
import GridRobot.Proofs.Editor.Budget
import GridRobot.Proofs.Editor.Edits
import GridRobot.Proofs.Editor.Handover
import GridRobot.Proofs.Editor.Locality
import GridRobot.Proofs.Editor.Palette
import GridRobot.Proofs.Editor.Removal
import GridRobot.Proofs.Execution.Account
import GridRobot.Proofs.Execution.Conditions
import GridRobot.Proofs.Execution.Errand
import GridRobot.Proofs.Execution.Independence
import GridRobot.Proofs.Execution.Inlining
import GridRobot.Proofs.Execution.Interruption
import GridRobot.Proofs.Execution.Resume
import GridRobot.Proofs.Execution.Rounds
import GridRobot.Proofs.Execution.Safety
import GridRobot.Proofs.Execution.Scoping
import GridRobot.Proofs.Execution.Solvable
import GridRobot.Proofs.Execution.Steps
import GridRobot.Proofs.Execution.Trace
import GridRobot.Proofs.Item.Gathering
import GridRobot.Proofs.Item.Pouch
import GridRobot.Proofs.Level.Layout
import GridRobot.Proofs.Level.Winnable
import GridRobot.Proofs.Number.Numeral
import GridRobot.Proofs.Program.Findings
import GridRobot.Proofs.Program.Fit
import GridRobot.Proofs.Program.Gap
import GridRobot.Proofs.Program.Grammar
import GridRobot.Proofs.Program.Shape
import GridRobot.Proofs.Program.Splice
import GridRobot.Proofs.Program.Text
import GridRobot.Proofs.Program.Tree
import GridRobot.Proofs.Program.Underived
import GridRobot.Proofs.Registry.Entries
import GridRobot.Proofs.Registry.Ledger
import GridRobot.Proofs.Registry.Session
import GridRobot.Proofs.Run.Cancellation
import GridRobot.Proofs.Run.Lifecycle
import GridRobot.Proofs.Run.Progress
import GridRobot.Proofs.Service.Batches
import GridRobot.Proofs.Service.History
import GridRobot.Proofs.Service.Isolation
import GridRobot.Proofs.Service.Submission
import GridRobot.Proofs.Value.Limits
import GridRobot.Proofs.Value.Spelling
import GridRobot.Proofs.Value.Token
import GridRobot.Proofs.World.Construction
import GridRobot.Proofs.World.Flood
import GridRobot.Proofs.World.Soundness
import GridRobot.Proofs.World.Walk
import GridRobot.Random.Digest
import GridRobot.Random.Seed
import GridRobot.Random.Source
import GridRobot.Random.Twister
import GridRobot.Registry
import GridRobot.Run
import GridRobot.Service
import GridRobot.Service.Field
import GridRobot.Service.Record
import GridRobot.Text
import GridRobot.Text.Capital
import GridRobot.Text.Digits
import GridRobot.Text.Encoding
import GridRobot.Text.Integer
import GridRobot.Text.Printable
import GridRobot.Text.Quoted
import GridRobot.Text.Summary
import GridRobot.Text.Utf8
import GridRobot.Value
import GridRobot.Value.Source
import GridRobot.World
import GridRobot.World.Reach
import GridRobot.World.Reading
