import FiveStage.Text.Blank
import FiveStage.Text.Line
import FiveStage.Text.Field
import FiveStage.Text.Digit
import FiveStage.Text.Upper
import FiveStage.Text.Printable
import FiveStage.Text.Quoted
import FiveStage.Text.Column
import FiveStage.Text.Utf8
import FiveStage.Numeral
import FiveStage.Decimal
import FiveStage.Binary64
import FiveStage.Binary64.Shortest
import FiveStage.Json
import FiveStage.Json.Display
import FiveStage.Json.Reader
import FiveStage.Misuse
import FiveStage.Number
import FiveStage.Json.Arithmetic
import FiveStage.Json.Order
import FiveStage.Json.Items
import FiveStage.Isa
import FiveStage.RegisterName
import FiveStage.Instruction
import FiveStage.Program
import FiveStage.Pipeline
import FiveStage.Hazard
import FiveStage.Bitwise
import FiveStage.MersenneTwister
import FiveStage.State.Basic
import FiveStage.State.Datapath
import FiveStage.State.Cycle
import FiveStage.State.Document
import FiveStage.State.Initial
import FiveStage.Settings
import FiveStage.Samples
import FiveStage.Log
import FiveStage.Files
import FiveStage.Fault
import FiveStage.Machine
import FiveStage.Engine
import FiveStage.Metrics
import FiveStage.Report
import FiveStage.Chart
import FiveStage.Autorun
import FiveStage.Loose.State
import FiveStage.Loose.Cycle
import FiveStage.Loose.Run
import FiveStage.Loose.Assign
import FiveStage.Loose.Strict
import FiveStage.Loose.Account
import FiveStage.Loose.Report
import FiveStage.Loose.View
import FiveStage.Loose.Edit
import FiveStage.AnyState
import FiveStage.Window
import FiveStage.Window.Shown
import FiveStage.Window.Layout
import FiveStage.CommandLine
import FiveStage.CommandLine.Word
import FiveStage.CommandLine.Options
import FiveStage.CommandLine.Usage
import FiveStage.Main
import FiveStage.Proofs.Listing
import FiveStage.Proofs.Phase
import FiveStage.Proofs.Stages
import FiveStage.Proofs.Neighbours
import FiveStage.Proofs.Tick
import FiveStage.Proofs.Runs
import FiveStage.Proofs.Sequential
import FiveStage.Proofs.Refinement
import FiveStage.Proofs.Clock
import FiveStage.Proofs.Timetable
import FiveStage.Proofs.HazardLog
import FiveStage.Proofs.Conservation
import FiveStage.Proofs.Calls
import FiveStage.Proofs.Termination
import FiveStage.Proofs.Marks
import FiveStage.Proofs.Faults
import FiveStage.Proofs.Spelling
import FiveStage.Proofs.Budget
import FiveStage.Proofs.Bubbles
import FiveStage.Proofs.Independence
import FiveStage.Proofs.Timer
import FiveStage.Proofs.Recorder
import FiveStage.Proofs.Sessions
import FiveStage.Proofs.Opening
import FiveStage.Proofs.Display
import FiveStage.Proofs.Controls
import FiveStage.Proofs.Composition
import FiveStage.Proofs.Stalls
import FiveStage.Proofs.Spacing
import FiveStage.Proofs.Pieces
import FiveStage.Proofs.Grammar
import FiveStage.Proofs.LoadUse
import FiveStage.Proofs.Figures
import FiveStage.Proofs.Frame
import FiveStage.Proofs.Seats
import FiveStage.Proofs.Loosening
import FiveStage.Proofs.LooseRuns
import FiveStage.Proofs.Taking
import FiveStage.Proofs.Layout
import FiveStage.Proofs.Rereading
import FiveStage.Proofs.Seams
import FiveStage.Proofs.TimingTable
import FiveStage.Proofs.Growth
import FiveStage.Proofs.ProgramFiles
import FiveStage.Proofs.Json.Rounding
import FiveStage.Proofs.Json.Grammar
import FiveStage.Proofs.Json.Numbers
import FiveStage.Proofs.Json.Strings
import FiveStage.Proofs.Json.Documents
import FiveStage.Proofs.Exports
import FiveStage.Proofs.Comments
import FiveStage.Proofs.Offsets
import FiveStage.Proofs.Lookups
