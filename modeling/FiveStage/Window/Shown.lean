import FiveStage.Chart
import FiveStage.Report

/-!
# What a window shows of a state

The rows of the pipeline table, the statistics, the storage and the latest hazards as texts and colours.

Main statement: `length_latest_le`, by which no more than fifty hazards are listed.
-/

namespace FiveStage

/-- A text with a colour behind it, if one is set. -/
structure Tinted where
  text : String
  colour : Option String := none
  deriving DecidableEq, Repr

/-- The row of a register or word: what it is called, its value, and the colour behind the row, if one is set. -/
structure CellRow where
  label : String
  value : String
  colour : Option String := none
  deriving DecidableEq, Repr

/-- What a window shows of a state. -/
structure Shown where
  rows : List (List Tinted) := []
  stats : List (String × String) := []
  registers : List CellRow := []
  memory : List CellRow := []
  hazards : List String := []
  cycle : String := "Cycle: 0"
  deriving DecidableEq, Repr

namespace Shown

/-- The colour of a cell without an instruction. -/
def clear : String := "transparent"

/-- The colour of a cycle with a stall. -/
def stallColour : String := "#f5b7b1"

/-- The colour of a modified register or word. -/
def modifiedColour : String := "#d5f5e3"

/-- The cell of a stage. -/
def stageCell (stages : Pipeline String) (stage : Stage) : Tinted :=
  match stages.get stage with
  | none | some "" => ⟨"--", some clear⟩
  | some text => ⟨text, some (Chart.stageColour stage)⟩

/-- The row of a cycle. -/
def row (entry : LogEntry) : Except Misuse (List Tinted) := do
  let cycle ← Number.writeInt entry.cycle
  return ⟨cycle, if entry.stalled then some stallColour else none⟩ :: Stage.all.map (stageCell entry.stages)

/-- The statistics with their labels. -/
def statLines (m : Metrics) : Except Misuse (List (String × String)) := do
  return [
    ("Total Cycles:", ← m.totalCycles.write),
    ("Instructions Executed:", ← m.executed.write),
    ("CPI:", ← m.cpi.write),
    ("Unresolved Hazards:", toString m.stalls),
    ("Data:", toString m.dataStalls),
    ("Control:", toString m.controlStalls),
    ("Structural:", toString m.structuralStalls),
    ("Speedup:", ← m.speedup.write),
    ("Efficiency:", m.efficiency.fixed 1 ++ "%")]

/-- The row of a cell of the storage. -/
def cellRow (label : String) (c : Cell) : Except Misuse CellRow := do
  return ⟨label, ← Number.writeInt c.value, if c.modified then some modifiedColour else none⟩

/-- What a register is called. -/
def registerLabel (r : Fin registerCount) : String :=
  registerName r ++ ":"

/-- What a word is called: its address in hexadecimal digits. -/
def wordLabel (w : Fin wordCount) : String :=
  String.ofList ('0' :: 'x' :: Text.hex 8 (address w).toNat) ++ ":"

/-- The line of a hazard. -/
def hazardLine (h : Hazard) : Except Misuse String := do
  let mark := if h.resolved then "✓" else "✗"
  return "[" ++ (← Number.writeInt h.cycle) ++ "] " ++ mark ++ " " ++ h.subtype.name ++ ": " ++ h.description

/-- How many hazards are listed. -/
def hazardLimit : Nat := 50

/-- The hazards that are listed: the latest, the newest first. -/
def latest (hazards : List Hazard) : List Hazard :=
  hazards.reverse.take hazardLimit

/-- What a window shows of a state. -/
def ofState (s : State) : Except Misuse Shown := do
  let rows ← s.log.mapM row
  let stats ← statLines (← s.metrics)
  let registers ← s.storage.registerCells.mapM fun (r, c) => cellRow (registerLabel r) c
  let memory ← s.storage.wordCells.mapM fun (w, c) => cellRow (wordLabel w) c
  let hazards ← (latest s.hazards).mapM hazardLine
  return { rows, stats, registers, memory, hazards, cycle := "Cycle: " ++ (← Number.writeInt s.cycle) }

theorem length_latest_le (hazards : List Hazard) : (latest hazards).length ≤ hazardLimit := by
  simp only [latest, List.length_take]
  exact Nat.min_le_left ..

end Shown

end FiveStage
