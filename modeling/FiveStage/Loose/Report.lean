import FiveStage.Loose.Account
import FiveStage.Report

/-!
# Reports of loose states

The timing table, the statistics and the registers of a loose state.

Main statements: `timingTable_ofState`, `statistics_ofState` and `registers_ofState`, by which a plain state that is
taken as a loose one has the reports that it has by itself.
-/

namespace FiveStage.Loose

open Text

/-! ## The timing table -/

/-- The text of a document in a column. -/
def columnText : Json → Except Misuse (List Char)
  | .string s => .ok s.toList
  | v =>
    match Number.ofJson? v with
    | some n => return (← n.writeCell).toList
    | none => .error (.noColumn v.kindName)

/-- The beginning of a document, cut to a column. -/
def cutText (width : Nat) : Json → Except Misuse (List Char)
  | .string s => .ok (Report.cut width s.toList)
  | .array _ => .error (.noColumn "list")
  | .object _ => .error (.unhashable "slice")
  | v => .error (.noItems v.kindName)

/-- One cell of the row of an entry. -/
def cell (width : Nat) (entry : Json) (stage : Stage) : Except Misuse (List Char) := do
  let stages ← entry.item (.string "stages")
  let slot ← stages.item (.string stage.name)
  return padEnd width (← cutText width (if slot.isTruthy then slot else .string "-"))

/-- The row of an entry. -/
def row (width : Nat) (entry : Json) : Except Misuse (List Char) := do
  let cycle ← columnText (← entry.item (.string "cycle"))
  let cells ← Stage.all.mapM (cell width entry)
  let stalled ← entry.item (.string "stalled")
  return padEnd Report.cycleWidth cycle ++ cells.flatten ++ Report.stallMark stalled.isTruthy

/-- The document that an item of the log is. -/
def entryOf : Item Empty → Json
  | .document v => v

/-- The timing table with columns of a width. -/
def timingTable (memory : Report.Memory) (s : State) (width : Int) : Except ReportFault String := do
  let width ← Report.columnWidth memory width
  let rows ← (do (← s.logItems).mapM fun item => row width (entryOf item) : Except Misuse _)
  return String.ofList (join ['\n'] (Report.heading width :: Report.rule width :: rows))

/-! ## Statistics and registers -/

/-- The text of a document, if all its integers can be written. -/
def textOf : Json → Except Misuse String
  | .int n => Number.writeInt n
  | v => if v.isWritable then .ok v.display else .error .tooLong

/-- The statistics of a state. -/
def statistics (s : State) : Except Misuse String := do
  let metrics ← s.metrics
  Report.statisticsText metrics (textOf s.stalls) (← s.comparison).overhead

/-- The line of what stands for a register, unless it holds nothing and only others are asked for. -/
def registerLine? (onlyNonzero : Bool) (item : Item (Fin registerCount × Cell)) :
    Except Misuse (Option (List Char)) := do
  let (r, cell) ← item.asked "value"
  if !onlyNonzero || cell.value.isTruthy then
    return some (Report.registerLine (registerName r) (← textOf cell.value))
  else return none

/-- The lines of the registers that are shown. -/
def registerLines (s : State) (onlyNonzero : Bool) : Except Misuse (List (List Char)) := do
  return (← (← s.registerItems).mapM (registerLine? onlyNonzero)).filterMap id

/-- The registers, one on a line, those that hold nothing only if asked for. -/
def registers (s : State) (onlyNonzero : Bool) : Except Misuse String := do
  return String.ofList (join ['\n'] (← registerLines s onlyNonzero))

/-! ## Plain states -/

theorem statistics_ofState (s : FiveStage.State) : statistics (State.ofState s) = Report.statistics s := by
  have hstalls : textOf (State.ofState s).stalls = Number.writeInt s.stalls := rfl
  rw [statistics, State.metrics_ofState, State.comparison_ofState, hstalls, Report.statistics]

theorem cell_document (width : Nat) (e : LogEntry) (stage : Stage) :
    cell width e.document stage = .ok (Report.cell width (e.stages.get stage)) := by
  have hstages : e.document.item (.string "stages") = .ok (LogEntry.stagesDocument e.stages) := rfl
  have hslot : (LogEntry.stagesDocument e.stages).item (.string stage.name) =
      .ok (LogEntry.slotDocument (e.stages.get stage)) := by cases stage <;> rfl
  rw [cell, bind_of_eq_ok hstages, bind_of_eq_ok hslot]
  cases e.stages.get stage with
  | none => rfl
  | some text =>
    by_cases h : text = ""
    · subst h
      rfl
    · have hl : text.toList.isEmpty = false := by simpa using h
      have ht : (Json.string text).isTruthy = true := by simpa [Json.isTruthy] using h
      rw [LogEntry.slotDocument, if_pos ht]
      simp only [Report.cell, Option.getD_some, hl]
      rfl

theorem row_document (width : Nat) (e : LogEntry) : row width e.document = Report.row width e := by
  have hcycle : e.document.item (.string "cycle") = .ok (.int e.cycle) := rfl
  have hstalled : e.document.item (.string "stalled") = .ok (.bool e.stalled) := rfl
  have hcells : Stage.all.mapM (cell width e.document) =
      .ok (Stage.all.map fun stage => Report.cell width (e.stages.get stage)) := by
    simp only [Stage.all, List.mapM_cons, List.mapM_nil, cell_document]
    rfl
  have htext : columnText (.int e.cycle) = return (← Number.writeInt e.cycle).toList := rfl
  rw [row, bind_of_eq_ok hcycle, Report.row, htext]
  cases Number.writeInt e.cycle with
  | error _ => rfl
  | ok cycle =>
    rw [bind_of_eq_ok rfl, bind_of_eq_ok rfl, pure_bind, bind_of_eq_ok hcells, bind_of_eq_ok hstalled,
      ← List.flatMap_def, Pipeline.toList, List.flatMap_map]
    rfl

theorem rows_ofState (s : FiveStage.State) (width : Nat) :
    (do (← (State.ofState s).logItems).mapM fun item => row width (entryOf item) : Except Misuse _) =
      s.log.mapM (Report.row width) := by
  have hitems : (State.ofState s).logItems = .ok ((s.log.map LogEntry.document).map .document) := rfl
  rw [bind_of_eq_ok hitems, List.mapM_map, List.mapM_map]
  exact congrArg (s.log.mapM ·) (funext fun e => row_document width e)

theorem timingTable_ofState (memory : Report.Memory) (s : FiveStage.State) (width : Int) :
    timingTable memory (State.ofState s) width = Report.timingTable memory s width := by
  simp only [timingTable, rows_ofState, Report.timingTable]

theorem filterMap_mapM_some {α β : Type} (p : α → Bool) (f : α → Except Misuse β) (items : List α) :
    (do return (← items.mapM fun a => if p a then return some (← f a) else return none).filterMap id) =
      (items.filter p).mapM f := by
  induction items with
  | nil => rfl
  | cons a rest ih =>
    rw [List.mapM_cons, List.filter_cons]
    cases hp : p a with
    | false =>
      rw [if_neg (by simp), if_neg (by simp), ← ih]
      simp only [pure_bind, bind_assoc, List.filterMap_cons_none, id]
    | true =>
      rw [if_pos rfl, if_pos rfl, List.mapM_cons, ← ih]
      cases f a with
      | error _ => rfl
      | ok b =>
        simp only [pure_bind, bind_assoc]
        cases (rest.mapM fun a => if p a then (return some (← f a)) else return none : Except Misuse _) with
        | error _ => rfl
        | ok _ => rfl

theorem registerLine?_own (onlyNonzero : Bool) (r : Fin registerCount) (c : FiveStage.Cell) :
    registerLine? onlyNonzero (.own (r, Cell.ofCell c)) =
      if !onlyNonzero || c.value ≠ 0 then
        return some (Report.registerLine (registerName r) (← Number.writeInt c.value))
      else return none := by
  have htext : textOf (Cell.ofCell c).value = Number.writeInt c.value := rfl
  have htruthy : (Cell.ofCell c).value.isTruthy = decide (c.value ≠ 0) := rfl
  have hcell : (Item.own (r, Cell.ofCell c)).asked "value" = .ok (r, Cell.ofCell c) := rfl
  rw [registerLine?, bind_of_eq_ok hcell]
  simp only [htext, htruthy]

theorem registerLines_ofState (s : FiveStage.State) (onlyNonzero : Bool) :
    registerLines (State.ofState s) onlyNonzero =
      (s.storage.registerCells.filter fun (_, c) => !onlyNonzero || c.value ≠ 0).mapM fun (r, c) =>
        return Report.registerLine (registerName r) (← Number.writeInt c.value) := by
  have hitems : (State.ofState s).registerItems =
      .ok (s.storage.registerCells.map fun (r, c) => .own (r, Cell.ofCell c)) := by
    have hget (r : Fin registerCount) :
        (s.storage.registers.map Cell.ofCell).get r = Cell.ofCell s.storage.registers[r] :=
      Vector.getElem_map Cell.ofCell r.isLt
    simp only [State.registerItems, State.ofState, Part.items, Part.use, State.placedCells, Storage.registerCells,
      List.map_map, Function.comp_def, hget]
  rw [registerLines, bind_of_eq_ok hitems, List.mapM_map, ← filterMap_mapM_some]
  simp only [Function.comp_def, registerLine?_own, bind_assoc, pure_bind]

theorem registers_ofState (s : FiveStage.State) (onlyNonzero : Bool) :
    registers (State.ofState s) onlyNonzero = Report.registers s onlyNonzero := by
  rw [registers, registerLines_ofState, Report.registers]

end FiveStage.Loose
