import FiveStage.Loose.Report

/-!
# What is shown of a loose state

A summary, which shows what has changed in the current cycle, and a dump, which shows everything, both as documents.
What is shown is read part by part in a fixed order, so that the first document that is in the way decides.

Main statement: `lastOf_array_append`, by which the entry that was logged last is the one that is shown.
-/

namespace FiveStage.Loose

namespace State

/-! ## Parts of the views -/

/-- The label of the instruction at a place of the loaded program. -/
def labelAt (s : State) (index : Nat) : Json :=
  match s.tracked[index]? with
  | some t => .string t.code.id
  | none => .null

/-- The label of an occupant; what counts as nothing has none. -/
def label (s : State) (item : Item Nat) : Except Misuse Json := do
  if item.isTruthy then return s.labelAt (← item.asked "id") else return .null

/-- The counters, the switches of the timer and the pipeline. -/
def counters (s : State) : List (String × Json) :=
  [("cycle", s.cycle), ("pc", s.pc), ("completed", s.completed), ("stalls", s.stalls), ("running", s.running),
    ("paused", s.paused)]

/-- The labels of the occupants of all slots. -/
def labels (s : State) : Except Misuse Json := do
  return .array (← (← s.slotItems).mapM s.label)

/-- The last item of a document, if it has any. -/
def lastOf : Json → Except Misuse Json
  | .array items => .ok (items.getLast?.getD .null)
  | v => if v.isTruthy then v.item (.int (-1)) else .ok .null

/-- The log as a document. -/
def logDocument (s : State) : Except Misuse Json :=
  s.log.use "pipeline_log" (fun entries => .ok (.array entries)) .ok

/-- An instruction of the loaded program as a document. -/
def instructionDocument (t : Tracked) : Json :=
  .object [
    ("id", .string t.code.id),
    ("pc", .int t.code.pc),
    ("opcode", .string t.code.opcode.name),
    ("operands", .array (t.code.operands.map .string)),
    ("type", .string t.code.format.name),
    ("raw", .string t.code.raw),
    ("cycle", t.fetched),
    ("stage", (t.stage.map fun stage => Json.string stage.name).getD .null),
    ("completed", .bool t.completed)]

/-! ## Views -/

/-- The hazards that were noticed in the current cycle. -/
def currentHazards (s : State) : Except Misuse (List Json) := do
  return ((← s.hazardsAsked "cycle").filter (·.cycle.same s.cycle)).map Hazard.document

/-- The modified cells behind what they are called. -/
def modified {α : Type} (name : α → Json) (items : List (Item (α × Cell))) : Except Misuse (List Json) := do
  let cells ← items.mapM (Item.asked "modified")
  return (cells.filter (·.2.modified)).map fun (place, cell) => .array [name place, cell.value, cell.lastModified]

/-- What has changed in the current cycle. -/
def summary (s : State) : Except Misuse Json := do
  let pipeline ← s.labels
  let hazardCount ← s.hazards.size "hazards" List.length
  let hazards ← s.currentHazards
  let entryCount ← s.log.size "pipeline_log" List.length
  let entry ← lastOf (← s.logDocument)
  let registers ← modified (fun r => .string (registerName r)) (← s.registerItems)
  let memory ← modified (fun w => .int (address w)) (← s.wordItems)
  return .object (s.counters ++ [
    ("pipeline", pipeline),
    ("n_hazards", .int hazardCount),
    ("hazards", .array hazards),
    ("n_log", .int entryCount),
    ("log", entry),
    ("registers", .array registers),
    ("memory", .array memory)])

/-- All cells of a storage. -/
def cellDocuments {α : Type} (items : List (Item (α × Cell))) : Except Misuse Json := do
  let cells ← items.mapM (Item.asked "value")
  return .array (cells.map fun (_, cell) => .array [cell.value, .bool cell.modified, cell.lastModified])

/-- Everything, of a copy of the state. -/
def dump (s : State) : Except Misuse Json := do
  let s ← s.copy
  let places ← (← s.instructionItems).mapM (Item.asked "id")
  let pipeline ← s.labels
  let occupied ← (← s.occupants).mapM fun item => return s.labelAt (← item.asked "id")
  let hazards ← s.hazardDocuments
  let log ← s.logDocument
  let registers ← cellDocuments (← s.registerItems)
  let memory ← cellDocuments (← s.wordItems)
  return .object (s.counters ++ [
    ("forwarding", s.forwarding),
    ("prediction", s.prediction),
    ("instructions", .array ((places.filterMap (s.tracked[·]?)).map instructionDocument)),
    ("pipeline", pipeline),
    ("occupied", .array occupied),
    ("hazards", .array hazards),
    ("log", log),
    ("registers", registers),
    ("memory", memory)])

theorem lastOf_array_append (entries : List Json) (entry : Json) :
    lastOf (.array (entries ++ [entry])) = .ok entry := by
  simp [lastOf]

end State

end FiveStage.Loose
