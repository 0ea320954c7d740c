import FiveStage.Metrics

/-!
# Charts

Four charts of a state, as the calls that draw them: the cycles side by side, the unresolved hazards by class, the
logged hazards by kind, and the cycles for each instruction. A chart is drawn on axes, axes belong to a figure, and both
are handed their calls by name.

Main statement: `names_nodup`, by which the charts have different names.
-/

namespace FiveStage.Chart

/-- A call to axes or to a figure. -/
structure Call where
  method : String
  arguments : List Json := []
  keywords : List (String × Json) := []

/-! ## Colours -/

/-- The colours of what is charted. -/
inductive Colour
  | cycles
  | instructions
  | stalls
  | branches
  | efficiency
  | registers
  deriving DecidableEq, Repr

/-- The code of a colour. -/
def Colour.code : Colour → String
  | cycles => "#3498db"
  | instructions => "#2ecc71"
  | stalls => "#e74c3c"
  | branches => "#f1c40f"
  | efficiency => "#1abc9c"
  | registers => "#9b59b6"

/-- The colour of a stage. -/
def stageColour : Stage → String
  | .fetch => "#3498db"
  | .decode => "#9b59b6"
  | .execute => "#f1c40f"
  | .memory => "#2ecc71"
  | .writeBack => "#e74c3c"

/-! ## Bars with labels -/

/-- The label of a bar: its height, a little above it and over its middle, which is at its number. -/
def barLabel (index : Nat) (height : Number) : Except Misuse Call := do
  let y ← height.add (.real (Number.constant 1 10))
  let text ← Number.writeInt (← height.whole)
  return ⟨"text", [.real (Binary64.ofInt index), y.toJson, .string text], [("ha", .string "center")]⟩

/-- Bars with their labels. -/
def labelledBars (bars : List (String × Number × Colour)) : Except Misuse (List Call) := do
  let draw : Call := ⟨"bar", [.array (bars.map fun (name, _, _) => .string name),
    .array (bars.map fun (_, height, _) => height.toJson)],
    [("color", .array (bars.map fun (_, _, colour) => .string colour.code))]⟩
  let labels ← bars.zipIdx.mapM fun ((_, height, _), index) => barLabel index height
  return draw :: labels

/-- The titles of a chart with bars. -/
def titles (axis title : String) : List Call :=
  [⟨"set_ylabel", [.string axis], []⟩, ⟨"set_title", [.string title], []⟩]

/-! ## The charts -/

/-- The cycles without a pipeline, with an ideal one, and as they were. -/
def comparison (a : Account) : Except Misuse (List Call) := do
  let c ← a.comparison
  let bars ← labelledBars
    [("Sequential", .int c.sequential, .registers), ("Ideal", .int c.ideal, .instructions),
      ("Actual", c.actual, .cycles)]
  return bars ++ titles "Cycles" "Execution Comparison"

/-- The unresolved hazards by class. -/
def stalls (a : Account) : Except Misuse (List Call) := do
  let m ← a.metrics
  let bars ← labelledBars
    [("Data", .int m.dataStalls, .stalls), ("Control", .int m.controlStalls, .branches),
      ("Structural", .int m.structuralStalls, .efficiency)]
  return bars ++ titles "Count" "Unresolved Hazards"

/-- The logged hazards by kind; kinds without a hazard have no part of the pie. -/
def hazards (a : Account) : Except Misuse (List Call) := do
  let counts := (← a.analysis).breakdown.filter (·.2 ≠ 0)
  let title : Call := ⟨"set_title", [.string "Hazard Breakdown"], []⟩
  let half : Json := .real (Number.constant 1 2)
  if counts.isEmpty then
    return [title,
      ⟨"text", [half, half, .string "No hazards logged"],
        [("ha", .string "center"), ("va", .string "center"), ("transform", .string "transAxes")]⟩,
      ⟨"set_axis_off", [], []⟩]
  else
    return [title,
      ⟨"pie", [.array (counts.map fun (_, n) => .int n)],
        [("labels", .array (counts.map fun (subtype, _) => .string (subtype.label))),
          ("autopct", .string "%1.1f%%"), ("startangle", .int 90)]⟩,
      ⟨"axis", [.string "equal"], []⟩]

/-- The upper end of the axis for a height: a fifth above it, and at least one. -/
def top : Number → Binary64
  | .real x => Binary64.max (Number.constant 1 1) (x.mul (Number.constant 12 10))
  | _ => Number.constant 1 1

/-- The cycles for each instruction. -/
def cpi (a : Account) : Except Misuse (List Call) := do
  let cpi := (← a.metrics).cpi
  let above ← cpi.add (.real (Number.constant 5 100))
  return [
    ⟨"bar", [.array [.string "CPI"], .array [cpi.toJson]], [("color", .string Colour.cycles.code)]⟩,
    ⟨"set_ylim", [.int 0, .real (top cpi)], []⟩,
    ⟨"set_title", [.string "CPI"], []⟩,
    ⟨"text", [.int 0, above.toJson, .string (cpi.fixed 2)], [("ha", .string "center")]⟩]

/-- All charts with their names. -/
def all : List (String × (Account → Except Misuse (List Call))) :=
  [("Execution", comparison), ("Stalls", stalls), ("Hazards", hazards), ("CPI", cpi)]

/-- The names of the charts. -/
def names : List String :=
  all.map (·.1)

theorem names_nodup : names.Nodup := by
  decide

/-! ## Figures -/

/-- The calls to a figure, and those to each of its axes. -/
structure Figure where
  calls : List Call
  axes : List (List Call)

/-- The call that makes a figure of a size. -/
def newFigure (size : List Json) : Call :=
  ⟨"Figure", [.array size], []⟩

/-- The width and height of a figure if none are given. -/
def defaultSize : List Json :=
  [.int 8, .int 5]

/-- A figure with one chart. -/
def figure (size : List Json) (draw : Account → Except Misuse (List Call)) (a : Account) :
    Except Misuse Figure := do
  return ⟨[newFigure size, ⟨"add_subplot", [], []⟩, ⟨"tight_layout", [], []⟩], [← draw a]⟩

/-- A figure with all charts side by side, saved under a path. -/
def savedFigure (path : String) (a : Account) : Except Misuse Figure := do
  let axes ← all.mapM fun (_, draw) => draw a
  return ⟨[newFigure [.int (5 * all.length : Nat), .int 5], ⟨"subplots", [.int 1, .int all.length], []⟩,
    ⟨"tight_layout", [], []⟩, ⟨"savefig", [.string path], []⟩], axes⟩

end FiveStage.Chart
