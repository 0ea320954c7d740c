import FiveStage.Number
import FiveStage.State.Document

/-!
# Metrics

What a state tells about the run that led to it. The log of hazards has one entry for each cycle in which a hazard is
present, so its unresolved entries count cycles.

Main statement: `sum_breakdown`, by which every logged hazard is counted once by its kind.
-/

namespace FiveStage

/-- The cycles before the first instruction is completed. -/
def fillCycles : Nat := Stage.depth - 1

/-- The figures of a run. -/
structure Metrics where
  totalCycles : Number
  executed : Number
  cpi : Number
  dataStalls : Nat
  controlStalls : Nat
  structuralStalls : Nat
  speedup : Number
  efficiency : Number
  deriving DecidableEq, Repr

namespace Metrics

/-- The unresolved hazards of all classes. -/
def stalls (m : Metrics) : Nat :=
  m.dataStalls + m.controlStalls + m.structuralStalls

/-- The cycles that so many instructions would take without a pipeline. -/
def sequentialCycles (total : Nat) : Nat :=
  total * Stage.depth

/-- The least possible number of cycles for so many instructions. -/
def idealCycles (total : Nat) : Nat :=
  total + fillCycles

/-- The cycles that have passed, at least one. -/
def cyclesOrOne (cycles : Number) : Number :=
  if cycles.lt (.int 1) then .int 1 else cycles

/-- The cycles for each completed instruction; zero if none is completed. -/
def cyclesEach (cycles executed : Number) : Except Misuse Number :=
  if (Number.int 0).lt executed then cycles.divide executed else .ok (.int 0)

/-- How many times faster a run of so many instructions was than one without a pipeline; an empty program is as
fast. -/
def speedupOf (total : Nat) (cycles : Number) : Except Misuse Number :=
  if 0 < sequentialCycles total then (Number.int (sequentialCycles total)).divide (cyclesOrOne cycles)
  else .ok (.int 1)

/-- The least possible number of cycles as a percentage of those that have passed. -/
def efficiencyOf (total : Nat) (cycles : Number) : Except Misuse Number :=
  (Number.int (idealCycles total)).percentage (cyclesOrOne cycles)

end Metrics

/-- The label under which a kind of hazard is counted. -/
def HazardSubtype.label : HazardSubtype → String
  | raw => "RAW"
  | war => "WAR"
  | waw => "WAW"
  | branch => "Branch"
  | resource => "Structural"

/-- Hazards by kind, instructions by layout class, and the share of cycles that completed an instruction. -/
structure Analysis where
  breakdown : List (HazardSubtype × Nat)
  formats : List (Format × Nat)
  cycleEfficiency : Number
  deriving DecidableEq, Repr

namespace Analysis

/-- Hazards by kind. -/
def breakdownOf (kinds : List HazardSubtype) : List (HazardSubtype × Nat) :=
  HazardSubtype.all.map fun subtype => (subtype, kinds.count subtype)

/-- Adds one to the count of a layout class; a class that has no count yet comes last. -/
def tally (format : Format) : List (Format × Nat) → List (Format × Nat)
  | [] => [(format, 1)]
  | (f, n) :: rest => if f = format then (f, n + 1) :: rest else (f, n) :: tally format rest

/-- Layout classes counted in the order in which they appear. -/
def formatsOf (formats : List Format) : List (Format × Nat) :=
  formats.foldl (fun counts format => tally format counts) []

theorem sum_breakdownOf (kinds : List HazardSubtype) : ((breakdownOf kinds).map (·.2)).foldr (· + ·) 0 = kinds.length := by
  simp only [breakdownOf, HazardSubtype.all, List.map_cons, List.map_nil, List.foldr_cons, List.foldr_nil]
  induction kinds with
  | nil => rfl
  | cons kind rest ih =>
    simp only [List.count_cons, List.length_cons]
    cases kind <;> simp <;> omega

end Analysis

/-- Numbers of cycles: without a pipeline, with a pipeline that never waits, as they were, and the excess over the
second. -/
structure Comparison where
  sequential : Int
  ideal : Int
  actual : Number
  overhead : Number
  deriving DecidableEq, Repr

/-- The numbers of cycles of so many instructions side by side. -/
def Comparison.of (total : Nat) (cycles : Number) : Except Misuse Comparison := do
  let excess ← cycles.sub (.int (Metrics.idealCycles total))
  return ⟨Metrics.sequentialCycles total, Metrics.idealCycles total, cycles,
    if (Number.int 0).lt excess then excess else .int 0⟩

/-- What is told about a state, as far as it can be told: its figures, and its hazards as documents. -/
structure Account where
  metrics : Except Misuse Metrics
  analysis : Except Misuse Analysis
  comparison : Except Misuse Comparison
  hazards : Except Misuse (List Json)

namespace State

/-- How many unresolved hazards of a class are logged. -/
def unresolved (s : State) (type : HazardType) : Nat :=
  s.hazards.countP fun h => h.type = type && !h.resolved

/-- The figures of the run. -/
def metrics (s : State) : Except Misuse Metrics := do
  let cpi ← Metrics.cyclesEach (.int s.cycle) (.int s.completed)
  let speedup ← Metrics.speedupOf s.instructions.size (.int s.cycle)
  let efficiency ← Metrics.efficiencyOf s.instructions.size (.int s.cycle)
  return {
    totalCycles := .int s.cycle
    executed := .int s.completed
    cpi := cpi.round 2
    dataStalls := s.unresolved .data
    controlStalls := s.unresolved .control
    structuralStalls := s.unresolved .structural
    speedup := speedup.round 2
    efficiency := efficiency.round 1 }

/-- The logged hazards by kind. -/
def breakdown (s : State) : List (HazardSubtype × Nat) :=
  Analysis.breakdownOf (s.hazards.map (·.subtype))

/-- The instructions by layout class, in the order in which the classes appear in the program. -/
def formats (s : State) : List (Format × Nat) :=
  Analysis.formatsOf (s.instructions.toList.map (·.code.format))

/-- The completed instructions as a percentage of the cycles that have passed; zero if there are none of either. -/
def cycleEfficiency (s : State) : Except Misuse Number :=
  if 0 < s.instructions.size ∧ 0 < s.cycle then (Number.int s.completed).percentage (.int s.cycle) else .ok (.int 0)

/-- Hazards and instructions by kind. -/
def analysis (s : State) : Except Misuse Analysis := do
  return ⟨s.breakdown, s.formats, (← s.cycleEfficiency).round 1⟩

/-- The numbers of cycles side by side. -/
def comparison (s : State) : Except Misuse Comparison :=
  Comparison.of s.instructions.size (.int s.cycle)

/-- What is told about the state. -/
def account (s : State) : Account :=
  ⟨s.metrics, s.analysis, s.comparison, .ok (s.hazards.map Hazard.document)⟩

theorem sum_breakdown (s : State) : (s.breakdown.map (·.2)).foldr (· + ·) 0 = s.hazards.length := by
  rw [breakdown, Analysis.sum_breakdownOf, List.length_map]

end State

end FiveStage
