import FiveStage.Loose.Strict
import FiveStage.Metrics

/-!
# What is told about a loose state

The figures of a loose state, as far as its documents let them be computed. A document that is in the way is met in the
order in which the figures need it.

Main statement: `account_ofState`, by which about a plain state that is taken as a loose one the same is told as about
the plain state itself.
-/

namespace FiveStage.Loose

/-- The number that a document denotes, or else what is misused about it. -/
def numberOr (misuse : Misuse) (v : Json) : Except Misuse Number :=
  match Number.ofJson? v with
  | some n => .ok n
  | none => .error misuse

/-- A hazard as a document. -/
def Hazard.document (h : Hazard) : Json :=
  .object [
    ("type", .string h.type.name),
    ("subtype", .string h.subtype.name),
    ("instruction1", h.instruction1),
    ("instruction2", h.instruction2),
    ("description", h.description),
    ("resolved", h.resolved),
    ("cycle", h.cycle)]

namespace State

/-- How many unresolved hazards of a class are logged. -/
def unresolved (s : State) (type : HazardType) : Except Misuse Nat := do
  return (← s.hazardsAsked "type").countP fun h => h.type = type && !h.resolved.isTruthy

/-- The cycles for each completed instruction; zero if none is completed. -/
def cyclesEach (s : State) : Except Misuse Number := do
  if ← s.completed.exceeds 0 then
    let misuse := Misuse.operands "/" s.cycle.kindName s.completed.kindName
    Metrics.cyclesEach (← numberOr misuse s.cycle) (← numberOr misuse s.completed)
  else return .int 0

/-- The clock as something that is compared with one. -/
def clock (s : State) : Except Misuse Number :=
  numberOr (.compared ">" "int" s.cycle.kindName) s.cycle

/-- How many times faster the run was than one without a pipeline; an empty program is as fast. -/
def speedup (s : State) (total : Nat) : Except Misuse Number := do
  if 0 < total then Metrics.speedupOf total (← s.clock) else return .int 1

/-- The figures of the run. -/
def metrics (s : State) : Except Misuse Metrics := do
  let total ← s.total
  let cpi ← s.cyclesEach
  let dataStalls ← s.unresolved .data
  let controlStalls ← s.unresolved .control
  let structuralStalls ← s.unresolved .structural
  let speedup ← s.speedup total
  let totalCycles ← s.clock
  let efficiency ← Metrics.efficiencyOf total totalCycles
  let executed ← numberOr (.compared ">" s.completed.kindName "int") s.completed
  return {
    totalCycles, executed, dataStalls, controlStalls, structuralStalls
    cpi := cpi.round 2
    speedup := speedup.round 2
    efficiency := efficiency.round 1 }

/-- The logged hazards by kind. -/
def breakdown (s : State) : Except Misuse (List (HazardSubtype × Nat)) := do
  return Analysis.breakdownOf ((← s.hazardsAsked "subtype").map (·.subtype))

/-- The instructions by layout class, in the order in which the classes appear in the program. -/
def formats (s : State) : Except Misuse (List (Format × Nat)) := do
  let places ← (← s.instructionItems).mapM (Item.asked "type")
  return Analysis.formatsOf ((places.filterMap (s.tracked[·]?)).map (·.code.format))

/-- There is a program. -/
def hasProgram (s : State) : Except Misuse Bool :=
  s.instructions.use "instructions" (fun _ => .ok (0 < s.tracked.size)) fun v => .ok v.isTruthy

/-- The completed instructions as a percentage of the cycles that have passed; zero if there are none of either. -/
def cycleEfficiency (s : State) : Except Misuse Number := do
  if !(← s.hasProgram) then return .int 0
  if ← s.cycle.exceeds 0 then
    let misuse := Misuse.operands "/" s.completed.kindName s.cycle.kindName
    (← numberOr misuse s.completed).percentage (← numberOr misuse s.cycle)
  else return .int 0

/-- Hazards and instructions by kind. -/
def analysis (s : State) : Except Misuse Analysis := do
  let breakdown ← s.breakdown
  let formats ← s.formats
  return ⟨breakdown, formats, (← s.cycleEfficiency).round 1⟩

/-- The numbers of cycles side by side. -/
def comparison (s : State) : Except Misuse Comparison := do
  let total ← s.total
  Comparison.of total (← numberOr (.operands "-" s.cycle.kindName "int") s.cycle)

/-- The logged hazards as documents. -/
def hazardDocuments (s : State) : Except Misuse (List Json) := do
  return (← s.hazardsAsked "_asdict").map Hazard.document

/-- What is told about the state. -/
def account (s : State) : Account :=
  ⟨s.metrics, s.analysis, s.comparison, s.hazardDocuments⟩

end State

/-! ## Plain states -/

theorem mapM_asked_own {α β : Type} (name : String) (f : α → β) (items : List α) :
    (items.map fun a => Item.own (f a)).mapM (Item.asked name) = .ok (items.map f) := by
  induction items with
  | nil => rfl
  | cons a rest ih => rw [List.map_cons, List.mapM_cons, ih]; rfl

theorem range_filterMap_getElem? {α : Type} (items : List α) :
    (List.range items.length).filterMap (items[·]?) = items := by
  induction items with
  | nil => rfl
  | cons a rest ih =>
    rw [List.length_cons, List.range_succ_eq_map, List.filterMap_cons, List.filterMap_map]
    exact congrArg (a :: ·) ih

theorem range_filterMap_toList {α : Type} (items : Array α) :
    (List.range items.size).filterMap (items[·]?) = items.toList := by
  simpa only [Array.getElem?_toList, Array.length_toList] using range_filterMap_getElem? items.toList

namespace State

theorem hazardsAsked_ofState (s : FiveStage.State) (name : String) :
    (ofState s).hazardsAsked name = .ok (s.hazards.map Hazard.ofHazard) :=
  mapM_asked_own name Hazard.ofHazard s.hazards

theorem unresolved_ofState (s : FiveStage.State) (type : HazardType) :
    (ofState s).unresolved type = .ok (s.unresolved type) := by
  rw [unresolved, hazardsAsked_ofState, FiveStage.State.unresolved]
  show Except.ok _ = Except.ok _
  rw [List.countP_map]
  rfl

theorem breakdown_ofState (s : FiveStage.State) : (ofState s).breakdown = .ok s.breakdown := by
  rw [breakdown, hazardsAsked_ofState, FiveStage.State.breakdown]
  show Except.ok _ = Except.ok _
  rw [List.map_map]
  rfl

theorem hazardDocuments_ofState (s : FiveStage.State) :
    (ofState s).hazardDocuments = .ok (s.hazards.map FiveStage.Hazard.document) := by
  rw [hazardDocuments, hazardsAsked_ofState]
  show Except.ok _ = Except.ok _
  rw [List.map_map]
  rfl

theorem cyclesEach_ofState (s : FiveStage.State) :
    (ofState s).cyclesEach = Metrics.cyclesEach (.int s.cycle) (.int s.completed) := by
  simp only [cyclesEach, ofState, Json.exceeds_int, bind, Except.bind, numberOr, Number.ofJson?]
  split
  · rfl
  · rename_i h
    have h : ¬0 < s.completed := by simpa using h
    simp only [Metrics.cyclesEach, Number.lt, decide_eq_true_eq, if_neg h]
    rfl

theorem speedup_ofState (s : FiveStage.State) (total : Nat) :
    (ofState s).speedup total = Metrics.speedupOf total (.int s.cycle) := by
  simp only [speedup, clock, ofState, numberOr, Number.ofJson?, bind, Except.bind]
  split
  · rfl
  · simp_all [Metrics.speedupOf, Metrics.sequentialCycles]
    rfl

theorem metrics_ofState (s : FiveStage.State) : (ofState s).metrics = s.metrics := by
  simp only [metrics, unresolved_ofState, cyclesEach_ofState, speedup_ofState, FiveStage.State.metrics]
  simp only [total, clock, numberOr, ofState, Part.size, Part.use, Array.size_map, bind, Except.bind, Number.ofJson?]

theorem formats_ofState (s : FiveStage.State) : (ofState s).formats = .ok s.formats := by
  have h : (ofState s).instructionItems = .ok ((List.range s.instructions.size).map fun i => .own (id i)) := by
    simp only [instructionItems, ofState, Part.items, Part.use, Array.size_map, id]
  rw [formats, h]
  rw [bind_of_eq_ok rfl, mapM_asked_own, List.map_id]
  have ht := range_filterMap_toList (ofState s).tracked
  rw [show (ofState s).tracked.size = s.instructions.size from Array.size_map] at ht
  show Except.ok _ = Except.ok _
  rw [ht]
  simp only [ofState, Array.toList_map, List.map_map, FiveStage.State.formats]
  rfl

theorem completed_ofState (s : FiveStage.State) (m : Misuse) :
    numberOr m (ofState s).completed = .ok (.int s.completed) := rfl

theorem cycle_ofState (s : FiveStage.State) (m : Misuse) : numberOr m (ofState s).cycle = .ok (.int s.cycle) := rfl

theorem hasProgram_ofState (s : FiveStage.State) : (ofState s).hasProgram = .ok (0 < s.instructions.size) := by
  simp only [hasProgram, ofState, Part.use, Array.size_map]

theorem exceeds_ofState (s : FiveStage.State) : (ofState s).cycle.exceeds 0 = .ok (decide (0 < s.cycle)) :=
  Json.exceeds_int s.cycle 0

theorem cycleEfficiency_ofState (s : FiveStage.State) : (ofState s).cycleEfficiency = s.cycleEfficiency := by
  rw [cycleEfficiency, FiveStage.State.cycleEfficiency, bind_of_eq_ok (hasProgram_ofState s)]
  by_cases hi : 0 < s.instructions.size
  · rw [if_neg (by simp only [hi]; decide), bind_of_eq_ok (exceeds_ofState s)]
    by_cases hc : 0 < s.cycle
    · rw [if_pos (decide_eq_true hc), if_pos ⟨hi, hc⟩, bind_of_eq_ok (completed_ofState s _),
        bind_of_eq_ok (cycle_ofState s _)]
    · rw [if_neg (by simpa using hc), if_neg (fun h => hc h.2)]
      rfl
  · rw [if_pos (by simp only [hi]; decide), if_neg (fun h => hi h.1)]
    rfl

theorem analysis_ofState (s : FiveStage.State) : (ofState s).analysis = s.analysis := by
  rw [analysis, breakdown_ofState, formats_ofState, cycleEfficiency_ofState, FiveStage.State.analysis]
  rfl

theorem comparison_ofState (s : FiveStage.State) : (ofState s).comparison = s.comparison := by
  simp only [comparison, total, ofState, Part.size, Part.use, Array.size_map, bind, Except.bind, numberOr,
    Number.ofJson?, FiveStage.State.comparison]

theorem account_ofState (s : FiveStage.State) : (ofState s).account = s.account := by
  rw [account, metrics_ofState, analysis_ofState, comparison_ofState, hazardDocuments_ofState, FiveStage.State.account]

end State

end FiveStage.Loose
