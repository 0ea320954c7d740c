import FiveStage.Loose.Run

/-!
# Plain states as loose ones

Every plain state is a loose one whose parts are all its own. A loose state of which this is true becomes a plain state
again, so that nothing but the documents in it makes it loose.

Main statement: `strict?_ofState`, by which a plain state comes back as it was.
-/

namespace FiveStage.Loose

/-- A cell of a plain state. -/
def Cell.ofCell (c : FiveStage.Cell) : Cell :=
  ⟨.int c.value, c.modified, .int c.lastModified⟩

/-- The plain cell, if its value and its stamp are integers. -/
def Cell.strict? (c : Cell) : Option FiveStage.Cell :=
  match c.value, c.lastModified with
  | .int value, .int lastModified => some ⟨value, c.modified, lastModified⟩
  | _, _ => none

/-- An instruction of a plain state and its progress. -/
def Tracked.ofTracked (t : FiveStage.Tracked) : Tracked :=
  ⟨t.code, .int t.fetched, t.stage, t.completed⟩

/-- The plain instruction and its progress, if it was fetched in a cycle with a number. -/
def Tracked.strict? (t : Tracked) : Option FiveStage.Tracked :=
  match t.fetched with
  | .int fetched => some ⟨t.code, fetched, t.stage, t.completed⟩
  | _ => none

/-- A hazard of a plain state. -/
def Hazard.ofHazard (h : FiveStage.Hazard) : Hazard :=
  Hazard.at h (.int h.cycle)

/-- The plain hazard, if its texts are texts. -/
def Hazard.strict? (h : Hazard) : Option FiveStage.Hazard :=
  match h.instruction1, h.instruction2, h.description, h.resolved, h.cycle with
  | .string instruction1, .string instruction2, .string description, .bool resolved, .int cycle =>
    some ⟨h.type, h.subtype, instruction1, instruction2, description, resolved, cycle⟩
  | _, _, _, _, _ => none

/-- The slot of a stage of a plain state. -/
def slotOf : Option Nat → Item Nat
  | some index => .own index
  | none => .empty

/-- What a slot holds in a plain state, if it can. -/
def strictSlot? : Item Nat → Option (Option Nat)
  | .own index => some (some index)
  | .document .null => some none
  | .document _ => none

/-- The slots of a plain state. -/
def slotsOfPipeline (p : Pipeline Nat) : Slots :=
  Stage.all.map fun stage => (.stage stage, { item := slotOf (p.get stage) })

/-- The plain pipeline, if there is a slot for each stage in order and none besides. -/
def pipelineOfSlots? (slots : Slots) : Option (Pipeline Nat) := do
  let slot := fun stage : Stage => strictSlot? (slots.get stage).item
  guard (slots.map (·.1) = Stage.all.map .stage)
  return ⟨← slot .fetch, ← slot .decode, ← slot .execute, ← slot .memory, ← slot .writeBack⟩

/-- The contents of a part, if they are its own. -/
def Part.own? {α : Type} : Part α → Option α
  | .own content => some content
  | _ => none

/-- The contents of an item, if they are its own. -/
def Item.own? {α : Type} : Item α → Option α
  | .own content => some content
  | .document _ => none

/-- The cells of a plain storage, if all of them are plain. -/
def strictCells? {n : Nat} (cells : Vector Cell n) : Option (Vector FiveStage.Cell n) := do
  let strict ← cells.toList.mapM Cell.strict?
  if h : strict.length = n then some ⟨strict.toArray, by rw [List.size_toArray, h]⟩ else none

namespace State

/-- A plain state as a loose one. -/
def ofState (s : FiveStage.State) : State where
  cycle := .int s.cycle
  pc := .int s.pc
  completed := .int s.completed
  stalls := .int s.stalls
  running := .bool s.running
  paused := .bool s.paused
  forwarding := .bool s.forwarding
  prediction := .bool s.prediction
  tracked := s.instructions.map Tracked.ofTracked
  instructions := .own ()
  registers := .own (s.storage.registers.map Cell.ofCell)
  memory := .own (s.storage.memory.map Cell.ofCell)
  pipeline := .own (slotsOfPipeline s.pipeline)
  hazards := .own (s.hazards.map fun h => .own (Hazard.ofHazard h))
  log := .own (s.log.map LogEntry.document)

/-- The numbers and truth values of a plain state, if they are such. The parts are those of another state. -/
def scalars? (s : State) (parts : FiveStage.State) : Option FiveStage.State :=
  match s.cycle, s.pc, s.completed, s.stalls, s.running, s.paused, s.forwarding, s.prediction with
  | .int cycle, .int pc, .int completed, .int stalls, .bool running, .bool paused, .bool forwarding,
    .bool prediction =>
    some { parts with cycle, pc, completed, stalls, running, paused, forwarding, prediction }
  | _, _, _, _, _, _, _, _ => none

/-- The plain state, if nothing in the loose one is a document that could not be there. -/
def strict? (s : State) : Option FiveStage.State := do
  guard s.attributes.isEmpty
  s.instructions.own?
  let instructions ← s.tracked.toList.mapM Tracked.strict?
  let registers ← s.registers.own?.bind strictCells?
  let memory ← s.memory.own?.bind strictCells?
  let pipeline ← s.pipeline.own?.bind pipelineOfSlots?
  let hazards ← (← s.hazards.own?).mapM fun h => h.own?.bind Hazard.strict?
  let log ← (← s.log.own?).mapM LogEntry.ofDocument?
  s.scalars? { instructions := instructions.toArray, storage := { registers, memory }, pipeline, hazards, log }

end State

/-! ## The way there and back -/

theorem Cell.strict?_ofCell (c : FiveStage.Cell) : (Cell.ofCell c).strict? = some c := rfl

theorem Tracked.strict?_ofTracked (t : FiveStage.Tracked) : (Tracked.ofTracked t).strict? = some t := rfl

theorem Hazard.strict?_ofHazard (h : FiveStage.Hazard) : (Hazard.ofHazard h).strict? = some h := rfl

theorem pipelineOfSlots?_slotsOfPipeline (p : Pipeline Nat) : pipelineOfSlots? (slotsOfPipeline p) = some p := by
  obtain ⟨fetch, decode, execute, memory, writeBack⟩ := p
  cases fetch <;> cases decode <;> cases execute <;> cases memory <;> cases writeBack <;> rfl

theorem mapM_map_eq_some {α β : Type} {f : α → β} {g : β → Option α} (h : ∀ a, g (f a) = some a) (items : List α) :
    (items.map f).mapM g = some items := by
  induction items with
  | nil => rfl
  | cons a rest ih => simp [List.mapM_cons, h, ih]

theorem strictCells?_map {n : Nat} (cells : Vector FiveStage.Cell n) :
    strictCells? (cells.map Cell.ofCell) = some cells := by
  have hlist : (cells.map Cell.ofCell).toList.mapM Cell.strict? = some cells.toList := by
    rw [Vector.toList_map, mapM_map_eq_some Cell.strict?_ofCell]
  simp only [strictCells?, hlist, bind, Option.bind_some, Vector.length_toList, dite_true, Option.some.injEq]
  exact Vector.toArray_inj.1 (Array.toArray_toList ..)

namespace State

theorem strict?_ofState (s : FiveStage.State) : (ofState s).strict? = some s := by
  have hinstructions : (s.instructions.map Tracked.ofTracked).toList.mapM Tracked.strict? =
      some s.instructions.toList := by
    rw [Array.toList_map, mapM_map_eq_some Tracked.strict?_ofTracked]
  have hhazards : (s.hazards.map fun h => Item.own (Hazard.ofHazard h)).mapM
      (fun h => h.own?.bind Hazard.strict?) = some s.hazards :=
    mapM_map_eq_some (f := fun h => Item.own (Hazard.ofHazard h)) (g := fun h => h.own?.bind Hazard.strict?)
      Hazard.strict?_ofHazard s.hazards
  have hlog := mapM_map_eq_some LogEntry.ofDocument?_document s.log
  have hattributes : (guard ((ofState s).attributes.isEmpty = true) : Option Unit) = some () := guard_of rfl
  rw [strict?, hattributes]
  simp only [ofState, Part.own?, Option.bind_some, strictCells?_map, pipelineOfSlots?_slotsOfPipeline,
    hinstructions, hhazards, hlog, Array.toArray_toList, bind]
  rfl

end State

end FiveStage.Loose
