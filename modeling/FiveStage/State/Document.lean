import FiveStage.Json
import FiveStage.State.Basic

/-!
# Documents of the logs

Hazards and log entries as documents, and back.

Main statements:
* `Hazard.ofDocument?_document`: a hazard can be told from its document;
* `LogEntry.ofDocument?_document`: so can an entry of the log.
-/

namespace FiveStage

/-- A condition that holds is passed. -/
theorem guard_of {p : Prop} [Decidable p] (h : p) : (guard p : Option Unit) = some () :=
  if_pos h

namespace Hazard

/-- A hazard as a document. -/
def document (h : Hazard) : Json :=
  .object [
    ("type", .string h.type.name),
    ("subtype", .string h.subtype.name),
    ("instruction1", .string h.instruction1),
    ("instruction2", .string h.instruction2),
    ("description", .string h.description),
    ("resolved", .bool h.resolved),
    ("cycle", .int h.cycle)]

/-- The hazard that a document denotes. -/
def ofDocument? (v : Json) : Option Hazard := do
  let some (.string type) := v.get? "type" | none
  let some (.string subtype) := v.get? "subtype" | none
  let some (.string instruction1) := v.get? "instruction1" | none
  let some (.string instruction2) := v.get? "instruction2" | none
  let some (.string description) := v.get? "description" | none
  let some (.bool resolved) := v.get? "resolved" | none
  let some (.int cycle) := v.get? "cycle" | none
  return ⟨← HazardType.ofName? type, ← HazardSubtype.ofName? subtype, instruction1, instruction2, description, resolved,
    cycle⟩

theorem ofDocument?_document (h : Hazard) : ofDocument? h.document = some h := by
  obtain ⟨type, subtype, _, _, _, _, _⟩ := h
  cases type <;> cases subtype <;> rfl

end Hazard

namespace LogEntry

/-- The text of a stage as a document; an empty stage has none. -/
def slotDocument : Option String → Json
  | none => .null
  | some text => .string text

/-- The text of a stage that a document denotes. -/
def slotOfDocument? : Json → Option (Option String)
  | .null => some none
  | .string text => some (some text)
  | _ => none

/-- The texts of the stages as a document. -/
def stagesDocument (stages : Pipeline String) : Json :=
  .object (Stage.all.map fun stage => (stage.name, slotDocument (stages.get stage)))

/-- The texts of the stages that a document denotes, which has nothing else in it. -/
def stagesOfDocument? (v : Json) : Option (Pipeline String) := do
  let slot := fun stage : Stage => (v.get? stage.name).bind slotOfDocument?
  guard (v.fieldCount = Stage.depth)
  return ⟨← slot .fetch, ← slot .decode, ← slot .execute, ← slot .memory, ← slot .writeBack⟩

theorem stagesOfDocument?_stagesDocument (stages : Pipeline String) :
    stagesOfDocument? (stagesDocument stages) = some stages := by
  obtain ⟨fetch, decode, execute, memory, writeBack⟩ := stages
  cases fetch <;> cases decode <;> cases execute <;> cases memory <;> cases writeBack <;> rfl

/-- An entry of the log as a document. -/
def document (e : LogEntry) : Json :=
  .object [
    ("cycle", .int e.cycle),
    ("stages", stagesDocument e.stages),
    ("pc", .int e.pc),
    ("stalled", .bool e.stalled)]

/-- The entry of the log that a document denotes, which has nothing else in it. -/
def ofDocument? (v : Json) : Option LogEntry := do
  guard (v.fieldCount = 4)
  let some (.int cycle) := v.get? "cycle" | none
  let stages ← (v.get? "stages").bind stagesOfDocument?
  let some (.int pc) := v.get? "pc" | none
  let some (.bool stalled) := v.get? "stalled" | none
  return ⟨cycle, stages, pc, stalled⟩

theorem ofDocument?_document (e : LogEntry) : ofDocument? e.document = some e := by
  have hcount : e.document.fieldCount = 4 := rfl
  have hcycle : e.document.get? "cycle" = some (.int e.cycle) := rfl
  have hstages : (e.document.get? "stages").bind stagesOfDocument? = some e.stages :=
    stagesOfDocument?_stagesDocument e.stages
  have hpc : e.document.get? "pc" = some (.int e.pc) := rfl
  have hstalled : e.document.get? "stalled" = some (.bool e.stalled) := rfl
  rw [ofDocument?, guard_of hcount]
  simp [hcycle, hstages, hpc, hstalled]

end LogEntry

end FiveStage
