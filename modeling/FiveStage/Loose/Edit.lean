import FiveStage.Loose.Assign
import FiveStage.Loose.Run

/-!
# Changes of loose states

What is done to a loose state besides running it: a program is loaded, the settings are applied, values are put into
cells, and an instruction is placed in a slot.

Main statements:
* `load_absent`: a loaded program is there even if there was no part for it;
* `applySettings_idempotent`: settings applied twice are settings applied once.
-/

namespace FiveStage.Loose

/-- The settings of a user as they were given. -/
structure Settings where
  forwarding : Json := .bool true
  prediction : Json := .bool false
  speed : Json := .int 5
  stepMode : Json := .bool false
  deriving Repr

namespace Settings

/-- The settings as a document. -/
def document (s : Settings) : Json :=
  .object [
    ("forwarding_enabled", s.forwarding),
    ("branch_prediction_enabled", s.prediction),
    ("speed", s.speed),
    ("step_mode", s.stepMode)]

/-- The milliseconds between two cycles. -/
def interval (s : Settings) : Except SpeedError Int :=
  s.speed.toInt.map FiveStage.Settings.intervalOf

end Settings

namespace State

/-- The state with a program loaded. Registers, memory and settings stay. -/
def load (instructions : List Instruction) (s : State) : State :=
  { s with
    tracked := (instructions.map fun code => { code }).toArray
    instructions := .own ()
    pc := .int Program.baseAddress
    cycle := .int 0
    completed := .int 0
    stalls := .int 0
    hazards := .own []
    log := .own []
    pipeline := .own Slots.clear }

/-- The state tells whether the machine runs by itself or pauses. -/
def mark (running paused : Bool) (s : State) : State :=
  { s with running := .bool running, paused := .bool paused }

/-- The state with the settings of a user. -/
def applySettings (s : State) (settings : Settings) : State :=
  { s with forwarding := settings.forwarding, prediction := settings.prediction }

theorem load_absent (instructions : List Instruction) (s : State) :
    (({ s with instructions := .absent } : State).load instructions).total = .ok instructions.length := by
  simp [load, total, Part.size, Part.use]

theorem applySettings_idempotent (s : State) (settings : Settings) :
    (s.applySettings settings).applySettings settings = s.applySettings settings := rfl

end State

/-- The cells with a value put into the one at a place. -/
def putInto {n : Nat} (cells : Vector Cell n) (place value : Json) : Except Misuse (Vector Cell n) := do
  let i ← Json.position "list" n place
  if h : i < n then return cells.set i { cells[i] with value } else return cells

/-- Why a document does not take a value at a place. -/
def refuse {α : Type} (v place : Json) : Except Misuse α := do
  let item ← v.item place
  throw (.lacks item.kindName "value")

/-- Puts a value into a register, as if it had always been there. -/
def putRegister (place value : Json) : Work Unit := do
  let cells ← (← get).registers.use "registers" (putInto · place value) (refuse · place)
  modify fun s => { s with registers := .own cells }

/-- Puts a value into a word of the memory, as if it had always been there. -/
def putWord (place value : Json) : Work Unit := do
  let cells ← (← get).memory.use "memory" (putInto · place value) (refuse · place)
  modify fun s => { s with memory := .own cells }

/-- The stage that a document names. -/
def stageOf : Json → Except Misuse Stage
  | .string name =>
    match Stage.ofName? name with
    | some stage => .ok stage
    | none => .error (.noField (Text.quote name))
  | .array _ => .error (.unhashable "list")
  | .object _ => .error (.unhashable "dict")
  | v => .error (.noField v.display)

/-- Places the instruction that a document denotes in the slot of a stage; the missing document clears the slot. -/
def place (stage index : Json) : Work Unit := do
  let occupant ← match index with
    | .null => pure Occupant.empty
    | index => (← get).instruction index
  let _ ← (← get).pipeline.use "pipeline" (fun _ => .ok ()) fun _ => .ok ()
  putSlot (← stageOf stage) occupant

end FiveStage.Loose
