import FiveStage.Fault
import FiveStage.Json.Items
import FiveStage.Json.Order

/-!
# Loose states

A state that somebody has taken into his own hands. Where a plain state holds a number, a truth value or a text, a loose
one holds any document, and a document can stand for a whole part or for an item of it. A part can also be missing. What
a document does not do is found out when it is asked for it, in the order in which it is asked.

The loaded program stays known, with its progress, as long as instructions of it can be in the pipeline.

Main statements:
* `lookup_put`: a slot holds what was put there last, and the others keep what they held;
* `items_own`: what belongs to a part is its own.
-/

namespace FiveStage.Loose

/-- A part of a state: what belongs there, a document in its place, or nothing. -/
inductive Part (α : Type)
  | own (content : α)
  | document (v : Json)
  | absent
  deriving Repr

/-- An item of a part: what belongs there, or a document in its place. -/
inductive Item (α : Type)
  | own (content : α)
  | document (v : Json)
  deriving Repr

/-- A register or a word of the memory. -/
structure Cell where
  value : Json
  modified : Bool := false
  lastModified : Json := .int 0
  deriving Repr

/-- An instruction of the loaded program and its progress. -/
structure Tracked where
  code : Instruction
  fetched : Json := .int 0
  stage : Option Stage := none
  completed : Bool := false
  deriving Repr

/-- A hazard as it is logged. -/
structure Hazard where
  type : HazardType
  subtype : HazardSubtype
  instruction1 : Json
  instruction2 : Json
  description : Json
  resolved : Json
  cycle : Json
  deriving Repr

/-- The hazard is a read of a value that is not there yet. -/
def Hazard.stalls (h : Hazard) : Bool :=
  h.type = .data && h.subtype = .raw && !h.resolved.isTruthy

/-- What a slot of the pipeline is found under: a stage, or a name that is none. -/
inductive Key
  | stage (stage : Stage)
  | name (text : String)
  deriving DecidableEq, Repr

/-- What a slot holds: the place of an instruction in the loaded program, or a document. A document is told from equal
ones by its place among the instructions, which it loses when they are replaced. -/
structure Occupant where
  item : Item Nat
  origin : Option Nat := none
  deriving Repr

/-- The slots of the pipeline in order. An empty slot holds the missing document. -/
abbrev Slots := List (Key × Occupant)

/-- A loose state. -/
structure State where
  cycle : Json
  pc : Json
  completed : Json
  stalls : Json
  running : Json
  paused : Json
  forwarding : Json
  prediction : Json
  tracked : Array Tracked
  instructions : Part Unit
  registers : Part (Vector Cell registerCount)
  memory : Part (Vector Cell wordCount)
  pipeline : Part Slots
  hazards : Part (List (Item Hazard))
  log : Part (List Json)
  attributes : List (String × Json) := []
  deriving Repr

/-- The name of the kind of a state in messages. -/
def kindName : String := "SimulationState"

/-! ## Items -/

namespace Item

variable {α : Type}

/-- The empty slot. -/
def empty : Item α := document .null

/-- Nothing is there. -/
def isEmpty : Item α → Bool
  | document .null => true
  | _ => false

/-- What belongs there counts as true, and a document as it does. -/
def isTruthy : Item α → Bool
  | own _ => true
  | document v => v.isTruthy

/-- What belongs there, when it is asked for something that documents lack. -/
def asked (name : String) : Item α → Except Misuse α
  | own content => .ok content
  | document v => .error (.lacks v.kindName name)

end Item

/-- Nothing is in the slot. -/
def Occupant.empty : Occupant := ⟨.empty, none⟩

/-! ## Parts -/

namespace Part

variable {α β : Type}

/-- The part with a change of its content. -/
def map (f : α → β) : Part α → Part β
  | own content => own (f content)
  | document v => document v
  | absent => absent

/-- What is made of the content of a part, or of the document in its place. A missing part is missed by its name. -/
def use (name : String) (onOwn : α → Except Misuse β) (onDocument : Json → Except Misuse β) :
    Part α → Except Misuse β
  | own content => onOwn content
  | document v => onDocument v
  | absent => .error (.lacks kindName name)

/-- The content of a part, when it is asked for something that documents lack. -/
def asked (part name : String) : Part α → Except Misuse α :=
  use part .ok fun v => .error (.lacks v.kindName name)

/-- The items of a part, one after another. -/
def items (name : String) (contents : α → List (Item β)) : Part α → Except Misuse (List (Item β)) :=
  use name (fun content => .ok (contents content)) fun v => return (← v.items).map .document

/-- How many items a part has. -/
def size (name : String) (length : α → Nat) : Part α → Except Misuse Nat :=
  use name (fun content => .ok (length content)) Json.size

/-- The part is missing. -/
def isAbsent : Part α → Bool
  | absent => true
  | _ => false

@[simp]
theorem items_own (name : String) (contents : α → List (Item β)) (content : α) :
    (own content).items name contents = .ok (contents content) := rfl

end Part

/-! ## Slots -/

namespace Slots

/-- Puts an occupant into a slot. A slot that is not there yet comes last. -/
def put (key : Key) (occupant : Occupant) : Slots → Slots
  | [] => [(key, occupant)]
  | (other, old) :: rest => if other = key then (key, occupant) :: rest else (other, old) :: put key occupant rest

theorem lookup_put (slots : Slots) (key other : Key) (occupant : Occupant) :
    (put key occupant slots).lookup other = if other = key then some occupant else slots.lookup other := by
  induction slots with
  | nil =>
    by_cases h : other = key
    · simp [put, h]
    · simp [put, List.lookup_cons, h, beq_false_of_ne h]
  | cons entry rest ih =>
    obtain ⟨k, old⟩ := entry
    by_cases hk : k = key
    · subst hk
      by_cases h : other = k
      · simp [put, h]
      · simp [put, List.lookup_cons, h, beq_false_of_ne h]
    · by_cases h : other = k
      · subst h
        simp [put, hk]
      · simp [put, List.lookup_cons, hk, ih, beq_false_of_ne h]

/-- Empty slots for all stages. -/
def clear : Slots :=
  Stage.all.map fun stage => (.stage stage, .empty)

/-- The slot of a stage. -/
def get? (slots : Slots) (stage : Stage) : Option Occupant :=
  slots.lookup (.stage stage)

/-- What the slot of a stage holds. A slot that is not there counts as empty. -/
def get (slots : Slots) (stage : Stage) : Occupant :=
  (slots.get? stage).getD .empty

/-- The slots after the instructions have been replaced. -/
def forget (slots : Slots) : Slots :=
  slots.map fun (key, occupant) => (key, { occupant with origin := none })

end Slots

namespace State

/-! ## The parts of a state -/

/-- The number of instructions. -/
def total (s : State) : Except Misuse Nat :=
  s.instructions.size "instructions" fun _ => s.tracked.size

/-- The instructions, by their places in the loaded program. -/
def instructionItems (s : State) : Except Misuse (List (Item Nat)) :=
  s.instructions.items "instructions" fun _ => (List.range s.tracked.size).map .own

/-- The cells of a storage, with their places. -/
def placedCells {n : Nat} (cells : Vector Cell n) : List (Item (Fin n × Cell)) :=
  (List.finRange n).map fun i => .own (i, cells.get i)

/-- The registers. -/
def registerItems (s : State) : Except Misuse (List (Item (Fin registerCount × Cell))) :=
  s.registers.items "registers" placedCells

/-- The words of the memory. -/
def wordItems (s : State) : Except Misuse (List (Item (Fin wordCount × Cell))) :=
  s.memory.items "memory" placedCells

/-- The hazards. -/
def hazardItems (s : State) : Except Misuse (List (Item Hazard)) :=
  s.hazards.items "hazards" id

/-- The hazards, when all of them are asked for something that documents lack. -/
def hazardsAsked (s : State) (name : String) : Except Misuse (List Hazard) := do
  (← s.hazardItems).mapM (Item.asked name)

/-- The entries of the log. -/
def logItems (s : State) : Except Misuse (List (Item Empty)) :=
  s.log.items "pipeline_log" (·.map .document)

/-- The occupants of the slots in order, empty ones included. -/
def slotItems (s : State) : Except Misuse (List (Item Nat)) :=
  return (← s.pipeline.asked "pipeline" "values").map (·.2.item)

end State

end FiveStage.Loose
