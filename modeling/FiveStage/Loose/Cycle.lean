import FiveStage.Loose.State
import FiveStage.State.Datapath

/-!
# Cycles of loose states

One cycle of a machine whose state is loose. It does what a cycle of a plain state does, in the same order; a document
that is in the way ends it where it is asked for something that it lacks. What has been done by then stays done.

Main statements:
* `run_slot_own`: what a slot holds is read without a change;
* `run_track`: progress is noted without a fault.
-/

namespace FiveStage.Loose

/-- Work on a loose state, which a fault can end. -/
abbrev Work := EStateM Fault State

/-- A misuse ends the work. -/
instance : MonadLift (Except Misuse) Work where
  monadLift
    | .ok a => pure a
    | .error cause => throw (.misuse cause)

/-- A register that cannot be named ends the work. -/
instance : MonadLift (Except RegisterName.TooLong) Work where
  monadLift
    | .ok a => pure a
    | .error cause => throw (.register cause)

/-! ## Slots and their occupants -/

/-- How a stage is named where it is missed. -/
def missedStage (stage : Stage) : String :=
  "<Stage." ++ stage.name ++ ": '" ++ stage.title ++ "'>"

/-- What is said of a document that is asked for the slot of a stage. -/
def slotMisuse : Json → Misuse
  | .array _ => .place "list" "Stage"
  | .string _ => .place "str" "Stage"
  | v => .noItems v.kindName

/-- What is said of a document that is to take something into the slot of a stage. -/
def putMisuse : Json → Misuse
  | .array _ => .place "list" "Stage"
  | v => .fixedItems v.kindName

/-- What the slot of a stage holds. -/
def slot (stage : Stage) : Work Occupant := do
  let find := fun slots : Slots => match slots.get? stage with
    | some occupant => .ok occupant
    | none => .error (.noField (missedStage stage))
  (← get).pipeline.use "pipeline" find fun v => .error (slotMisuse v)

/-- Puts an occupant into the slot of a stage. -/
def putSlot (stage : Stage) (occupant : Occupant) : Work Unit := do
  let slots ← (← get).pipeline.use "pipeline" .ok fun v => .error (putMisuse v)
  modify fun s => { s with pipeline := .own (slots.put (.stage stage) occupant) }

/-- Notes the progress of the instruction at a place of the loaded program. -/
def track (index : Nat) (f : Tracked → Tracked) : Work Unit :=
  modify fun s => { s with tracked := s.tracked.modify index f }

namespace State

/-- The instruction at a place of the loaded program, with its place. -/
def placed? (s : State) (index : Nat) : Option Placed :=
  s.tracked[index]?.map fun t => ⟨index, t.code, 0⟩

/-- The instruction in a slot, when it is asked for something that documents lack. -/
def instructionIn (s : State) (name : String) (item : Item Nat) : Except Misuse (Option Placed) :=
  if item.isEmpty then .ok none else (item.asked name).map s.placed?

/-- The pipeline, as far as some stages need it. -/
def pipelineAt (s : State) (slots : Slots) : List Stage → Except Misuse (Pipeline Placed)
  | [] => .ok {}
  | stage :: rest => do
    let occupant ← s.instructionIn "opcode" (slots.get stage).item
    return (← pipelineAt s slots rest).set stage occupant

end State

/-- The occupant of a slot moves to another slot. -/
def move (source target : Stage) : Work Unit := do
  let occupant ← slot source
  putSlot target occupant
  putSlot source .empty
  track (← occupant.item.asked "stage") fun t => { t with stage := some target }

/-! ## The datapath -/

/-- What stands for a register. -/
def State.register (s : State) (r : Fin registerCount) : Except Misuse (Item Cell) :=
  s.registers.use "registers" (fun cells => .ok (.own (cells.get r))) fun v => (v.item (.int r.val)).map .document

/-- The value that an operand denotes as a register. -/
def operandValue : Option String → Work Json
  | none => return .int 0
  | some operand => do
    match ← registerOf operand with
    | none => return .int 0
    | some r => return (← (← (← get).register r).asked "value").value

/-- The address that a load or store accesses. -/
def dataAddress (i : Instruction) : Work Json := do
  let base ← operandValue i.operands[2]?
  base.plus (.int (((i.operands[1]?).map offsetValue).getD 0))

/-- The first cell with an address among items that are asked for their addresses. -/
def wordIn (a : Json) : List (Item (Fin wordCount × Cell)) → Except Misuse (Option (Fin wordCount × Cell))
  | [] => .ok none
  | item :: rest => do
    let (w, cell) ← item.asked "address"
    if (Json.int (address w)).same a then return some (w, cell) else wordIn a rest

/-- The word at an address. What stands for the way to find it is called in its place. -/
def State.findWord (s : State) (a : Json) : Except Misuse (Option (Fin wordCount × Cell)) :=
  match s.attributes.lookup "find_memory" with
  | some v => .error (.called v.kindName)
  | none => do wordIn a (← s.wordItems)

/-- What arithmetic computes from two values. -/
def combine (op : Opcode) (x y : Json) : Except Misuse Json :=
  match op with
  | .add => x.plus y
  | .sub => x.minus y
  | .and => x.conj y
  | .or => x.disj y
  | _ => .ok (.int 0)

/-- The value that an instruction writes to its destination. -/
def result (i : Instruction) : Work Json :=
  match i.opcode.semantics.kind with
  | .alu => do
    let x ← operandValue i.operands[1]?
    let y ← operandValue i.operands[2]?
    combine i.opcode x y
  | .load => do
    let a ← dataAddress i
    match ← (← get).findWord a with
    | some (_, cell) => return cell.value
    | none => return .int 0
  | _ => return .int 0

/-- A cell after a change in the current cycle. -/
def State.written (s : State) (value : Json) : Cell :=
  ⟨value, true, s.cycle⟩

/-- Replaces the cell of a register. -/
def State.putRegister (s : State) (r : Fin registerCount) (cell : Cell) : State :=
  match s.registers with
  | .own cells => { s with registers := .own (cells.set r cell r.isLt) }
  | _ => s

/-- Replaces the cell of a word. -/
def State.putWord (s : State) (w : Fin wordCount) (cell : Cell) : State :=
  match s.memory with
  | .own cells => { s with memory := .own (cells.set w cell w.isLt) }
  | _ => s

/-- An instruction writes its result. The register is there before the result is. -/
def retire (i : Instruction) : Work Unit :=
  match i.writes with
  | [] => return ()
  | operand :: _ => do
    match (← registerOf operand).filter (0 < ·.val) with
    | none => return ()
    | some r =>
      let target ← (← get).register r
      let value ← result i
      let _ ← target.asked "value"
      modify fun s => s.putRegister r (s.written value)

/-- An instruction accesses the memory. -/
def access (i : Instruction) : Work Unit := do
  if i.opcode = .sw then
    let a ← dataAddress i
    match ← (← get).findWord a with
    | none => return ()
    | some (w, _) =>
      let value ← operandValue i.operands[0]?
      modify fun s => s.putWord w (s.written value)

/-! ## The stages -/

/-- The instruction in write-back retires. It is counted before its slot is cleared. -/
def writeBack : Work Unit := do
  let item := (← slot .writeBack).item
  match ← (← get).instructionIn "opcode" item with
  | none => return ()
  | some i =>
    retire i.code
    track i.index fun t => { t with completed := true, stage := none }
    let completed ← (← get).completed.increase 1
    modify fun s => { s with completed }
    putSlot .writeBack .empty

/-- The instruction in the memory stage does its access and moves on. -/
def memoryAccess : Work Unit := do
  let item := (← slot .memory).item
  match ← (← get).instructionIn "opcode" item with
  | none => return ()
  | some i =>
    access i.code
    move .memory .writeBack

/-- A hazard that was noticed in a cycle. -/
def Hazard.at (h : FiveStage.Hazard) (cycle : Json) : Hazard :=
  ⟨h.type, h.subtype, .string h.instruction1, .string h.instruction2, .string h.description, .bool h.resolved, cycle⟩

/-- Logs hazards of the current cycle. -/
def logHazards (hazards : List FiveStage.Hazard) : Work Unit := do
  let logged ← (← get).hazards.asked "hazards" "extend"
  modify fun s => { s with hazards := .own (logged ++ hazards.map fun h => .own (Hazard.at h s.cycle)) }

/-- The instruction in execute moves on, unless it has to wait. Tells whether it waits. -/
def execute : Work Bool := do
  let item := (← slot .execute).item
  let s ← get
  match ← s.instructionIn "opcode" item with
  | none => return false
  | some i =>
    let pipeline ← s.pipelineAt (← s.pipeline.asked "pipeline" "get") FiveStage.Hazard.comparedStages
    let hazards := FiveStage.Hazard.dataHazards i pipeline s.forwarding.isTruthy none
    logHazards hazards
    if FiveStage.Hazard.needsStall hazards then
      let stalls ← (← get).stalls.increase 1
      modify fun s => { s with stalls }
      return true
    else
      move .execute .memory
      return false

/-- The instruction in decode moves on if it can. -/
def decode : Work Unit := do
  let item := (← slot .decode).item
  if !item.isEmpty then
    let s ← get
    let _ ← s.hazards.asked "hazards" "extend"
    match ← s.instructionIn "opcode" item with
    | none => return ()
    | some i => logHazards (FiveStage.Hazard.controlHazards i s.prediction.isTruthy none)
    if (← slot .execute).item.isEmpty then move .decode .execute

/-- The fetched instruction moves on if it can. -/
def issue : Work Unit := do
  if !(← slot .fetch).item.isEmpty then
    if (← slot .decode).item.isEmpty then move .fetch .decode

/-- What stands at the address of the next fetch, if anything does. A fraction is no place in a list. -/
def State.next (s : State) : Except Misuse (Item Nat) := do
  let distance ← s.pc.minus (.int Program.baseAddress)
  match (Number.ofJson? distance).bind (·.floorDiv? Program.wordSize) with
  | none => return .empty
  | some index =>
    if index < 0 then return .empty
    else if (← s.total) ≤ index then return .empty
    else
      let key := if distance.integer?.isSome then .int index else .real (Binary64.ofInt index)
      s.instructions.use "instructions"
        (fun _ => return .own (← Json.position "list" s.tracked.size key))
        fun v => (v.item key).map .document

/-- The next instruction is fetched if there is one and the slot is empty. -/
def fetch : Work Unit := do
  if (← slot .fetch).item.isEmpty then
    let next ← (← get).next
    if !next.isEmpty then
      let index ← next.asked "cycle"
      let cycle := (← get).cycle
      track index fun t => { t with fetched := cycle, stage := some .fetch }
      putSlot .fetch { item := next }
      let pc ← (← get).pc.increase Program.wordSize
      modify fun s => { s with pc }

/-! ## The end of a cycle -/

/-- A register or a word. -/
inductive Place
  | register (r : Fin registerCount)
  | word (w : Fin wordCount)

/-- A row of cells as a row of items. -/
def cellItems {n : Nat} (place : Fin n → Place) (cells : Vector Cell n) : List (Item (Place × Cell)) :=
  (List.finRange n).map fun i => .own (place i, cells.get i)

/-- The registers and the words in one row. A list can stand for either of them. -/
def State.allCells (s : State) : Except Misuse (List (Item (Place × Cell))) :=
  s.registers.use "registers"
    (fun registers =>
      s.memory.use "memory" (fun memory => .ok (cellItems .register registers ++ cellItems .word memory)) fun v =>
        match v with
        | .array items => .ok (cellItems .register registers ++ items.map .document)
        | v => .error (.joined "list" v.kindName))
    fun v =>
      s.memory.use "memory"
        (fun memory => match v with
          | .array items => .ok (items.map .document ++ cellItems .word memory)
          | .string _ => .error (.joined "str" "list")
          | v => .error (.operands "+" v.kindName "list"))
        fun w => do return (← (← v.plus w).items).map .document

/-- The change of a cell is too long ago to show. -/
def isOver (cycle : Json) (cell : Cell) : Except Misuse Bool := do
  if cell.modified then (← cycle.minus cell.lastModified).exceeds modifiedWindow else return false

/-- Changes that are too long ago no longer show, item by item. -/
def ageItems : List (Item (Place × Cell)) → Work Unit
  | [] => return ()
  | item :: rest => do
    let (place, cell) ← item.asked "modified"
    if ← isOver (← get).cycle cell then
      let cell := { cell with modified := false }
      match place with
      | .register r => modify fun s => s.putRegister r cell
      | .word w => modify fun s => s.putWord w cell
    ageItems rest

/-- Changes that are too long ago no longer show. -/
def age : Work Unit := do
  ageItems (← (← get).allCells)

/-- The text of an occupant as it is logged. -/
def State.textOf (s : State) (item : Item Nat) : Except Misuse Json := do
  if item.isTruthy then return .string (((s.placed? (← item.asked "raw")).map (·.code.raw)).getD "")
  else return .null

/-- The texts of the slots as they are logged. -/
def State.stageTexts (s : State) : Slots → Except Misuse (List (String × Json))
  | [] => .ok []
  | (.name _, _) :: _ => .error (.lacks "str" "name")
  | (.stage stage, occupant) :: rest => do
    let text ← s.textOf occupant.item
    return (stage.name, text) :: (← s.stageTexts rest)

/-- The cycle is remembered. -/
def record (stalled : Bool) : Work Unit := do
  let s ← get
  let log ← s.log.asked "pipeline_log" "append"
  let stages ← s.stageTexts (← s.pipeline.asked "pipeline" "items")
  let entry := .object [("cycle", s.cycle), ("stages", .object stages), ("pc", s.pc), ("stalled", .bool stalled)]
  modify fun s => { s with log := .own (log ++ [entry]) }

/-! ## Cycles -/

/-- The occupants, for those who ask. What stands for the way to list them is called in its place. -/
def State.occupants (s : State) : Except Misuse (List (Item Nat)) :=
  match s.attributes.lookup "occupied" with
  | some v => .error (.called v.kindName)
  | none => return (← s.slotItems).filter (!·.isEmpty)

/-- The pipeline is empty and there is nothing to fetch. -/
def State.isIdle (s : State) : Except Misuse Bool := do
  if (← s.occupants).isEmpty then return (← s.next).isEmpty else return false

/-- One cycle. -/
def cycle : Work Unit := do
  writeBack
  if !(← (← get).isIdle) then
    let cycle ← (← get).cycle.increase 1
    modify fun s => { s with cycle }
    memoryAccess
    let stalled ← execute
    decode
    issue
    fetch
    age
    record stalled

theorem run_track (index : Nat) (f : Tracked → Tracked) (s : State) :
    (track index f).run s = .ok () { s with tracked := s.tracked.modify index f } := rfl

theorem run_slot_own {s : State} {slots : Slots} {stage : Stage} {occupant : Occupant} (hs : s.pipeline = .own slots)
    (h : slots.get? stage = some occupant) : (slot stage).run s = .ok occupant s := by
  have hget : (EStateM.get s : EStateM.Result Fault State State) = .ok s s := rfl
  simp only [slot, EStateM.run, bind, EStateM.bind, get, getThe, MonadStateOf.get, hget, hs, Part.use, h]
  rfl

end FiveStage.Loose
