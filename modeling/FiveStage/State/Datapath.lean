import FiveStage.Bitwise
import FiveStage.State.Basic

/-!
# The datapath

What single instructions do to registers and memory. An operand that denotes no register counts as zero, and so does a
missing one; an offset that is no numeral is zero; a load from an address without a word gives zero, and a store there
does nothing. Register R0 is never written. A register number that is too long to be read is a fault.

Main statement: `retire_of_no_writes`, by which an instruction without a destination leaves the registers alone.
-/

namespace FiveStage

/-- The integer that an offset denotes: that of a literal, else that of a decimal numeral, else zero. -/
def offsetValue (text : String) : Int :=
  let cs := Text.trim text.toList
  match Numeral.readLiteral cs with
  | .ok n => n
  | .error _ =>
    match Numeral.readDecimal cs with
    | .ok n => n
    | .error _ => 0

/-- The register that an operand denotes, if any. -/
def registerOf (operand : String) : Except RegisterName.TooLong (Option (Fin registerCount)) :=
  RegisterName.find operand.toList

namespace Storage

/-- The value that an operand denotes as a register. -/
def operandValue (s : Storage) : Option String → Except RegisterName.TooLong Int
  | none => .ok 0
  | some operand =>
    match registerOf operand with
    | .ok (some r) => .ok (s.register r)
    | .ok none => .ok 0
    | .error cause => .error cause

/-- The address that a load or store accesses: the offset in its second operand and the base in its third. -/
def dataAddress (s : Storage) (i : Instruction) : Except RegisterName.TooLong Int :=
  (s.operandValue i.operands[2]?).map fun base =>
    base + ((i.operands[1]?).map offsetValue).getD 0

/-- What arithmetic computes from two values. -/
def combine (op : Opcode) (x y : Int) : Int :=
  match op with
  | .add => x + y
  | .sub => x - y
  | .and => Bitwise.conj x y
  | .or => Bitwise.disj x y
  | _ => 0

/-- The value that an instruction writes to its destination. -/
def result (s : Storage) (i : Instruction) : Except RegisterName.TooLong Int :=
  match i.opcode.semantics.kind with
  | .alu => do
    let x ← s.operandValue i.operands[1]?
    let y ← s.operandValue i.operands[2]?
    return combine i.opcode x y
  | .load => (s.dataAddress i).map fun a =>
    match wordAt? a with
    | some w => s.word w
    | none => 0
  | _ => .ok 0

/-- The register that an instruction writes: the one that its destination denotes, unless that is R0. -/
def destination (i : Instruction) : Except RegisterName.TooLong (Option (Fin registerCount)) :=
  match i.writes with
  | [] => .ok none
  | operand :: _ => (registerOf operand).map fun r? => r?.filter (0 < ·.val)

/-- The storage after an instruction has written its result, in a cycle. -/
def retire (s : Storage) (i : Instruction) (cycle : Int) : Except RegisterName.TooLong Storage := do
  match ← destination i with
  | none => return s
  | some r =>
    let value ← s.result i
    return { s with registers := s.registers.set r (Cell.write value cycle) r.isLt }

/-- The storage after an instruction has accessed the memory, in a cycle. -/
def access (s : Storage) (i : Instruction) (cycle : Int) : Except RegisterName.TooLong Storage :=
  if i.opcode = .sw then do
    match wordAt? (← s.dataAddress i) with
    | none => return s
    | some w =>
      let value ← s.operandValue i.operands[0]?
      return { s with memory := s.memory.set w (Cell.write value cycle) w.isLt }
  else .ok s

/-- The storage at the end of a cycle. -/
def age (s : Storage) (cycle : Int) : Storage :=
  { s with registers := s.registers.map (Cell.age cycle), memory := s.memory.map (Cell.age cycle) }

theorem retire_of_no_writes {i : Instruction} (h : i.writes = []) (s : Storage) (cycle : Int) :
    s.retire i cycle = .ok s := by
  simp [retire, destination, h, bind, Except.bind, pure, Except.pure]

end Storage

end FiveStage
