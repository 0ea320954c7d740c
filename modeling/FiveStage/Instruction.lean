import FiveStage.Isa
import FiveStage.RegisterName

/-!
# Instructions

An instruction of a program, the registers it names, and when its operands are well formed.

Main statement: `writes_length_le`, by which an instruction names at most one register to write.
-/

namespace FiveStage

/-- An instruction as it stands in a program: its label, its address, its opcode and operands, and its text. -/
structure Instruction where
  id : String
  pc : Int
  opcode : Opcode
  operands : List String
  raw : String
  deriving DecidableEq, Repr

namespace Instruction

/-- The layout class. -/
def format (i : Instruction) : Format :=
  i.opcode.semantics.format

/-- The operand texts at some positions; positions that the instruction lacks are left out. -/
def operandsAt (i : Instruction) (positions : List Nat) : List String :=
  positions.filterMap (i.operands[·]?)

/-- The register names that the instruction reads. -/
def reads (i : Instruction) : List String :=
  i.operandsAt i.opcode.semantics.reads

/-- The register names that the instruction writes. -/
def writes (i : Instruction) : List String :=
  i.operandsAt i.opcode.semantics.writes

/-- The number of operands is that of the opcode, and the operands of arithmetic are register names. -/
def isValid (i : Instruction) : Bool :=
  i.operands.length = i.opcode.semantics.operandCount &&
    (!i.opcode.isAlu || i.operands.all fun operand => RegisterName.isName operand.toList)

theorem writes_length_le (i : Instruction) : i.writes.length ≤ 1 := by
  have h : i.opcode.semantics.writes.length ≤ 1 := by
    cases i.opcode <;> decide
  exact Nat.le_trans (List.length_filterMap_le ..) h

end Instruction

end FiveStage
