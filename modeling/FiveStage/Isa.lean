import FiveStage.Text.Upper

/-!
# The instruction set

Ten opcodes and the meaning of their operands: which are read as registers, which is written, and what kind of work is
done. Instructions take the five stages of the pipeline one after another.

Main statement: `Opcode.ofToken?_eq_some_iff`, by which a token names an opcode exactly if its upper case is the name of
the opcode.
-/

namespace FiveStage

/-- The stages of the pipeline in the order in which an instruction takes them. -/
inductive Stage
  | fetch
  | decode
  | execute
  | memory
  | writeBack
  deriving DecidableEq, Repr

namespace Stage

/-- The abbreviation of a stage. -/
def name : Stage → String
  | fetch => "IF"
  | decode => "ID"
  | execute => "EX"
  | memory => "MEM"
  | writeBack => "WB"

/-- What happens in a stage. -/
def title : Stage → String
  | fetch => "Instruction Fetch"
  | decode => "Instruction Decode"
  | execute => "Execute"
  | memory => "Memory Access"
  | writeBack => "Write Back"

/-- All stages in order. -/
def all : List Stage :=
  [fetch, decode, execute, memory, writeBack]

/-- The number of stages. -/
def depth : Nat := all.length

/-- The stage with an abbreviation. -/
def ofName? (s : String) : Option Stage :=
  all.find? (·.name = s)

theorem mem_all (s : Stage) : s ∈ all := by
  cases s <;> simp [all]

end Stage

/-- The layout class of an instruction. -/
inductive Format
  | r
  | i
  | j
  deriving DecidableEq, Repr

/-- The letter of a layout class. -/
def Format.name : Format → String
  | r => "R"
  | i => "I"
  | j => "J"

/-- The kind of work that an instruction does. -/
inductive Kind
  | alu
  | load
  | store
  | branch
  | jump
  | nop
  deriving DecidableEq, Repr

/-- The name of a kind. -/
def Kind.name : Kind → String
  | alu => "alu"
  | load => "load"
  | store => "store"
  | branch => "branch"
  | jump => "jump"
  | nop => "nop"

/-- What an opcode makes of its operands. Operands are counted from zero. -/
structure Semantics where
  format : Format
  operandCount : Nat
  reads : List Nat
  writes : List Nat
  kind : Kind
  deriving DecidableEq, Repr

/-- The opcodes. -/
inductive Opcode
  | add
  | sub
  | and
  | or
  | lw
  | sw
  | beq
  | bne
  | j
  | nop
  deriving DecidableEq, Repr

namespace Opcode

/-- The name of an opcode. -/
def name : Opcode → String
  | add => "ADD"
  | sub => "SUB"
  | and => "AND"
  | or => "OR"
  | lw => "LW"
  | sw => "SW"
  | beq => "BEQ"
  | bne => "BNE"
  | j => "J"
  | nop => "NOP"

/-- All opcodes. -/
def all : List Opcode :=
  [add, sub, and, or, lw, sw, beq, bne, j, nop]

/-- What the opcode makes of its operands. -/
def semantics : Opcode → Semantics
  | add | sub | and | or => ⟨.r, 3, [1, 2], [0], .alu⟩
  | lw => ⟨.i, 3, [2], [0], .load⟩
  | sw => ⟨.i, 3, [0, 2], [], .store⟩
  | beq | bne => ⟨.i, 3, [0, 1], [], .branch⟩
  | j => ⟨.j, 1, [], [], .jump⟩
  | nop => ⟨.r, 0, [], [], .nop⟩

/-- The opcode computes its result from two registers. -/
def isAlu (op : Opcode) : Bool :=
  op.semantics.kind = .alu

/-- The opcode accesses the memory. -/
def isMemory (op : Opcode) : Bool :=
  op = lw || op = sw

/-- The opcode may change the flow of control. -/
def isControl (op : Opcode) : Bool :=
  op = beq || op = bne || op = j

/-- The opcode with a name. -/
def ofName? (name : String) : Option Opcode :=
  all.find? (·.name = name)

theorem mem_all (op : Opcode) : op ∈ all := by
  cases op <;> simp [all]

theorem ofName?_eq_some_iff (s : String) (op : Opcode) : ofName? s = some op ↔ op.name = s := by
  constructor
  · intro h
    simpa using List.find?_some h
  · rintro rfl
    cases op <;> decide

/-- The opcode that a token names, in upper or lower case. -/
def ofToken? (token : List Char) : Option Opcode :=
  ofName? (String.ofList (Text.upper token))

theorem ofToken?_eq_some_iff (token : List Char) (op : Opcode) :
    ofToken? token = some op ↔ Text.upper token = op.name.toList := by
  rw [ofToken?, ofName?_eq_some_iff]
  constructor
  · intro h
    rw [h, String.toList_ofList]
  · intro h
    rw [h, String.ofList_toList]

end Opcode

end FiveStage
