import FiveStage.Hazard
import FiveStage.Program

/-!
# States of the machine

What the machine holds between two cycles: the loaded program with the progress of each of its instructions, the
registers and the memory, the pipeline, the logs and the counters. A pipeline slot names its occupant by the place of
the instruction in the program.

Main statements:
* `address_injective`: no two words of the memory have one address;
* `wordAt?_eq_some_iff`: the word at an address is found.
-/

namespace FiveStage

/-- A computation that was stopped: why, and what it had done by then. -/
structure Interrupted (φ σ : Type) where
  fault : φ
  state : σ
  deriving DecidableEq, Repr

/-- The number of words of the memory. -/
abbrev wordCount : Nat := 16

/-- The address of the first word of the memory. -/
def memoryBase : Int := 0x10000000

/-- For how many cycles a storage cell counts as modified. -/
def modifiedWindow : Int := 3

/-- A register or a word of the memory: its value, whether it counts as modified, and the cycle of the last change. -/
structure Cell where
  value : Int
  modified : Bool := false
  lastModified : Int := 0
  deriving DecidableEq, Repr

/-- The cell after a change in a cycle. -/
def Cell.write (value cycle : Int) : Cell :=
  ⟨value, true, cycle⟩

/-- The cell at the end of a cycle: a change that is too long ago no longer shows. -/
def Cell.age (cycle : Int) (c : Cell) : Cell :=
  if c.modified && decide (modifiedWindow < cycle - c.lastModified) then { c with modified := false } else c

/-- An instruction of the loaded program and its progress: the cycle of its fetch, the stage it is in, and whether it
is completed. -/
structure Tracked where
  code : Instruction
  fetched : Int := 0
  stage : Option Stage := none
  completed : Bool := false
  deriving DecidableEq, Repr

/-- What is remembered of a cycle: the texts of the instructions in the pipeline, the address of the next fetch, and
whether an instruction had to wait. -/
structure LogEntry where
  cycle : Int
  stages : Pipeline String
  pc : Int
  stalled : Bool
  deriving DecidableEq, Repr

/-- The registers and the memory. -/
structure Storage where
  registers : Vector Cell registerCount
  memory : Vector Cell wordCount
  deriving DecidableEq, Repr

/-- The state of the machine. -/
structure State where
  cycle : Int := 0
  pc : Int := Program.baseAddress
  instructions : Array Tracked := #[]
  storage : Storage
  pipeline : Pipeline Nat := {}
  hazards : List Hazard := []
  running : Bool := false
  paused : Bool := false
  completed : Int := 0
  stalls : Int := 0
  forwarding : Bool := true
  prediction : Bool := false
  log : List LogEntry := []
  deriving DecidableEq, Repr

/-- The name of a register. -/
def registerName (r : Fin registerCount) : String :=
  "R" ++ toString r.val

/-- The address of a word. -/
def address (w : Fin wordCount) : Int :=
  memoryBase + w.val * Program.wordSize

/-- The word at an address. -/
def wordAt? (a : Int) : Option (Fin wordCount) :=
  (List.finRange wordCount).find? fun w => address w = a

theorem address_injective {v w : Fin wordCount} (h : address v = address w) : v = w := by
  simp only [address, Program.wordSize] at h
  exact Fin.ext (by omega)

theorem wordAt?_eq_some_iff (a : Int) (w : Fin wordCount) : wordAt? a = some w ↔ address w = a := by
  constructor
  · intro h
    simpa using List.find?_some h
  · rintro rfl
    revert w
    decide

namespace Storage

/-- The storage in which every cell holds zero. -/
def zero : Storage :=
  { registers := Vector.replicate _ { value := 0 }, memory := Vector.replicate _ { value := 0 } }

/-- The storage with a value put into a register, as if it had always been there. -/
def setRegister (s : Storage) (r : Fin registerCount) (value : Int) : Storage :=
  { s with registers := s.registers.set r { s.registers[r] with value } }

/-- The storage with a value put into a word, as if it had always been there. -/
def setWord (s : Storage) (w : Fin wordCount) (value : Int) : Storage :=
  { s with memory := s.memory.set w { s.memory[w] with value } }

/-- The value of a register. -/
def register (s : Storage) (r : Fin registerCount) : Int :=
  s.registers[r].value

/-- The value of a word. -/
def word (s : Storage) (w : Fin wordCount) : Int :=
  s.memory[w].value

/-- The registers with their cells. -/
def registerCells (s : Storage) : List (Fin registerCount × Cell) :=
  (List.finRange registerCount).map fun r => (r, s.registers[r])

/-- The words of the memory with their cells. -/
def wordCells (s : Storage) : List (Fin wordCount × Cell) :=
  (List.finRange wordCount).map fun w => (w, s.memory[w])

end Storage

namespace State

/-- The instruction at a place, with its place. -/
def placed? (s : State) (index : Nat) : Option Placed :=
  s.instructions[index]?.map fun t => ⟨index, t.code, t.fetched⟩

/-- The pipeline with its occupants instead of their places. -/
def placed (s : State) : Pipeline Placed :=
  s.pipeline.bind s.placed?

/-- The place of the instruction that is fetched next, if there is one. -/
def next? (s : State) : Option Nat :=
  let index := (s.pc - Program.baseAddress).fdiv Program.wordSize
  if 0 ≤ index ∧ index < s.instructions.size then some index.toNat else none

/-- All instructions are completed and the pipeline is empty. -/
def isComplete (s : State) : Bool :=
  s.completed = s.instructions.size && s.pipeline.isEmpty

end State

end FiveStage
