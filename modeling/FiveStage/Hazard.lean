import FiveStage.Instruction
import FiveStage.Pipeline

/-!
# Hazards

Conflicts between instructions that are in the pipeline together. A data hazard is a pair of equal register names, one
used by an instruction and one by another further on; a control hazard is a branch or jump; a structural hazard is a
memory access while an instruction is fetched.

Main statements:
* `mem_dataHazards_iff_exists`: a data hazard is always against one of the last three stages;
* `needsStall_append`: hazards cause a stall if some of them do.
-/

namespace FiveStage

/-- The class of a hazard. -/
inductive HazardType
  | data
  | control
  | structural
  deriving DecidableEq, Repr

/-- The name of a class. -/
def HazardType.name : HazardType → String
  | data => "data"
  | control => "control"
  | structural => "structural"

/-- The class with a name. -/
def HazardType.ofName? (s : String) : Option HazardType :=
  [data, control, structural].find? (·.name = s)

/-- The kind of conflict: a read after a write, a write after a read, a write after a write, a branch, or a resource
that is used twice. -/
inductive HazardSubtype
  | raw
  | war
  | waw
  | branch
  | resource
  deriving DecidableEq, Repr

/-- The name of a kind. -/
def HazardSubtype.name : HazardSubtype → String
  | raw => "RAW"
  | war => "WAR"
  | waw => "WAW"
  | branch => "branch"
  | resource => "resource"

/-- All kinds. -/
def HazardSubtype.all : List HazardSubtype :=
  [raw, war, waw, branch, resource]

/-- The kind with a name. -/
def HazardSubtype.ofName? (s : String) : Option HazardSubtype :=
  all.find? (·.name = s)

/-- A hazard as it is logged: the texts of the earlier and of the later instruction, what happens, whether it does no
harm, and the cycle in which it was noticed. -/
structure Hazard where
  type : HazardType
  subtype : HazardSubtype
  instruction1 : String
  instruction2 : String
  description : String
  resolved : Bool
  cycle : Int
  deriving DecidableEq, Repr

/-- An instruction with its place in the program, which tells it from an equal instruction elsewhere, and the cycle in
which it was fetched. -/
structure Placed where
  index : Nat
  code : Instruction
  fetched : Int := 0
  deriving DecidableEq, Repr

namespace Hazard

/-! ## Data hazards -/

/-- A result is passed on to the next instruction without a register only if arithmetic computed it. -/
def canForward (producer : Instruction) (forwarding : Bool) : Bool :=
  forwarding && producer.opcode.isAlu

/-- One hazard for every pair of equal names. -/
def pairs (xs ys : List String) (hazard : String → Hazard) : List Hazard :=
  xs.flatMap fun x => (ys.filter (x = ·)).map fun _ => hazard x

/-- A read after a write. -/
def raw (consumer producer : Instruction) (forwarding : Bool) (cycle : Int) (register : String) : Hazard where
  type := .data
  subtype := .raw
  instruction1 := producer.raw
  instruction2 := consumer.raw
  description := consumer.raw ++ " reads " ++ register ++ " written by " ++ producer.raw
  resolved := canForward producer forwarding
  cycle := cycle

/-- A write after a read; renaming registers removes it. -/
def war (consumer producer : Instruction) (cycle : Int) (register : String) : Hazard where
  type := .data
  subtype := .war
  instruction1 := producer.raw
  instruction2 := consumer.raw
  description := consumer.raw ++ " writes " ++ register ++ " read by " ++ producer.raw
  resolved := true
  cycle := cycle

/-- A write after a write. -/
def waw (consumer producer : Instruction) (cycle : Int) (register : String) : Hazard where
  type := .data
  subtype := .waw
  instruction1 := producer.raw
  instruction2 := consumer.raw
  description := "Both instructions write to " ++ register
  resolved := false
  cycle := cycle

/-- The data hazards of an instruction against another one. -/
def between (consumer producer : Instruction) (forwarding : Bool) (cycle : Int) : List Hazard :=
  pairs consumer.reads producer.writes (raw consumer producer forwarding cycle) ++
    pairs consumer.writes producer.reads (war consumer producer cycle) ++
    pairs consumer.writes producer.writes (waw consumer producer cycle)

/-- The stages whose occupants an instruction is compared with. -/
def comparedStages : List Stage :=
  [.execute, .memory, .writeBack]

/-- The data hazards of an instruction against the occupant of a stage; an instruction is not compared with itself. -/
def against (consumer : Placed) (pipeline : Pipeline Placed) (forwarding : Bool) (cycle : Int) (stage : Stage) :
    List Hazard :=
  match pipeline.get stage with
  | none => []
  | some producer =>
    if producer.index = consumer.index then [] else between consumer.code producer.code forwarding cycle

/-- The data hazards of an instruction, noticed in a cycle or else in the cycle of its fetch. -/
def dataHazards (consumer : Placed) (pipeline : Pipeline Placed) (forwarding : Bool) (cycle? : Option Int) :
    List Hazard :=
  comparedStages.flatMap (against consumer pipeline forwarding (cycle?.getD consumer.fetched))

theorem mem_dataHazards_iff_exists (consumer : Placed) (pipeline : Pipeline Placed) (forwarding : Bool)
    (cycle? : Option Int) (h : Hazard) :
    h ∈ dataHazards consumer pipeline forwarding cycle? ↔
      ∃ stage ∈ comparedStages, ∃ producer, pipeline.get stage = some producer ∧ producer.index ≠ consumer.index ∧
        h ∈ between consumer.code producer.code forwarding (cycle?.getD consumer.fetched) := by
  simp only [dataHazards, List.mem_flatMap]
  refine exists_congr fun stage => and_congr_right fun _ => ?_
  rw [against]
  split
  · simp_all
  · split <;> simp_all

/-! ## Control and structural hazards -/

/-- The hazard of a branch or jump, noticed in a cycle or else in the cycle of its fetch. Prediction resolves it. -/
def controlHazards (i : Placed) (prediction : Bool) (cycle? : Option Int) : List Hazard :=
  if i.code.opcode.isControl then
    [{ type := .control
       subtype := .branch
       instruction1 := i.code.raw
       instruction2 := ""
       description := "Branch instruction " ++ i.code.raw ++ " causes control hazard"
       resolved := prediction
       cycle := cycle?.getD i.fetched }]
  else []

/-- The hazard of a load or store that accesses the memory while an instruction is fetched, noticed in a cycle or else
in the cycle of its own fetch. -/
def structuralHazards (pipeline : Pipeline Placed) (cycle? : Option Int) : List Hazard :=
  match pipeline.memory, pipeline.fetch with
  | some access, some fetched =>
    if access.code.opcode.isMemory then
      [{ type := .structural
         subtype := .resource
         instruction1 := access.code.raw
         instruction2 := fetched.code.raw
         description := "Memory access conflict between MEM and IF stages"
         resolved := false
         cycle := cycle?.getD access.fetched }]
    else []
  | _, _ => []

/-! ## Stalls -/

/-- The hazard is a read of a value that is not there yet. -/
def stalls (h : Hazard) : Bool :=
  h.type = .data && h.subtype = .raw && !h.resolved

/-- Some hazard is a read of a value that is not there yet. -/
def needsStall (hazards : List Hazard) : Bool :=
  hazards.any stalls

theorem needsStall_append (a b : List Hazard) : needsStall (a ++ b) = (needsStall a || needsStall b) := by
  simp [needsStall]

/-- How many cycles an instruction would wait for the load that is being executed: one if it reads what the load
writes. -/
def stallEstimate (i : Placed) (pipeline : Pipeline Placed) : Nat :=
  match pipeline.execute with
  | none => 0
  | some producer =>
    if producer.index ≠ i.index ∧ producer.code.opcode = .lw ∧ ∃ register ∈ i.code.reads,
        register ∈ producer.code.writes then 1 else 0

end Hazard

end FiveStage
