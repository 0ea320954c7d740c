import FiveStage.State.Datapath

/-!
# Cycles

One cycle of the machine, and runs of cycles. A cycle goes through the stages from the last to the first: the
instruction in write-back retires, and then each other one moves on if the slot ahead of it is empty. An instruction
waits in execute as long as it reads what is still on its way. The cycle that only retires the last instruction does
not count.

A register number that cannot be read stops a cycle in the middle; what has been done by then stays done.

Main statements:
* `step_of_idle`: nothing happens in an empty pipeline with nothing to fetch;
* `runFor_of_isComplete`: a complete program does not run on.
-/

namespace FiveStage

namespace State

/-! ## Instructions on the move -/

/-- The state with the instruction at a place changed. -/
def track (s : State) (index : Nat) (f : Tracked → Tracked) : State :=
  { s with instructions := s.instructions.modify index f }

/-- The occupant of a slot moves to another slot. -/
def move (s : State) (source target : Stage) : State :=
  match s.pipeline.get source with
  | none => s
  | some index =>
    { s with pipeline := (s.pipeline.set target (some index)).set source none }.track index fun t =>
      { t with stage := some target }

/-! ## The stages -/

/-- The instruction in write-back retires. -/
def writeBack (s : State) : Except RegisterName.TooLong State :=
  match s.pipeline.writeBack, s.placed.writeBack with
  | some index, some i =>
    (s.storage.retire i.code s.cycle).map fun storage =>
      { s with
        storage
        completed := s.completed + 1
        pipeline := { s.pipeline with writeBack := none } }.track index fun t =>
          { t with completed := true, stage := none }
  | _, _ => .ok s

/-- The instruction in the memory stage does its access and moves on. -/
def memoryAccess (s : State) : Except RegisterName.TooLong State :=
  match s.placed.memory with
  | none => .ok s
  | some i => (s.storage.access i.code s.cycle).map fun storage => { s with storage }.move .memory .writeBack

/-- The data hazards of the instruction in execute. -/
def executeHazards (s : State) : List Hazard :=
  match s.placed.execute with
  | none => []
  | some i => Hazard.dataHazards i s.placed s.forwarding (some s.cycle)

/-- The instruction in execute has to wait. -/
def mustStall (s : State) : Bool :=
  Hazard.needsStall s.executeHazards

/-- The instruction in execute moves on, unless it has to wait. -/
def execute (s : State) : State :=
  let logged := { s with hazards := s.hazards ++ s.executeHazards }
  if s.mustStall then { logged with stalls := s.stalls + 1 } else logged.move .execute .memory

/-- The control hazards of the instruction in decode. -/
def decodeHazards (s : State) : List Hazard :=
  match s.placed.decode with
  | none => []
  | some i => Hazard.controlHazards i s.prediction (some s.cycle)

/-- The instruction in decode moves on if it can. -/
def decode (s : State) : State :=
  let logged := { s with hazards := s.hazards ++ s.decodeHazards }
  if s.pipeline.execute.isNone then logged.move .decode .execute else logged

/-- The fetched instruction moves on if it can. -/
def issue (s : State) : State :=
  if s.pipeline.decode.isNone then s.move .fetch .decode else s

/-- The next instruction is fetched if there is one and the slot is empty. -/
def fetch (s : State) : State :=
  match s.pipeline.fetch, s.next? with
  | none, some index =>
    { s with
      pipeline := { s.pipeline with fetch := some index }
      pc := s.pc + Program.wordSize }.track index fun t =>
        { t with fetched := s.cycle, stage := some .fetch }
  | _, _ => s

/-- Changes that are too long ago no longer show. -/
def age (s : State) : State :=
  { s with storage := s.storage.age s.cycle }

/-- The cycle is remembered. -/
def record (s : State) (stalled : Bool) : State :=
  let entry := { cycle := s.cycle, stages := s.placed.bind fun i => some i.code.raw, pc := s.pc, stalled }
  { s with log := s.log ++ [entry] }

/-! ## Cycles and runs -/

/-- The pipeline is empty and there is nothing to fetch. -/
def isIdle (s : State) : Bool :=
  s.pipeline.isEmpty && s.next?.isNone

/-- The stages from execute to fetch, in that order. -/
def advanceFront (s : State) : State :=
  (s.execute.decode.issue.fetch.age).record s.mustStall

/-- One cycle. -/
def step (s : State) : Except (Interrupted RegisterName.TooLong State) State :=
  match s.writeBack with
  | .error fault => .error ⟨fault, s⟩
  | .ok retired =>
    if retired.isIdle then .ok retired
    else
      let opened := { retired with cycle := retired.cycle + 1 }
      match opened.memoryAccess with
      | .error fault => .error ⟨fault, opened⟩
      | .ok accessed => .ok accessed.advanceFront

/-- At most so many cycles, until the program is complete or the clock reaches a limit. -/
def runFor : Nat → Int → State → Except (Interrupted RegisterName.TooLong State) State
  | 0, _, s => .ok s
  | bound + 1, limit, s =>
    if s.isComplete || decide (limit ≤ s.cycle) then .ok s
    else
      match s.step with
      | .error e => .error e
      | .ok next => runFor bound limit next

/-- Cycles until the program is complete or the clock reaches a limit. Every cycle but one that leaves the machine idle
advances the clock, so the distance to the limit bounds their number. -/
def run (limit : Int) (s : State) : Except (Interrupted RegisterName.TooLong State) State :=
  runFor ((limit - s.cycle).toNat + 1) limit s

theorem step_of_idle {s : State} (h : s.isIdle = true) : s.step = .ok s := by
  have hempty : s.pipeline.isEmpty = true := by
    simp only [isIdle, Bool.and_eq_true] at h
    exact h.1
  have hw : s.pipeline.writeBack = none := (Pipeline.isEmpty_iff _).1 hempty .writeBack
  have hback : s.writeBack = .ok s := by
    rw [writeBack, hw]
  simp [step, hback, h]

theorem runFor_of_isComplete {s : State} (h : s.isComplete = true) (bound : Nat) (limit : Int) :
    runFor bound limit s = .ok s := by
  cases bound <;> simp [runFor, h]

end State

end FiveStage
