import FiveStage.Fault
import FiveStage.Program
import FiveStage.State.Cycle

/-!
# Machines

What an engine needs of the states of its machine: how they begin, how a program is loaded, how a cycle is done, when
the program is complete, and how a state is handed out. A plain state does all that without ado: it is complete or not,
and handed out as it is.

Main statements:
* `load_storage`: loading a program leaves registers and memory alone;
* `applySettings_idempotent`: settings applied twice are settings applied once;
* `step_error_iff`: only a register number that cannot be read stops a cycle of a plain state.
-/

namespace FiveStage

/-- What can be done with the states of a machine. -/
class Machine (μ : Type) where
  /-- A machine with a storage that has done nothing yet. -/
  fresh : Storage → μ
  /-- With a program loaded. -/
  load : List Instruction → μ → μ
  /-- The state tells whether the machine runs by itself or pauses. -/
  mark : (running paused : Bool) → μ → μ
  /-- The program is complete. -/
  isComplete : μ → Except Fault Bool
  /-- One cycle. -/
  step : μ → Except (Interrupted Fault μ) μ
  /-- The state as it is handed out. -/
  handOut : μ → Except Fault μ
  /-- The clock. -/
  clock : μ → Json

namespace State

/-- The state with a program loaded. Registers, memory and settings stay. -/
def load (instructions : List Instruction) (s : State) : State :=
  { s with
    instructions := (instructions.map fun code => { code }).toArray
    pc := Program.baseAddress
    cycle := 0
    completed := 0
    stalls := 0
    hazards := []
    log := []
    pipeline := {} }

/-- The state tells whether the machine runs by itself or pauses. -/
def mark (running paused : Bool) (s : State) : State :=
  { s with running, paused }

/-- The state with the settings of a user. -/
def applySettings (s : State) (settings : Settings) : State :=
  { s with forwarding := settings.forwarding, prediction := settings.prediction }

theorem load_storage (instructions : List Instruction) (s : State) : (s.load instructions).storage = s.storage := rfl

theorem applySettings_idempotent (s : State) (settings : Settings) :
    (s.applySettings settings).applySettings settings = s.applySettings settings := rfl

end State

/-- Plain states. -/
instance : Machine State where
  fresh storage := { storage }
  load := State.load
  mark := State.mark
  isComplete s := .ok s.isComplete
  step s := s.step.mapError fun e => ⟨.register e.fault, e.state⟩
  handOut s := .ok s
  clock s := .int s.cycle

namespace State

theorem step_error_iff (s : State) (e : Interrupted Fault State) :
    Machine.step s = .error e ↔ ∃ cause t, s.step = .error ⟨cause, t⟩ ∧ e = ⟨.register cause, t⟩ := by
  show s.step.mapError _ = _ ↔ _
  cases h : s.step with
  | ok t =>
    show Except.ok t = .error e ↔ _
    simp
  | error i =>
    show Except.error _ = Except.error e ↔ _
    simp only [Except.error.injEq]
    constructor
    · rintro rfl
      exact ⟨i.fault, i.state, rfl, rfl⟩
    · rintro ⟨cause, t, rfl, rfl⟩
      rfl

end State

end FiveStage
