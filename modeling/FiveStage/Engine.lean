import FiveStage.Log
import FiveStage.Machine
import FiveStage.State.Initial

/-!
# The engine

A machine that programs are loaded into: its state, where its storage comes from, and what it has reported.

Main statements:
* `load_state`: loading a text loads the instructions of its listing;
* `step_state`: a cycle of the engine is a cycle of its state.
-/

namespace FiveStage

/-- A machine, where its storage comes from, and its reports, the oldest first. -/
structure Engine (μ : Type) where
  source : Storage.Source
  state : μ
  journal : List LogLine := []

namespace Engine

variable {μ : Type} [Machine μ]

/-- A new machine. -/
def create (source : Storage.Source) : Engine μ :=
  { source, state := Machine.fresh source.storage }

/-- The engine with a further report. -/
def report (e : Engine μ) (line : LogLine) : Engine μ :=
  { e with journal := e.journal ++ [line] }

/-- The report of a source line that was left out. -/
def warningLine (w : Program.Warning) : LogLine :=
  ⟨.warning, "instruction_parser", w.message⟩

/-- The report of a program that has been loaded. -/
def loadedLine (count : Nat) : LogLine :=
  ⟨.info, "simulator", "Loaded " ++ toString count ++ " instructions"⟩

/-- The engine with the program of a text loaded. -/
def load (e : Engine μ) (text : String) : Engine μ :=
  let listing := Program.parse text
  { e with
    state := Machine.load listing.instructions e.state
    journal := e.journal ++ listing.warnings.map warningLine ++ [loadedLine listing.instructions.length] }

/-- Why a value that is no text is no program. -/
def notText (v : Json) : String :=
  "program text must be str, not " ++ v.kindName

/-- Loads the program of a value if the value is a text, and tells whether it was. -/
def loadValue (e : Engine μ) : Json → Bool × Engine μ
  | .string text => (true, e.load text)
  | v => (false, e.report ⟨.error, "simulator", "Failed to load program: " ++ notText v⟩)

/-- The engine as new. -/
def reset (e : Engine μ) : Engine μ :=
  let source := e.source.next
  { e with source, state := Machine.fresh source.storage }

/-- The state tells whether the engine runs by itself or pauses. -/
def mark (e : Engine μ) (running paused : Bool) : Engine μ :=
  { e with state := Machine.mark running paused e.state }

/-- The engine after its state has changed, which can be interrupted. -/
def updateState {φ : Type} (e : Engine μ) (wrap : φ → Fault) :
    Except (Interrupted φ μ) μ → Except (Interrupted Fault (Engine μ)) (Engine μ)
  | .ok state => .ok { e with state }
  | .error ⟨fault, state⟩ => .error ⟨wrap fault, { e with state }⟩

/-- The engine as it is, if its state can be handed out. -/
def handOut (e : Engine μ) : Except (Interrupted Fault (Engine μ)) (Engine μ) :=
  match Machine.handOut e.state with
  | .ok _ => .ok e
  | .error fault => .error ⟨fault, e⟩

/-- One cycle, and its state handed out. -/
def step (e : Engine μ) : Except (Interrupted Fault (Engine μ)) (Engine μ) := do
  (← e.updateState id (Machine.step e.state)).handOut

/-- The clock at which a run stops if no other limit is given. -/
def defaultLimit : Int := 10000

/-- Cycles until the program is complete or the clock reaches a limit. -/
def run (e : Engine State) (limit : Int) : Except (Interrupted Fault (Engine State)) (Engine State) :=
  e.updateState .register (e.state.run limit)

theorem load_state (e : Engine μ) (text : String) :
    (e.load text).state = Machine.load (Program.parse text).instructions e.state := rfl

theorem step_state {e : Engine State} {t : State} (h : e.state.step = .ok t) : e.step = .ok { e with state := t } := by
  have hm : Machine.step e.state = .ok t := by
    show e.state.step.mapError _ = _
    rw [h]
    rfl
  rw [step, hm]
  rfl

end Engine

end FiveStage
