import FiveStage.Engine
import FiveStage.Loose.Edit
import FiveStage.Loose.View

/-!
# Plain and loose states

A state is plain as long as it holds what a state of the machine holds, and loose from the moment when somebody puts
something else into it. A loose state that has become plain again is taken as a plain one.

Main statements:
* `ofLoose_loosen`: to look at a plain state as a loose one does not change it;
* `step_plain`: a cycle of a plain state is a cycle of the machine;
* `account_loosen`: about a plain state that is taken as a loose one the same is told.
-/

namespace FiveStage

/-- A plain or a loose state. -/
inductive AnyState
  | plain (s : State)
  | loose (s : Loose.State)

namespace AnyState

/-! ## Between plain and loose -/

/-- The state as a loose one. -/
def loosen : AnyState → Loose.State
  | plain s => .ofState s
  | loose s => s

/-- A loose state, taken as a plain one if it is one. -/
def ofLoose (s : Loose.State) : AnyState :=
  match s.strict? with
  | some t => plain t
  | none => loose s

/-- What becomes of the state if work is done on it as on a loose one. -/
def doWork (s : AnyState) (work : Loose.Work Unit) : Except (Interrupted Fault AnyState) AnyState :=
  match work.run s.loosen with
  | .ok _ t => .ok (ofLoose t)
  | .error fault t => .error ⟨fault, ofLoose t⟩

/-- The state with a change that is made of it as of a loose one. -/
def edit (s : AnyState) (change : Loose.State → Loose.State) : AnyState :=
  ofLoose (change s.loosen)

theorem ofLoose_loosen (s : State) : ofLoose (plain s).loosen = plain s := by
  simp only [loosen, ofLoose, Loose.State.strict?_ofState]

/-! ## What is done to a state -/

/-- One cycle. -/
def step : AnyState → Except (Interrupted Fault AnyState) AnyState
  | plain s =>
    match Machine.step s with
    | .ok t => .ok (plain t)
    | .error ⟨fault, t⟩ => .error ⟨fault, plain t⟩
  | loose s => (loose s).doWork Loose.cycle

/-- Cycles until the program is complete or the clock is not below a limit. -/
def run (s : AnyState) (limit : Json) : Except (Interrupted Fault AnyState) AnyState :=
  match s, limit with
  | plain s, .int limit =>
    match s.run limit with
    | .ok t => .ok (plain t)
    | .error ⟨cause, t⟩ => .error ⟨.register cause, plain t⟩
  | s, limit => s.doWork (Loose.run limit)

/-- Gives documents to the parts with some names. -/
def assignAll (s : AnyState) (fields : List (String × Json)) : Except (Interrupted Fault AnyState) AnyState :=
  match s.loosen.assignAll fields with
  | .ok t => .ok (ofLoose t)
  | .error ⟨refusal, t⟩ => .error ⟨.refused refusal, ofLoose t⟩

/-- The state with the settings of a user. -/
def applySettings (s : AnyState) (settings : Loose.Settings) : AnyState :=
  s.edit (·.applySettings settings)

/-- Either kind of state. -/
instance : Machine AnyState where
  fresh storage := plain (Machine.fresh storage)
  load instructions
    | plain s => plain (s.load instructions)
    | loose s => (loose s).edit (·.load instructions)
  mark running paused
    | plain s => plain (s.mark running paused)
    | loose s => (loose s).edit (·.mark running paused)
  isComplete
    | plain s => Machine.isComplete s
    | loose s => s.isComplete.mapError .misuse
  step := step
  handOut
    | plain s => .ok (plain s)
    | loose s => (s.copy.map loose).mapError .misuse
  clock s := s.loosen.cycle

theorem step_plain {s t : State} (h : s.step = .ok t) : (plain s).step = .ok (plain t) := by
  have hm : Machine.step s = .ok t := by
    show s.step.mapError _ = _
    rw [h]
    rfl
  rw [step, hm]

/-! ## What is told about a state -/

/-- What is told about the state. -/
def account : AnyState → Account
  | plain s => s.account
  | loose s => s.account

/-- The timing table with columns of a width. -/
def timingTable (memory : Report.Memory) (s : AnyState) (width : Int) : Except ReportFault String :=
  match s with
  | plain s => Report.timingTable memory s width
  | loose s => Loose.timingTable memory s width

/-- The statistics. -/
def statistics : AnyState → Except Misuse String
  | plain s => Report.statistics s
  | loose s => Loose.statistics s

/-- The registers, those that hold nothing only if asked for. -/
def registers (s : AnyState) (onlyNonzero : Bool) : Except Misuse String :=
  match s with
  | plain s => Report.registers s onlyNonzero
  | loose s => Loose.registers s onlyNonzero

theorem account_loosen (s : State) : (loose (plain s).loosen).account = (plain s).account :=
  Loose.State.account_ofState s

theorem timingTable_loosen (memory : Report.Memory) (s : State) (width : Int) :
    (loose (plain s).loosen).timingTable memory width = (plain s).timingTable memory width :=
  Loose.timingTable_ofState memory s width

theorem statistics_loosen (s : State) : (loose (plain s).loosen).statistics = (plain s).statistics :=
  Loose.statistics_ofState s

theorem registers_loosen (s : State) (onlyNonzero : Bool) :
    (loose (plain s).loosen).registers onlyNonzero = (plain s).registers onlyNonzero :=
  Loose.registers_ofState s onlyNonzero

end AnyState

end FiveStage
