import FiveStage.Autorun
import FiveStage.Samples
import FiveStage.Window.Shown

/-!
# The window

The desktop front end: an editor for the program, buttons, switches and a slider, and what is shown of the engine. A
user acts on the widgets, and alarms go off.

Main statement: `act_type`, by which typing changes nothing but the editor.
-/

namespace FiveStage

/-- What the engine under a timer changes in the window by itself. -/
structure Face where
  shown : Shown := {}
  play : String
  status : String := ""
  deriving DecidableEq, Repr

/-- A window: the engine under its timer, the settings, and what the user has put into the widgets. -/
structure Window where
  run : Autorun State Face
  settings : Settings
  editor : String
  menu : String
  forwarding : Bool
  prediction : Bool
  slider : Json
  charts : Nat := 0

namespace Window

/-- The label of the button that lets the engine run. -/
def runLabel : String := "▶ Run"

/-- The label of the same button while the engine runs. -/
def pauseLabel : String := "⏸ Pause"

/-- What is said when the program is complete. -/
def completeText : String := "Program complete"

/-- Every cycle is shown, and the end of a run is said. -/
def watcher : Watcher State Face where
  onStep s face := match Shown.ofState s with
    | .ok shown => .ok { face with shown }
    | .error e => .error (.misuse e)
  onFinish := some fun _ face => { face with play := runLabel, status := completeText }

/-- The outcome of what a user does. -/
abbrev Outcome := Except (Interrupted Fault Window) Window

/-- The state of the engine. -/
def state (w : Window) : State :=
  w.run.engine.state

/-- With another label or status. -/
def mapFace (w : Window) (f : Face → Face) : Window :=
  { w with run := { w.run with seen := f w.run.seen } }

/-- With another engine. -/
def setEngine (w : Window) (engine : Engine State) : Window :=
  { w with run := { w.run with engine } }

/-- The outcome for the window of an outcome for its timer. -/
def ofRun (w : Window) : Autorun.Outcome State Face → Outcome
  | .ok run => .ok { w with run }
  | .error ⟨fault, run⟩ => .error ⟨fault, { w with run }⟩

/-- Shows the state of the engine. -/
def refresh (w : Window) : Outcome :=
  match Shown.ofState w.state with
  | .ok shown => .ok (w.mapFace fun face => { face with shown })
  | .error e => .error ⟨.misuse e, w⟩

/-- The text of the editor as it is handed to the engine: with a line feed at its end. -/
def programText (w : Window) : String :=
  w.editor ++ "\n"

/-- What is said of a source line without an opcode. -/
def refusal (number : Nat) (line : String) : String :=
  "Line " ++ toString number ++ ": unknown opcode in '" ++ line ++ "'"

/-- What is said of a loaded program. -/
def loadedText (s : State) : String :=
  "Loaded " ++ toString s.instructions.size ++ " instructions"

/-- Ends the run and loads the program of the editor, unless one of its lines has no opcode. -/
def load (w : Window) : Outcome :=
  let w := { w with run := w.run.stop }
  match Program.check w.programText with
  | (number, line) :: _ => .ok (w.mapFace fun face => { face with status := refusal number line })
  | [] =>
    let w := w.setEngine (w.run.engine.load w.programText)
    (w.mapFace fun face => { face with status := loadedText w.state, play := runLabel }).refresh

/-- The engine gets the settings. -/
def applySettings (w : Window) : Window :=
  w.setEngine { w.run.engine with state := w.state.applySettings w.settings }

/-- The settings follow the switches, and the engine follows the settings. -/
def followSwitches (w : Window) : Window :=
  { w with settings := { w.settings with forwarding := w.forwarding, prediction := w.prediction } }.applySettings

/-- The time between two cycles follows the settings. -/
def followSpeed (w : Window) : Outcome :=
  match w.settings.interval with
  | .ok interval => .ok { w with run := w.run.setInterval (.int interval) }
  | .error e => .error ⟨.speed e, w⟩

/-- The report as it is exported, with a time stamp. -/
def exportText (w : Window) (timestamp : String) : Except Misuse String :=
  Report.exportText timestamp w.state w.settings

/-! ## Actions -/

/-- What can happen to a window. -/
inductive Action
  | load
  | toggle
  | step
  | reset
  | type (text : String)
  | choose (sample : String)
  | switchForwarding
  | switchPrediction
  | slide (value : Json)
  | fire
  | export (path : String)
  | showCharts
  deriving Repr

/-- The figures of the charts of the state. -/
def figures (s : State) : Except Misuse (List (String × Chart.Figure)) :=
  Chart.all.mapM fun (name, draw) => (Chart.figure Chart.defaultSize draw s.account).map (name, ·)

/-- The outcome for the window of figures that are shown in a window of their own, if they can be drawn. -/
def ofFigures (w : Window) : Except Misuse (List (String × Chart.Figure)) → Outcome
  | .error e => .error ⟨.misuse e, w⟩
  | .ok _ => .ok { w with charts := w.charts + 1 }

/-- What an action does to a window that is surrounded by files. -/
def act (files : Files) (w : Window) : Action → Outcome
  | .load => w.load
  | .toggle =>
    if w.run.isRunning then
      .ok ({ w with run := w.run.pause }.mapFace fun face => { face with play := runLabel })
    else .ok ({ w with run := w.run.start }.mapFace fun face => { face with play := pauseLabel })
  | .step =>
    if w.state.isComplete then .ok (w.mapFace fun face => { face with status := completeText })
    else w.ofRun (w.run.stepOnce watcher)
  | .reset =>
    let w := { w with run := w.run.stop }
    (w.setEngine w.run.engine.reset).applySettings.load
  | .type text => .ok { w with editor := text }
  | .choose sample =>
    match Samples.text? sample with
    | some text => .ok { w with menu := sample, editor := text }
    | none => .error ⟨.unknownSample sample, { w with menu := sample, editor := "" }⟩
  | .switchForwarding => .ok { w with forwarding := !w.forwarding }.followSwitches
  | .switchPrediction => .ok { w with prediction := !w.prediction }.followSwitches
  | .slide value =>
    let w := { w with slider := value }
    match value.toInt with
    | .ok speed => { w with settings := { w.settings with speed := .int speed } }.followSpeed
    | .error e => .error ⟨.speed e, w⟩
  | .fire => w.ofRun (w.run.fire watcher)
  | .export path =>
    if path = "" then .ok w
    else
      match w.exportText "", files.obstacle? path with
      | .error e, _ => .error ⟨.misuse e, w⟩
      | .ok _, some cause => .error ⟨.path cause, w⟩
      | .ok _, none =>
        .ok ((w.setEngine (w.run.engine.report (Report.exportLine path))).mapFace fun face =>
          { face with status := "Exported to " ++ path })
  | .showCharts => w.ofFigures (figures w.state)

/-- A new window on a new engine, with the first sample loaded. -/
def create (source : Storage.Source) (settings : Settings) : Outcome :=
  let run : Autorun State Face := { engine := Engine.create source, seen := { play := runLabel } }
  let w : Window :=
    { run
      settings
      editor := Samples.defaultText
      menu := Samples.defaultName
      forwarding := settings.forwarding
      prediction := settings.prediction
      slider := settings.speed }
  match w.applySettings.followSpeed with
  | .ok w => w.load
  | .error e => .error e

theorem act_type (files : Files) (w : Window) (text : String) :
    act files w (.type text) = .ok { w with editor := text } := rfl

end Window

end FiveStage
