import FiveStage.CommandLine.Usage
import FiveStage.Text.Utf8
import FiveStage.Window

/-!
# The command line

A call of the program: it runs a program file or a sample to its end and prints what came of it, or it opens the window.
All that a call says and writes is collected, up to the point where something fails.

Main statements:
* `run_nil`: a call without a word explains itself and fails;
* `log_append`: the log of two runs of lines is the one log after the other.
-/

namespace FiveStage

open Text

namespace CommandLine

/-- A seed or level that is needed and was left blank. -/
inductive Blank
  | seed
  | logLevel
  deriving DecidableEq, Repr

/-- What is said of it. -/
def Blank.message : Blank → String
  | seed => "The only supported seed types are: None,\nint, float, str, bytes, and bytearray."
  | logLevel => "Level not an integer or a valid string: []"

/-- Why a call breaks down. -/
inductive Failure
  | undecodable (cause : Utf8.Error)
  | blank (cause : Blank)
  | fault (cause : Fault)
  deriving DecidableEq, Repr

/-- The failure in words. -/
def Failure.message : Failure → String
  | undecodable cause => cause.message
  | blank cause => cause.message
  | fault cause => cause.message

/-- What a call has printed, complained of and written to files so far. -/
structure Transcript where
  output : String := ""
  errors : String := ""
  written : List (String × String) := []
  deriving DecidableEq, Repr

/-- What has become of a call that is still going on. -/
abbrev Progress := Except (Interrupted Failure Transcript) Transcript

/-- How a call ends: with a code, or by breaking down. -/
inductive Ending
  | exit (code : Nat)
  | failure (cause : Failure)
  deriving DecidableEq, Repr

/-- What has become of a call. -/
structure Outcome extends Transcript where
  ending : Ending
  deriving DecidableEq, Repr

/-- The outcome of a call that ends with a code unless it breaks down. -/
def Outcome.ofProgress (code : Nat) : Progress → Outcome
  | .ok t => { t with ending := .exit code }
  | .error ⟨cause, t⟩ => { t with ending := .failure cause }

/-- What surrounds a call: the files, a number that stands for chance, and the time. -/
structure Surroundings where
  files : Files
  chance : Nat
  timestamp : String

end CommandLine

open CommandLine

namespace Options

/-- The settings that are asked for. -/
def settings (o : Options) : Settings :=
  { forwarding := o.forwarding, prediction := o.prediction }

/-- Where the storage comes from: from the seed, or from chance. -/
def source (o : Options) (chance : Nat) : Except Failure Storage.Source :=
  match o.seed with
  | some (.value seed) => .ok (.seeded seed)
  | some .blank => .error (.blank .seed)
  | none => .ok (.chance chance)

/-- The level from which lines of the log are printed. -/
def threshold (o : Options) : LogLevel :=
  match o.logLevel with
  | .value level => level
  | .blank => .warning

end Options

namespace CommandLine

/-! ## The log -/

/-- The lines of the log that are printed. -/
def log (threshold : LogLevel) (lines : List LogLine) : String :=
  String.join ((lines.filter fun l => threshold.shows l.level).map fun l => l.render ++ "\n")

theorem log_append (threshold : LogLevel) (a b : List LogLine) :
    log threshold (a ++ b) = log threshold a ++ log threshold b := by
  simp [log]

/-- The line that reports a cycle. -/
def cycleLine (entry : LogEntry) : LogLine :=
  ⟨.debug, "simulator",
    "[Cycle " ++ String.ofList (padStart 2 (Decimal.text entry.cycle)) ++ "] " ++
      " | ".intercalate (entry.stages.toList.map (·.getD "--")) ++ if entry.stalled then " (stall)" else ""⟩

/-- All that an engine has to report since its program was loaded, cycle by cycle. -/
def engineLines (e : Engine State) : List LogLine :=
  e.journal ++ e.state.log.map cycleLine

/-- The line that reports that the cycles did not suffice. -/
def unfinishedLine (s : State) : LogLine :=
  ⟨.warning, "main",
    "Stopped after " ++ String.ofList (Decimal.text s.cycle) ++ " cycles before the program finished"⟩

/-- What is reported at the end of a run. -/
def endLines (s : State) : List LogLine :=
  if s.isComplete then [] else [unfinishedLine s]

/-! ## A run and its results -/

namespace Transcript

/-- With more output. -/
def print (t : Transcript) (text : String) : Transcript :=
  { t with output := t.output ++ text }

/-- Prints a text under a heading. The heading is printed even if there is no text. -/
def printSection (heading : String) (text : Except Fault String) (t : Transcript) : Progress :=
  let t := t.print ("\n=== " ++ heading ++ " ===\n")
  match text with
  | .ok text => .ok (t.print (text ++ "\n"))
  | .error cause => .error ⟨.fault cause, t⟩

/-- Prints the table, the statistics and the registers of a state. -/
def printState (s : State) (t : Transcript) : Progress := do
  let t ← t.printSection "Pipeline Diagram" ((Report.timingTable .ample s Report.defaultWidth).mapError .report)
  let t ← t.printSection "Stats" ((Report.statistics s).mapError .misuse)
  t.printSection "Registers" ((Report.registers s true).mapError .misuse)

/-- Writes a text to a file. -/
def write (files : Files) (path text : String) (t : Transcript) : Progress :=
  match files.obstacle? path with
  | some cause => .error ⟨.fault (.path cause), t⟩
  | none => .ok { t with written := t.written ++ [(path, text)] }

/-- Exports the report of a state if a path for it is given. -/
def exportReport (o : Options) (around : Surroundings) (s : State) (t : Transcript) : Progress :=
  match o.exportPath.filter (· ≠ "") with
  | none => .ok t
  | some path =>
    match Report.exportText around.timestamp s o.settings with
    | .error cause => .error ⟨.fault (.misuse cause), t⟩
    | .ok text => (t.write around.files path text).map (·.print (log o.threshold [Report.exportLine path]))

/-- Draws the charts of a state if a path for them is given. -/
def drawCharts (o : Options) (s : State) (t : Transcript) : Progress :=
  match o.chartsPath.filter (· ≠ "") with
  | none => .ok t
  | some path =>
    match Chart.savedFigure path s.account with
    | .error cause => .error ⟨.fault (.misuse cause), t⟩
    | .ok _ => .ok t

end Transcript

/-- The engine with a program, before its first cycle. -/
def loaded (o : Options) (source : Storage.Source) (text : String) : Engine State :=
  let engine : Engine State := Engine.create source
  { engine with state := engine.state.applySettings o.settings }.load text

/-- A clock has no order with a blank limit. -/
def blankLimit : Misuse := .compared "<" "int" "list"

/-- Runs the program of an engine, as long as the options allow. A blank limit stops what is not complete. -/
def runLoaded (o : Options) (e : Engine State) : Except (Interrupted Failure (Engine State)) (Engine State) :=
  match o.maxCycles with
  | .value limit => (e.run limit).mapError fun i => ⟨.fault i.fault, i.state⟩
  | .blank => if e.state.isComplete then .ok e else .error ⟨.fault (.misuse blankLimit), e⟩

/-- Runs a program and tells what came of it. -/
def simulate (o : Options) (around : Surroundings) (text : String) : Progress :=
  match o.source around.chance with
  | .error cause => .error ⟨cause, {}⟩
  | .ok source =>
    match runLoaded o (loaded o source text) with
    | .error ⟨cause, engine⟩ => .error ⟨cause, { output := log o.threshold (engineLines engine) }⟩
    | .ok engine => do
      let s := engine.state
      let t ← ({ output := log o.threshold (engineLines engine ++ endLines s) } : Transcript).printState s
      let t ← t.exportReport o around s
      t.drawCharts o s

/-! ## Calls -/

/-- Runs the program of a file. -/
def simulateFile (o : Options) (around : Surroundings) (path : String) : Outcome :=
  match around.files.bytes path with
  | .error .nul => { ending := .failure (.fault (.path .nul)) }
  | .error cause => { ending := .exit 1, errors := "Cannot read " ++ path ++ ": " ++ cause.message ++ "\n" }
  | .ok bytes =>
    match Utf8.decode bytes with
    | .error cause => { ending := .failure (.undecodable cause) }
    | .ok text => .ofProgress 0 (simulate o around (String.ofList (unifyBreaks text)))

/-- Opens the window. -/
def openWindow (o : Options) (around : Surroundings) : Outcome :=
  match o.source around.chance with
  | .error cause => { ending := .failure cause }
  | .ok source =>
    match Window.create source o.settings with
    | .ok w => { ending := .exit 0, output := log o.threshold w.run.engine.journal }
    | .error ⟨cause, w⟩ => { ending := .failure (.fault cause), output := log o.threshold w.run.engine.journal }

/-- Does what is asked for: the window comes before a sample, and a sample before a file. -/
def follow (o : Options) (around : Surroundings) : Outcome :=
  if o.logLevel = .blank then { ending := .failure (.blank .logLevel) }
  else if o.window then openWindow o around
  else
    match o.sample, o.program.filter (· ≠ "") with
    | some name, _ => .ofProgress 0 (simulate o around ((Samples.text? name).getD ""))
    | none, some path => simulateFile o around path
    | none, none => { ending := .exit 1, errors := nothingToRun }

/-- A call with the words of a command line. -/
def run (around : Surroundings) (words : List String) : Outcome :=
  match Options.read words with
  | .ok o => follow o around
  | .error .help => { ending := .exit 0, output := help }
  | .error (.misuse error) => { ending := .exit 2, errors := misuse error }

theorem run_nil (around : Surroundings) :
    run around [] = { ending := .exit 1, errors := nothingToRun } := by
  simp [run, Options.read_nil, follow]

end CommandLine

end FiveStage
