import FiveStage.CommandLine.Word
import FiveStage.Log
import FiveStage.Numeral
import FiveStage.Samples
import FiveStage.Text.Quoted
import FiveStage.Text.Upper

/-!
# Options

What a command line asks for. Options are heeded in the order in which they are written, later ones over earlier ones,
until one asks for help or is misused; one plain word names the program. An option whose attached value is the separator
is left blank: no path or sample is given then, and a blank number or level is found out only when it is needed.

Main statements:
* `read_nil`: without a word, nothing is asked for;
* `read_separator`: the first word behind a separator names the program, whatever it looks like;
* `readLetters_replicate`: letters that ask for help ask for help once more.
-/

namespace FiveStage

/-- What is given for an option with a value: a value, or nothing. -/
inductive Given (α : Type)
  | value (value : α)
  | blank
  deriving DecidableEq, Repr

/-- What a command line asks for. -/
structure Options where
  program : Option String := none
  sample : Option String := none
  forwarding : Bool := true
  prediction : Bool := false
  seed : Option (Given Int) := none
  maxCycles : Given Int := .value 10000
  exportPath : Option String := none
  chartsPath : Option String := none
  window : Bool := false
  logLevel : Given LogLevel := .value .warning
  deriving DecidableEq, Repr

namespace CommandLine

/-- How a command line is misused. -/
inductive UsageError
  | ambiguous (cause : Ambiguous)
  | missingValue (name : OptionName)
  | unusedValue (name : OptionName) (text : String)
  | notInteger (name : OptionName) (text : String)
  | notChoice (name : OptionName) (text : String) (choices : List String)
  | unrecognized (words : List String)
  deriving DecidableEq, Repr

/-- What is said of an option. -/
def aboutOption (name : OptionName) (text : String) : String :=
  "argument " ++ name.label ++ ": " ++ text

/-- The misuse in words. -/
def UsageError.message : UsageError → String
  | ambiguous cause => "ambiguous option: " ++ cause.word ++ " could match " ++ ", ".intercalate cause.candidates
  | missingValue name => aboutOption name "expected one argument"
  | unusedValue name text => aboutOption name ("ignored explicit argument " ++ Text.quote text)
  | notInteger name text => aboutOption name ("invalid int value: " ++ Text.quote text)
  | notChoice name text choices =>
    aboutOption name ("invalid choice: " ++ Text.quote text ++ " (choose from " ++
      ", ".intercalate (choices.map Text.quote) ++ ")")
  | unrecognized words => "unrecognized arguments: " ++ " ".intercalate words

/-- Why a command line asks for nothing else: it asks for help, or it is misused. -/
inductive Stop
  | help
  | misuse (error : UsageError)
  deriving DecidableEq, Repr

/-- The samples that can be asked for, sorted by name. -/
def sampleChoices : List String :=
  Samples.names.mergeSort fun a b => decide (a ≤ b)

/-- The levels that can be asked for. -/
def levelChoices : List String :=
  LogLevel.all.map (·.name)

/-! ## Values -/

/-- The integer that an option has as its value. -/
def readInteger (name : OptionName) (text : String) : Except Stop Int :=
  match Numeral.read text.toList with
  | .ok n => .ok n
  | .error _ => .error (.misuse (.notInteger name text))

/-- The level that a text names in any case. -/
def readLevel (text : String) : Except Stop LogLevel :=
  let name := String.ofList (Text.upper text.toList)
  match LogLevel.ofName? name with
  | some level => .ok level
  | none => .error (.misuse (.notChoice .logLevel name levelChoices))

/-- The sample that a text names. -/
def readSample (text : String) : Except Stop String :=
  if sampleChoices.contains text then .ok text else .error (.misuse (.notChoice .sample text sampleChoices))

end CommandLine

namespace Options

open CommandLine

/-- An option with a value is heeded. -/
def setValue (o : Options) (name : OptionName) (text : String) : Except Stop Options :=
  match name with
  | .sample => (readSample text).map fun sample => { o with sample := some sample }
  | .seed => (readInteger .seed text).map fun seed => { o with seed := some (.value seed) }
  | .maxCycles => (readInteger .maxCycles text).map fun maxCycles => { o with maxCycles := .value maxCycles }
  | .exportPath => .ok { o with exportPath := some text }
  | .chartsPath => .ok { o with chartsPath := some text }
  | .logLevel => (readLevel text).map fun logLevel => { o with logLevel := .value logLevel }
  | .help | .noForwarding | .branchPrediction | .window => .ok o

/-- An option without a value is heeded. -/
def setFlag (o : Options) (name : OptionName) : Except Stop Options :=
  match name with
  | .help => .error .help
  | .noForwarding => .ok { o with forwarding := false }
  | .branchPrediction => .ok { o with prediction := true }
  | .window => .ok { o with window := true }
  | .sample | .seed | .maxCycles | .exportPath | .chartsPath | .logLevel => .ok o

/-- An option with a value is left blank. -/
def clear (o : Options) : OptionName → Options
  | .sample => { o with sample := none }
  | .seed => { o with seed := some .blank }
  | .maxCycles => { o with maxCycles := .blank }
  | .exportPath => { o with exportPath := none }
  | .chartsPath => { o with chartsPath := none }
  | .logLevel => { o with logLevel := .blank }
  | .help | .noForwarding | .branchPrediction | .window => o

/-- What letters behind the one that asks for help ask for: each of them may ask for help once more, and anything else
is a value that is of no use. -/
def readLetters : List Char → Stop
  | ['h'] => .help
  | 'h' :: rest => readLetters rest
  | rest => .misuse (.unusedValue .help (String.ofList rest))

theorem readLetters_replicate (n : Nat) : readLetters (List.replicate (n + 1) 'h') = .help := by
  induction n with
  | zero => rfl
  | succ n ih =>
    rw [List.replicate_succ, List.replicate_succ] at *
    exact ih

/-- An option is heeded that has a value attached to it. A separator is dropped behind an equals sign as it is between
words, so that nothing is left of the value. -/
def setAssigned (o : Options) (name : OptionName) (text : String) : Except Stop Options :=
  if !name.takesValue then .error (.misuse (.unusedValue name text))
  else if text = separator then .ok (o.clear name)
  else o.setValue name text

/-- An option with what is attached to it is heeded, if it needs no further word. -/
def setAttached (o : Options) (name : OptionName) : Attached → Except Stop Options
  | .nothing => if name.takesValue then .error (.misuse (.missingValue name)) else o.setFlag name
  | .assigned text => o.setAssigned name text
  | .joined text => .error (readLetters text.toList)

/-- Heeds words one after another, and collects those that nobody asked for. The separator is one of them if the program
is already named, unless it stands right behind the name. -/
def heed (o : Options) (strays : List String) : List Word → Except Stop (Options × List String)
  | [] => .ok (o, strays)
  | .plain text :: .separator :: rest =>
    if o.program.isSome then heed o (strays ++ [text, separator]) rest
    else heed { o with program := some text } strays rest
  | .plain text :: rest =>
    if o.program.isSome then heed o (strays ++ [text]) rest else heed { o with program := some text } strays rest
  | .separator :: rest =>
    if o.program.isSome then heed o (strays ++ [separator]) rest else heed o strays rest
  | .unknown text :: rest => heed o (strays ++ [text]) rest
  | .option name .nothing :: .plain text :: rest =>
    if name.takesValue then
      match o.setValue name text with
      | .ok o => heed o strays rest
      | .error stop => .error stop
    else
      match o.setFlag name with
      | .ok o => heed o strays (.plain text :: rest)
      | .error stop => .error stop
  | .option name attached :: rest =>
    match o.setAttached name attached with
    | .ok o => heed o strays rest
    | .error stop => .error stop

/-- What a command line asks for. -/
def read (words : List String) : Except Stop Options :=
  match readWords words with
  | .error cause => .error (.misuse (.ambiguous cause))
  | .ok words =>
    match heed {} [] words with
    | .error stop => .error stop
    | .ok (o, []) => .ok o
    | .ok (_, strays) => .error (.misuse (.unrecognized strays))

theorem read_nil : read [] = .ok {} := by
  simp [read, readWords, heed]

theorem read_separator (text : String) : read ["--", text] = .ok { program := some text } := by
  simp [read, readWords, separator, heed]

end Options

end FiveStage
