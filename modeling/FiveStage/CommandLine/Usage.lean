import FiveStage.CommandLine.Options

/-!
# Usage

How the program is called, in short and with an explanation of each option.
-/

namespace FiveStage.CommandLine

/-- The name of the program in messages. -/
def programName : String := "main.py"

/-- A choice between texts. -/
def choice (texts : List String) : String :=
  "\x7b" ++ ",".intercalate texts ++ "\x7d"

/-- The option for a sample. -/
def sampleForm : String :=
  "--sample " ++ choice sampleChoices

/-- The option for the level of the log. -/
def levelForm : String :=
  "--log-level " ++ choice levelChoices

/-- What can stand on a command line, in lines. -/
def forms : List String := [
  "[-h]",
  "[" ++ sampleForm ++ "]",
  "[--no-forwarding] [--branch-prediction] [--seed SEED]",
  "[--max-cycles MAX_CYCLES] [--export PATH] [--charts PATH]",
  "[--gui] [" ++ levelForm ++ "]",
  "[program]"]

/-- How the program is called. -/
def usage : String :=
  let start := "usage: " ++ programName ++ " "
  let indent := String.ofList (List.replicate start.length ' ')
  start ++ ("\n" ++ indent).intercalate forms ++ "\n"

/-- An option with its explanation, which begins in a column of its own, on a line of its own if it has to. -/
def explain (form text : String) : String :=
  let column := 24
  let start := "  " ++ form
  if text = "" then start ++ "\n"
  else if start.length + 2 ≤ column then
    start ++ String.ofList (List.replicate (column - start.length) ' ') ++ text ++ "\n"
  else start ++ "\n" ++ String.ofList (List.replicate column ' ') ++ text ++ "\n"

/-- How the program is called, with explanations. -/
def help : String :=
  usage ++ "\n5-stage pipeline hazard simulator\n\npositional arguments:\n" ++
    explain "program" "assembly source file" ++
    "\noptions:\n" ++
    explain "-h, --help" "show this help message and exit" ++
    explain sampleForm "run a built-in sample program" ++
    explain "--no-forwarding" "disable operand forwarding" ++
    explain "--branch-prediction" "mark control hazards as resolved" ++
    explain "--seed SEED" "seed for initial register and memory contents" ++
    explain "--max-cycles MAX_CYCLES" "" ++
    explain "--export PATH" "write a JSON report" ++
    explain "--charts PATH" "save charts to an image file" ++
    explain "--gui" "open the desktop front end" ++
    explain levelForm ""

/-- What is said of a misused command line. -/
def misuse (error : UsageError) : String :=
  usage ++ programName ++ ": error: " ++ error.message ++ "\n"

/-- What is said if nothing is asked for. -/
def nothingToRun : String :=
  "Usage: python " ++ programName ++ " <asm> | --sample NAME | --gui\n"

end FiveStage.CommandLine
