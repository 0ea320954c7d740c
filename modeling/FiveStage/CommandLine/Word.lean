import FiveStage.Text.Digit
import FiveStage.Text.Field

/-!
# The words of a command line

Each word of a command line is an option, the separator `--` or plain text. An option may be shortened as long as only
one option begins so, and its value may be attached to it behind an equals sign. Behind the option of one letter any
text may be attached. Behind the separator all is plain.

Main statements:
* `named?_eq_some_of_mem`: an option is found by each of its spellings;
* `readWords_separator`: behind the separator no word is an option.
-/

namespace FiveStage.CommandLine

open Text

/-- The options. -/
inductive OptionName
  | help
  | sample
  | noForwarding
  | branchPrediction
  | seed
  | maxCycles
  | exportPath
  | chartsPath
  | window
  | logLevel
  deriving DecidableEq, Repr

namespace OptionName

/-- The spellings of the options, in the order in which they are listed. -/
def spellings : List (String × OptionName) := [
  ("-h", help), ("--help", help), ("--sample", sample), ("--no-forwarding", noForwarding),
  ("--branch-prediction", branchPrediction), ("--seed", seed), ("--max-cycles", maxCycles), ("--export", exportPath),
  ("--charts", chartsPath), ("--gui", window), ("--log-level", logLevel)]

/-- The option with a spelling. -/
def named? (text : String) : Option OptionName :=
  spellings.lookup text

theorem named?_eq_some_of_mem : ∀ p ∈ spellings, named? p.1 = some p.2 := by
  decide

/-- The option as messages name it: all its spellings. -/
def label (name : OptionName) : String :=
  "/".intercalate ((spellings.filter (·.2 = name)).map (·.1))

/-- The option of one letter. -/
def letter : String := "-h"

/-- The option has a value. -/
def takesValue : OptionName → Bool
  | help | noForwarding | branchPrediction | window => false
  | sample | seed | maxCycles | exportPath | chartsPath | logLevel => true

end OptionName

/-- What is attached to an option in the same word: nothing, a text behind an equals sign, or, behind a single letter,
a text of any kind. -/
inductive Attached
  | nothing
  | assigned (text : String)
  | joined (text : String)
  deriving DecidableEq, Repr

/-- A word. A word that looks like an option and is none is unknown. -/
inductive Word
  | plain (text : String)
  | separator
  | option (name : OptionName) (attached : Attached)
  | unknown (text : String)
  deriving DecidableEq, Repr

/-- The word behind which no word is an option. -/
def separator : String := "--"

/-- A word that several options begin with. -/
structure Ambiguous where
  word : String
  candidates : List String
  deriving DecidableEq, Repr

/-- What stands before the first equals sign, and what is attached behind it. -/
def splitAssigned (word : List Char) : List Char × Attached :=
  match word.dropWhile (· ≠ '=') with
  | [] => (word, .nothing)
  | _ :: rest => (word.takeWhile (· ≠ '='), .assigned (String.ofList rest))

/-- The text is one or more digits. -/
def isDigits (cs : List Char) : Bool :=
  !cs.isEmpty && cs.all isDecimalDigit

/-- The text is a minus and a decimal number; a line feed at its very end does not count. -/
def isNegativeNumber : List Char → Bool
  | '-' :: rest =>
    let body := if rest.getLast? = some '\n' then rest.dropLast else rest
    match splitAtLast? '.' body with
    | some (whole, places) => whole.all isDecimalDigit && isDigits places
    | none => isDigits body
  | _ => false

/-- The options that a text begins. -/
def completions (text : List Char) : List (String × OptionName) :=
  OptionName.spellings.filter fun (spelling, _) => text.isPrefixOf spelling.toList

/-- A word that begins like an option and is no option: a negative number and a text with a space are plain. -/
def strange (word : String) : Word :=
  if isNegativeNumber word.toList || word.toList.contains ' ' then .plain word else .unknown word

/-- An option with a text behind an equals sign. -/
def assigned (spelling : String) (name : OptionName) (text : String) : Word :=
  .option name (if spelling = OptionName.letter then .joined text else .assigned text)

/-- What a word with a hyphen in front is, unless it is an option as it stands. -/
def readDashed (word : String) : Except Ambiguous Word :=
  let (front, attached) := splitAssigned word.toList
  match attached, OptionName.named? (String.ofList front) with
  | .assigned text, some name => .ok (assigned (String.ofList front) name text)
  | _, _ =>
    match word.toList with
    | '-' :: '-' :: _ =>
      match completions front with
      | [] => .ok (strange word)
      | [(_, name)] => .ok (.option name attached)
      | several => .error ⟨word, several.map (·.1)⟩
    | '-' :: 'h' :: rest => .ok (.option .help (.joined (String.ofList rest)))
    | _ => .ok (strange word)

/-- What a word in front of the separator is. -/
def readWord (word : String) : Except Ambiguous Word :=
  match word.toList with
  | '-' :: _ :: _ =>
    match OptionName.named? word with
    | some name => .ok (.option name .nothing)
    | none => readDashed word
  | _ => .ok (.plain word)

/-- What the words of a command line are. -/
def readWords : List String → Except Ambiguous (List Word)
  | [] => .ok []
  | word :: rest =>
    if word = separator then .ok (.separator :: rest.map .plain)
    else
      match readWord word, readWords rest with
      | .ok w, .ok ws => .ok (w :: ws)
      | .error e, _ => .error e
      | _, .error e => .error e

theorem readWords_separator (rest : List String) :
    readWords ("--" :: rest) = .ok (.separator :: rest.map .plain) := rfl

end FiveStage.CommandLine
