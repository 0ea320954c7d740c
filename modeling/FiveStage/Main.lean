import Std.Time.Format
import FiveStage.CommandLine

/-!
# The program

Reads what a call needs from its surroundings, makes the call, and does with files and streams what has come of it.
-/

namespace FiveStage.CommandLine

/-- Why a file was not opened. -/
def faultOf : IO.Error → FileFault
  | .noFileOrDirectory .. => .missing
  | .inappropriateType _ number _ => (FileFault.ofNumber? number.toNat).getD .notDirectory
  | .invalidArgument _ number _ => (FileFault.ofNumber? number.toNat).getD .nameTooLong
  | .noSuchThing .. => .noDevice
  | .resourceExhausted .. => .noSpace
  | _ => .forbidden

/-- The bytes of a file. -/
def readBytes (path : String) : IO (Except FileFault (List Nat)) := do
  try
    let bytes ← IO.FS.readBinFile path
    return .ok (bytes.toList.map UInt8.toNat)
  catch e => return .error (faultOf e)

/-- Writes texts to files until one cannot be written. -/
def writeTexts : List (String × String) → IO (Option FileFault)
  | [] => return none
  | (path, text) :: rest => do
    try
      IO.FS.writeFile path text
      writeTexts rest
    catch e => return some (faultOf e)

/-- The time of the call in coordinated universal time. -/
def now : IO String := do
  let time := Std.Time.DateTime.ofTimestamp (← Std.Time.Timestamp.now) Std.Time.TimeZone.ZoneRules.UTC
  return time.format "uuuu-MM-dd'T'HH:mm:ss.SSSSSSxxx"

/-- The surroundings of a call. All that can be read is the program file. -/
def surroundings (words : List String) : IO Surroundings := do
  let bytes ← match Options.read words with
    | .ok { program := some path, .. } => readBytes path
    | _ => pure (.error .missing)
  return { files := ⟨fun _ => bytes, fun _ => none⟩, chance := ← IO.rand 0 (Nat.pow 2 64), timestamp := ← now }

/-- Prints what has come of a call, and gives its code. -/
def finish (outcome : Outcome) : IO UInt32 := do
  IO.print outcome.output
  IO.eprint outcome.errors
  match outcome.ending with
  | .exit code => return UInt32.ofNat code
  | .failure cause =>
    IO.eprintln cause.message
    return 1

/-- Makes a call. If a file cannot be written, the call is one that could not write. -/
def call (words : List String) : IO UInt32 := do
  let around ← surroundings words
  let outcome := run around words
  match ← writeTexts outcome.written with
  | none => finish outcome
  | some fault =>
    finish (run { around with files := { around.files with refusal? := fun _ => some fault } } words)

end FiveStage.CommandLine

def main (words : List String) : IO UInt32 :=
  FiveStage.CommandLine.call words
