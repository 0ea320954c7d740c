import FiveStage.Text.Quoted

/-!
# Files

What a call finds in its surroundings: the bytes of files, and whether a file can be written. A path that cannot be
opened has a reason, and a path that holds a NUL is not even tried.

Main statements:
* `ofNumber?_number`: a reason is found by its number;
* `bytes_of_read`: a file that can be read is read under every path without a NUL.
-/

namespace FiveStage

/-- Why a file is not opened, or takes nothing. -/
inductive FileFault
  | missing
  | noDevice
  | forbidden
  | notDirectory
  | directory
  | noSpace
  | nameTooLong
  deriving DecidableEq, Repr

namespace FileFault

/-- The number of the reason. -/
def number : FileFault → Nat
  | missing => 2
  | noDevice => 6
  | forbidden => 13
  | notDirectory => 20
  | directory => 21
  | noSpace => 28
  | nameTooLong => 36

/-- The reason in words. -/
def text : FileFault → String
  | missing => "No such file or directory"
  | noDevice => "No such device or address"
  | forbidden => "Permission denied"
  | notDirectory => "Not a directory"
  | directory => "Is a directory"
  | noSpace => "No space left on device"
  | nameTooLong => "File name too long"

/-- All reasons. -/
def all : List FileFault :=
  [missing, noDevice, forbidden, notDirectory, directory, noSpace, nameTooLong]

/-- The reason with a number. -/
def ofNumber? (n : Nat) : Option FileFault :=
  all.find? (·.number = n)

theorem ofNumber?_number (fault : FileFault) : ofNumber? fault.number = some fault := by
  cases fault <;> rfl

/-- What is said of a path that is not opened. That there is no space left is noticed later, when the path does not
matter any more. -/
def message (fault : FileFault) (path : String) : String :=
  "[Errno " ++ toString fault.number ++ "] " ++ fault.text ++
    if fault = noSpace then "" else ": " ++ Text.quote path

end FileFault

/-- Why nothing is done under a path: it holds a NUL, or the file is not opened. -/
inductive PathFault
  | nul
  | closed (cause : FileFault) (path : String)
  deriving DecidableEq, Repr

/-- The reason in words. -/
def PathFault.message : PathFault → String
  | nul => "embedded null byte"
  | closed cause path => cause.message path

/-- Surroundings: the bytes under a path, and why a path cannot be written, if it cannot. -/
structure Files where
  read : String → Except FileFault (List Nat)
  refusal? : String → Option FileFault

namespace Files

/-- The path holds a NUL. -/
def holdsNul (path : String) : Bool :=
  path.toList.contains '\x00'

/-- The bytes under a path. -/
def bytes (files : Files) (path : String) : Except PathFault (List Nat) :=
  if holdsNul path then .error .nul
  else
    match files.read path with
    | .ok bytes => .ok bytes
    | .error cause => .error (.closed cause path)

/-- Why nothing can be written under a path, if nothing can. -/
def obstacle? (files : Files) (path : String) : Option PathFault :=
  if holdsNul path then some .nul else (files.refusal? path).map fun cause => .closed cause path

theorem bytes_of_read {files : Files} {path : String} {bytes : List Nat} (hn : holdsNul path = false)
    (h : files.read path = .ok bytes) : files.bytes path = .ok bytes := by
  simp [Files.bytes, hn, h]

end Files

end FiveStage
