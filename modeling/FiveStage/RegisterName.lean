import FiveStage.Numeral

/-!
# Register names

A register is named by the letter R, in either case, and its number in decimal digits of any script. As an operand is
looked up, the first such name inside it counts.

Main statements:
* `find_eq_ok_none_of_noName`: a text without a name denotes no register;
* `isName_iff`: the texts that are a register name as a whole.
-/

namespace FiveStage

/-- The number of registers. -/
abbrev registerCount : Nat := 32

namespace RegisterName

open Text

/-- The letter R in either case. -/
def isLetter (c : Char) : Bool :=
  c = 'R' || c = 'r'

/-- The digits behind the first R that digits follow. -/
def number? : List Char → Option (List Nat)
  | [] => none
  | c :: rest =>
    if isLetter c && !(leadingDigits rest).isEmpty then some (leadingDigits rest) else number? rest

/-- A number of more digits than may be read. -/
structure TooLong where
  digits : Nat
  deriving DecidableEq, Repr

/-- What is said of a number with too many digits. -/
def TooLong.message (e : TooLong) : String :=
  Numeral.tooLongMessage e.digits

/-- The index of the register with a number. -/
def ofNumber? (n : Nat) : Option (Fin registerCount) :=
  if h : n < registerCount then some ⟨n, h⟩ else none

/-- The register that a text denotes, if any. -/
def find (cs : List Char) : Except TooLong (Option (Fin registerCount)) :=
  match number? cs with
  | none => .ok none
  | some digits =>
    if Numeral.digitLimit < digits.length then .error ⟨digits.length⟩
    else .ok (ofNumber? (Numeral.valueOf 10 digits))

theorem find_eq_ok_none_of_noName {cs : List Char} (h : number? cs = none) : find cs = .ok none := by
  simp [find, h]

/-- The text is a register name as a whole; a line feed at its very end does not count. -/
def isName : List Char → Bool
  | [] => false
  | c :: rest =>
    isLetter c && !(leadingDigits rest).isEmpty &&
      (rest.dropWhile isDecimalDigit = [] || rest.dropWhile isDecimalDigit = ['\n'])

theorem isName_iff (c : Char) (rest : List Char) :
    isName (c :: rest) = true ↔
      isLetter c = true ∧ leadingDigits rest ≠ [] ∧
        (rest.dropWhile isDecimalDigit = [] ∨ rest.dropWhile isDecimalDigit = ['\n']) := by
  simp [isName, and_assoc]

end RegisterName

end FiveStage
