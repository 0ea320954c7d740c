import FiveStage.Instruction
import FiveStage.Text.Field
import FiveStage.Text.Line
import FiveStage.Text.Quoted

/-!
# Programs

From text to instructions. A program has one instruction on a line; blank lines and lines that are comments as a whole
are no source lines. A line is an opcode and operands between commas; loads and stores may write an offset and a base
register as `offset(base)`. A line that cannot be read is reported and left out.

Main statements:
* `sourceLines_append`: at a line feed, the source lines of a text are those of its two sides;
* `length_parse`: every source line yields either an instruction or a warning.
-/

namespace FiveStage.Program

open Text

/-! ## Comments and source lines -/

/-- The text in front of the first `//`. -/
def beforeSlashes : List Char → List Char
  | [] => []
  | '/' :: '/' :: _ => []
  | c :: rest => c :: beforeSlashes rest

/-- The text in front of the first `#`. -/
def beforeHash (cs : List Char) : List Char :=
  cs.takeWhile (· ≠ '#')

/-- The line without its comment and without blanks at its ends. -/
def stripComment (line : List Char) : List Char :=
  trim (beforeHash (beforeSlashes line))

/-- The line is a comment as a whole. -/
def isComment : List Char → Bool
  | '/' :: '/' :: _ => true
  | '#' :: _ => true
  | _ => false

/-- The trimmed line is neither blank nor a comment. -/
def isSource (line : List Char) : Bool :=
  !line.isEmpty && !isComment line

/-- The source lines of a text, trimmed. -/
def sourceLines (text : List Char) : List (List Char) :=
  ((lines text).map trim).filter isSource

/-! ## Operands -/

/-- A register name in upper case; any other operand stays. -/
def normalize (operand : List Char) : List Char :=
  if RegisterName.isName operand then upper operand else operand

/-- The offset and the base of an operand `offset(base)`. The base stands between the last pair of parentheses of the
first line that holds anything, and something stands in front of it. -/
def offsetAndBase? (operand : List Char) : Option (List Char × List Char) :=
  match splitAtLast? ')' (operand.takeWhile (· ≠ '\n')) with
  | none => none
  | some (body, _) =>
    match splitAtLast? '(' body.dropLast with
    | none => none
    | some (offset, base) =>
      if offset.isEmpty then none else some (offset, base ++ body.drop (body.length - 1))

/-- The operands of a load or store: an operand `offset(base)` counts as two. -/
def splitBase (operand : List Char) : List (List Char) :=
  match offsetAndBase? operand with
  | some (offset, base) => [trim offset, normalize (trim base)]
  | none => [operand]

/-- The operands that a text denotes to an opcode. -/
def parseOperands (text : List Char) (opcode : Opcode) : List (List Char) :=
  let parts := (splitOn ',' text).map fun part => normalize (trim part)
  if opcode.isMemory && text.contains '(' then parts.flatMap splitBase else parts

/-! ## Lines -/

/-- Why a line is no instruction. -/
inductive LineError
  | empty (line : String)
  | unknownOpcode (token : String)
  deriving DecidableEq, Repr

/-- The reason in words. -/
def LineError.message : LineError → String
  | empty line => "Empty instruction: " ++ quote line
  | unknownOpcode token => "Unknown opcode: " ++ token

/-- Reads a line as the instruction with an address and a label. -/
def parseLine (line : List Char) (pc : Int) (id : String) : Except LineError Instruction :=
  let clean := stripComment line
  match words clean with
  | [] => .error (.empty (String.ofList line))
  | token :: rest =>
    match Opcode.ofToken? token with
    | none => .error (.unknownOpcode (String.ofList (upper token)))
    | some opcode =>
      let operands := if rest.isEmpty then [] else parseOperands (join [' '] rest) opcode
      .ok ⟨id, pc, opcode, operands.map String.ofList, String.ofList clean⟩

/-! ## Texts -/

/-- The address of the first instruction. -/
def baseAddress : Int := 0x400000

/-- The distance of the addresses of neighbours. -/
def wordSize : Int := 4

/-- A source line that was left out, with its number among the source lines, counted from one. -/
structure Warning where
  line : Nat
  text : String
  error : LineError
  deriving DecidableEq, Repr

/-- The warning in words. -/
def Warning.message (w : Warning) : String :=
  "Failed to parse line " ++ toString w.line ++ ": " ++ w.text ++ " (" ++ w.error.message ++ ")"

/-- What a text yields: its instructions, and the lines that are none. -/
structure Listing where
  instructions : List Instruction
  warnings : List Warning
  deriving DecidableEq, Repr

/-- Reads source lines, given how many lines stand before them and the address of the next instruction. -/
def parseLines (before : Nat) (pc : Int) : List (List Char) → Listing
  | [] => ⟨[], []⟩
  | line :: rest =>
    match parseLine line pc (toString before) with
    | .ok i =>
      let listing := parseLines (before + 1) (pc + wordSize) rest
      { listing with instructions := i :: listing.instructions }
    | .error e =>
      let listing := parseLines (before + 1) pc rest
      { listing with warnings := ⟨before + 1, String.ofList line, e⟩ :: listing.warnings }

/-- The program that a text denotes. -/
def parse (text : String) : Listing :=
  parseLines 0 baseAddress (sourceLines text.toList)

/-- The first word of a line names an opcode. -/
def startsWithOpcode (line : List Char) : Bool :=
  match words (stripComment line) with
  | [] => false
  | token :: _ => (Opcode.ofToken? token).isSome

/-- The source lines, with their numbers from a given one on, whose first word is no opcode. -/
def checkLines (number : Nat) : List (List Char) → List (Nat × String)
  | [] => []
  | line :: rest =>
    if startsWithOpcode line then checkLines (number + 1) rest
    else (number, String.ofList line) :: checkLines (number + 1) rest

/-- The numbered source lines of a text whose first word is no opcode. -/
def check (text : String) : List (Nat × String) :=
  checkLines 1 (sourceLines text.toList)

/-! ## Seams and counts -/

theorem trim_nil : trim [] = [] := rfl

theorem sourceLines_newline (a : List Char) : sourceLines (a ++ ['\n']) = sourceLines a := by
  rcases lines_newline a with h | h <;> simp [sourceLines, h, trim_nil, isSource]

theorem sourceLines_append (a b : List Char) :
    sourceLines (a ++ '\n' :: b) = sourceLines a ++ sourceLines b := by
  rw [← sourceLines_newline a, sourceLines, lines_append_newline]
  simp [sourceLines]

theorem length_parseLines (before : Nat) (pc : Int) (ls : List (List Char)) :
    (parseLines before pc ls).instructions.length + (parseLines before pc ls).warnings.length = ls.length := by
  induction ls generalizing before pc with
  | nil => rfl
  | cons line rest ih =>
    simp only [parseLines]
    split
    · have := ih (before + 1) (pc + wordSize)
      simp only [List.length_cons]
      omega
    · have := ih (before + 1) pc
      simp only [List.length_cons]
      omega

theorem length_parse (text : String) :
    (parse text).instructions.length + (parse text).warnings.length = (sourceLines text.toList).length :=
  length_parseLines ..

end FiveStage.Program
