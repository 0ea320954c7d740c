import FiveStage.Numeral

/-!
# Specifications of columns

A specification says how a text is set into a column: a character to fill it with, on which side the text stands, a
width, and how much of the text is shown, as in `*<12.8s`. What it may say of numbers besides is read but refused.

Main statement: `takeMark_of_ne`, by which a mark that is not there takes nothing away.
-/

namespace FiveStage.Text

/-- Why a specification is refused. -/
inductive ColumnFault
  | signed
  | spaced
  | zeroCoerced
  | alternate
  | padded
  | tooLarge
  | noPrecision
  | bothSeparators
  | separator (mark kind : Char)
  | unknownKind (kind : Char)
  | unreadable (specification : String)
  deriving DecidableEq, Repr

namespace ColumnFault

/-- A character in a message; one that is not of ASCII, or is blank, is shown by its number. -/
def shownKind (c : Char) : String :=
  if ' ' < c ∧ c.toNat < 128 then String.singleton c else "\\x" ++ String.ofList (Nat.toDigits 16 c.toNat)

/-- The reason in words. -/
def message : ColumnFault → String
  | signed => "Sign not allowed in string format specifier"
  | spaced => "Space not allowed in string format specifier"
  | zeroCoerced => "Negative zero coercion (z) not allowed in string format specifier"
  | alternate => "Alternate form (#) not allowed in string format specifier"
  | padded => "'=' alignment not allowed in string format specifier"
  | tooLarge => "Too many decimal digits in format string"
  | noPrecision => "Format specifier missing precision"
  | bothSeparators => "Cannot specify both ',' and '_'."
  | separator mark kind => "Cannot specify '" ++ String.singleton mark ++ "' with '" ++ shownKind kind ++ "'."
  | unknownKind kind => "Unknown format code '" ++ shownKind kind ++ "' for object of type 'str'"
  | unreadable specification => "Invalid format specifier '" ++ specification ++ "' for object of type 'str'"

end ColumnFault

/-- What a specification says. -/
structure Column where
  side : Char := '<'
  sign : Option Char := none
  zeroCoerced : Bool := false
  alternate : Bool := false
  width : Option Nat := none
  separator : Option Char := none
  precision : Option Nat := none
  kind : Char := 's'
  deriving DecidableEq, Repr

namespace Column

/-- The number that a width or precision must not reach. -/
def limit : Nat := Nat.pow 2 63

/-- The character says on which side the text stands. -/
def isSide (c : Char) : Bool :=
  c = '<' || c = '>' || c = '=' || c = '^'

/-- The character is a sign. -/
def isSign (c : Char) : Bool :=
  c = '+' || c = '-' || c = ' '

/-- The side that is asked for, possibly behind the character that fills the column. -/
def takeSide : List Char → Char × List Char
  | fill :: side :: rest =>
    if isSide side then (side, rest) else if isSide fill then (fill, side :: rest) else ('<', fill :: side :: rest)
  | [side] => if isSide side then (side, []) else ('<', [side])
  | [] => ('<', [])

/-- The sign that the specification begins with. -/
def takeSign : List Char → Option Char × List Char
  | c :: rest => if isSign c then (some c, rest) else (none, c :: rest)
  | [] => (none, [])

/-- Whether the specification begins with a mark, and what is behind it. -/
def takeMark (mark : Char) : List Char → Bool × List Char
  | c :: rest => if c = mark then (true, rest) else (false, c :: rest)
  | [] => (false, [])

/-- The number that the specification begins with. -/
def takeNumber (cs : List Char) : Except ColumnFault (Option Nat × List Char) :=
  let digits := leadingDigits cs
  let n := Numeral.valueOf 10 digits
  if digits.isEmpty then .ok (none, cs)
  else if limit ≤ n then .error .tooLarge
  else .ok (some n, cs.drop digits.length)

/-- The separator between the digits of a number. -/
def takeSeparator (cs : List Char) : Except ColumnFault (Option Char × List Char) :=
  let (comma, cs) := takeMark ',' cs
  let (underscore, cs) := takeMark '_' cs
  if comma && underscore || underscore && (takeMark ',' cs).1 then .error .bothSeparators
  else .ok (if comma then some ',' else if underscore then some '_' else none, cs)

/-- How much of the text is shown. -/
def takePrecision (cs : List Char) : Except ColumnFault (Option Nat × List Char) :=
  match takeMark '.' cs with
  | (false, cs) => .ok (none, cs)
  | (true, cs) => do
    match ← takeNumber cs with
    | (none, _) => throw .noPrecision
    | found => return found

/-- The kinds that may have a separator: some kinds of numbers, and the kind that is not told. -/
def takesSeparator (mark kind : Char) : Bool :=
  "defgEG%F\x00".toList.contains kind || mark = '_' && "boxX".toList.contains kind

/-- Reads a specification. -/
def read (specification : List Char) : Except ColumnFault Column := do
  let (side, cs) := takeSide specification
  let (sign, cs) := takeSign cs
  let (zeroCoerced, cs) := takeMark 'z' cs
  let (alternate, cs) := takeMark '#' cs
  let (width, cs) ← takeNumber cs
  let (separator, cs) ← takeSeparator cs
  let (precision, cs) ← takePrecision cs
  let kind ← match cs with
    | [] => pure 's'
    | [kind] => pure kind
    | _ => throw (.unreadable (String.ofList specification))
  match separator with
  | some mark => if !takesSeparator mark kind then throw (.separator mark kind)
  | none => pure ()
  return { side, sign, zeroCoerced, alternate, width, separator, precision, kind }

/-- What a specification says of a text, unless it says what can only be said of a number. -/
def check (specification : List Char) : Except ColumnFault Column := do
  let column ← read specification
  if column.kind ≠ 's' then throw (.unknownKind column.kind)
  match column.sign with
  | some ' ' => throw .spaced
  | some _ => throw .signed
  | none => pure ()
  if column.zeroCoerced then throw .zeroCoerced
  if column.alternate then throw .alternate
  if column.side = '=' then throw .padded
  return column

theorem takeMark_of_ne {mark c : Char} (h : c ≠ mark) (rest : List Char) :
    takeMark mark (c :: rest) = (false, c :: rest) := by
  simp [takeMark, h]

end Column

end FiveStage.Text
