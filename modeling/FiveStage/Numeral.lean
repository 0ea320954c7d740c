import FiveStage.Text.Blank
import FiveStage.Text.Digit

/-!
# Numerals

Reading integers. A numeral is an optional sign and digits, with single underscores allowed between two digits; the
digits of every script count. In a literal the digits are decimal without leading zeros, or follow one of the marks
`0x`, `0o` and `0b`. A decimal numeral longer than `Numeral.digitLimit` is refused.

Main statement: `valueOf_append`, the positional value of digits.
-/

namespace FiveStage.Numeral

open Text

/-- The most digits that a decimal numeral is read or written with, leading zeros included. -/
def digitLimit : Nat := 4300

/-- Why a text is not read as an integer. -/
inductive Error
  | malformed
  | tooLong (digits : Nat)
  deriving DecidableEq, Repr

/-- What is said of a numeral with too many digits. -/
def tooLongMessage (digits : Nat) : String :=
  "Exceeds the limit (" ++ toString digitLimit ++ " digits) for integer string conversion: value has " ++
    toString digits ++ " digits; use sys.set_int_max_str_digits() to increase the limit"

/-- The number that a row of digits denotes in a base, most significant digit first. -/
def valueOf (base : Nat) (digits : List Nat) : Nat :=
  digits.foldl (fun n d => n * base + d) 0

theorem foldl_digits (base n : Nat) (digits : List Nat) :
    digits.foldl (fun n d => n * base + d) n = n * Nat.pow base digits.length + valueOf base digits := by
  induction digits generalizing n with
  | nil => simp [valueOf]
  | cons d ds ih =>
    have hpow : Nat.pow base (ds.length + 1) = base * Nat.pow base ds.length := Nat.mul_comm ..
    simp only [List.foldl_cons, List.length_cons, valueOf]
    rw [ih (n * base + d), ih (0 * base + d), hpow]
    simp only [Nat.zero_mul, Nat.zero_add, Nat.add_mul, Nat.mul_assoc, Nat.add_assoc]

theorem valueOf_append (base : Nat) (a b : List Nat) :
    valueOf base (a ++ b) = valueOf base a * Nat.pow base b.length + valueOf base b := by
  rw [valueOf, List.foldl_append, foldl_digits]
  rfl

/-! ## Digits -/

/-- The value of a letter or digit of ASCII as a digit, if the base has it. -/
def digitValue? (base : Nat) (c : Char) : Option Nat :=
  let value? :=
    if '0' ≤ c ∧ c ≤ '9' then some (c.toNat - 48)
    else if 'a' ≤ c ∧ c ≤ 'z' then some (c.toNat - 87)
    else if 'A' ≤ c ∧ c ≤ 'Z' then some (c.toNat - 55)
    else none
  value?.filter (· < base)

/-- The digits of a text that consists of digits and single underscores between them. -/
def groupedDigits? (base : Nat) : List Char → Option (List Nat)
  | [] => none
  | [c] => (digitValue? base c).map ([·])
  | c :: '_' :: rest =>
    match digitValue? base c, groupedDigits? base rest with
    | some d, some ds => some (d :: ds)
    | _, _ => none
  | c :: rest =>
    match digitValue? base c, groupedDigits? base rest with
    | some d, some ds => some (d :: ds)
    | _, _ => none

/-- Reads digits and underscores up to the end of the text. The number of digits is judged before what follows them. -/
def readDigits (base : Nat) (limited : Bool) (cs : List Char) : Except Error Nat :=
  let belongs := fun c => (digitValue? base c).isSome || c = '_'
  match groupedDigits? base (cs.takeWhile belongs) with
  | none => .error .malformed
  | some ds =>
    if limited && digitLimit < ds.length then .error (.tooLong ds.length)
    else if (cs.dropWhile belongs).isEmpty then .ok (valueOf base ds)
    else .error .malformed

/-- A mark of a base may be followed by one underscore. -/
def readMarked (base : Nat) : List Char → Except Error Nat
  | '_' :: rest => readDigits base false rest
  | rest => readDigits base false rest

/-- Reads an optional sign and a magnitude. -/
def readSigned (magnitude : List Char → Except Error Nat) : List Char → Except Error Int
  | '-' :: rest => (magnitude rest).map fun n => -(n : Int)
  | '+' :: rest => (magnitude rest).map fun n => (n : Int)
  | rest => (magnitude rest).map fun n => (n : Int)

/-! ## Decimal numerals and literals -/

/-- A magnitude in decimal, leading zeros allowed. -/
def decimalMagnitude (cs : List Char) : Except Error Nat :=
  readDigits 10 true cs

/-- A magnitude in the base that its mark names; without a mark it is decimal, and only zero may begin with a zero. -/
def literalMagnitude : List Char → Except Error Nat
  | '0' :: mark :: rest =>
    if mark = 'x' ∨ mark = 'X' then readMarked 16 rest
    else if mark = 'o' ∨ mark = 'O' then readMarked 8 rest
    else if mark = 'b' ∨ mark = 'B' then readMarked 2 rest
    else
      match readDigits 10 true ('0' :: mark :: rest) with
      | .ok 0 => .ok 0
      | .ok _ => .error .malformed
      | .error e => .error e
  | cs => decimalMagnitude cs

/-- The integer that a text denotes in decimal. -/
def readDecimal (cs : List Char) : Except Error Int :=
  readSigned decimalMagnitude (cs.map toAsciiDigit)

/-- The integer that a text denotes as a literal. -/
def readLiteral (cs : List Char) : Except Error Int :=
  readSigned literalMagnitude (cs.map toAsciiDigit)

/-- The blanks allowed around a numeral: all but the separators U+001C to U+001F. -/
def isMargin (c : Char) : Bool :=
  isBlank c && !(28 ≤ c.toNat && c.toNat ≤ 31)

/-- The integer that a text denotes in decimal between margins. -/
def read (cs : List Char) : Except Error Int :=
  readDecimal ((cs.dropWhile isMargin).reverse.dropWhile isMargin).reverse

end FiveStage.Numeral
