import FiveStage.Json
import FiveStage.Misuse

/-!
# Numbers

The figures of a report are integers, values of `Binary64`, undefined, or truth values. Integers are computed with
exactly; where another number takes part the result is a value of `Binary64`, and a truth value counts as zero or one.
Numbers are compared by what they denote, without any rounding, and what is undefined compares with nothing.

A quotient of integers is the value nearest to it. One that is beyond all finite values is a fault, and so is an integer
that is too long to be written.

Main statements:
* `add_int`, `sub_int`, `lt_int`, `same_int`: integers are computed with and compared as integers;
* `quotient_zero`: nothing divided is nothing;
* `ofJson?_toJson`: a number can be told from its document.
-/

namespace FiveStage

/-- An integer, a value of `Binary64`, what has no value, or a truth value. -/
inductive Number
  | int (value : Int)
  | real (value : Binary64)
  | undefined
  | truth (value : Bool)
  deriving DecidableEq, Repr

namespace Number

/-! ## Documents -/

/-- As a document. -/
def toJson : Number → Json
  | int n => .int n
  | real x => .real x
  | undefined => .undefined
  | truth b => .bool b

/-- The number that a document denotes. -/
def ofJson? : Json → Option Number
  | .int n => some (int n)
  | .real x => some (real x)
  | .undefined => some undefined
  | .bool b => some (truth b)
  | _ => none

@[simp]
theorem ofJson?_toJson (x : Number) : ofJson? x.toJson = some x := by
  cases x <;> rfl

/-! ## Values -/

/-- A small decimal fraction as a value. -/
def constant (num den : Nat) : Binary64 :=
  Binary64.ofQuotient false num den

/-- A value that may be undefined. -/
def ofValue? : Option Binary64 → Number
  | some x => real x
  | none => undefined

/-- The integer that a number is, if it is one; a truth value is zero or one. -/
def integer? : Number → Option Int
  | int n => some n
  | truth b => some b.toInt
  | _ => none

/-- An integer as a value, unless it is beyond all finite values. -/
def ofInt (n : Int) : Except Misuse Binary64 :=
  let x := Binary64.ofInt n
  if x.isInfinite then .error .tooLarge else .ok x

/-- The number as a value, if it has one, unless it is an integer beyond all finite values. -/
def value? : Number → Except Misuse (Option Binary64)
  | int n => (ofInt n).map some
  | real x => .ok (some x)
  | undefined => .ok none
  | truth b => (ofInt b.toInt).map some

/-- The number as an integer, without the places of a fraction. -/
def whole : Number → Except Misuse Int
  | int n => .ok n
  | real x =>
    match x.truncate? with
    | some n => .ok n
    | none => .error .infinite
  | undefined => .error .undefined
  | truth b => .ok b.toInt

/-! ## Order -/

/-- The number is above all finite ones, or below them; for the others, nothing. -/
def infinity? : Number → Option Bool
  | real (.infinite negative) => some negative
  | _ => none

/-- A finite number in units of 2⁻¹⁰⁷⁴. -/
def units : Number → Int
  | int n => n * Binary64.one
  | real x => x.signedUnits
  | undefined => 0
  | truth b => b.toInt * Binary64.one

/-- The first number is less than the second. -/
def lt : Number → Number → Bool
  | int m, int n => m < n
  | undefined, _ | _, undefined => false
  | x, y =>
    match x.infinity?, y.infinity? with
    | some a, some b => a && !b
    | some a, none => a
    | none, some b => !b
    | none, none => x.units < y.units

/-- The numbers denote the same. -/
def same (x y : Number) : Bool :=
  x ≠ undefined && y ≠ undefined && !x.lt y && !y.lt x

@[simp]
theorem lt_int (m n : Int) : (int m).lt (int n) = decide (m < n) := rfl

@[simp]
theorem same_int (m n : Int) : (int m).same (int n) = decide (m = n) := by
  rw [same, lt_int, lt_int, Bool.eq_iff_iff]
  simp only [ne_eq, reduceCtorEq, not_false_eq_true, decide_true, Bool.and_eq_true, Bool.not_eq_true',
    decide_eq_false_iff_not, decide_eq_true_eq, true_and]
  omega

/-! ## Arithmetic -/

/-- What an operation on integers, or else one on values, makes of two numbers. -/
def combine (onIntegers : Int → Int → Int) (onValues : Binary64 → Binary64 → Option Binary64) (x y : Number) :
    Except Misuse Number :=
  match x.integer?, y.integer? with
  | some m, some n => .ok (int (onIntegers m n))
  | _, _ => do
    match ← x.value?, ← y.value? with
    | some a, some b => return ofValue? (onValues a b)
    | _, _ => return undefined

/-- The sum. -/
def add : Number → Number → Except Misuse Number :=
  combine (· + ·) Binary64.add?

/-- The difference. -/
def sub : Number → Number → Except Misuse Number :=
  combine (· - ·) fun x y => x.add? y.neg

@[simp]
theorem add_int (m n : Int) : (int m).add (int n) = .ok (int (m + n)) := rfl

@[simp]
theorem sub_int (m n : Int) : (int m).sub (int n) = .ok (int (m - n)) := rfl

/-- The quotient of two integers, the second one positive. -/
def quotient (num : Int) (den : Nat) : Except Misuse Binary64 :=
  let x := Binary64.ofFraction num den
  if x.isInfinite then .error .quotientTooLarge else .ok x

theorem quotient_zero (den : Nat) : quotient 0 den = .ok (.finite false 0 0) := by
  simp only [quotient, Binary64.ofFraction_zero]
  rfl

/-- The quotient of two numbers, the second one positive or undefined. -/
def divide (x y : Number) : Except Misuse Number :=
  match x.integer?, y.integer? with
  | some m, some n => (quotient m n.toNat).map real
  | _, _ => do
    match ← x.value?, ← y.value? with
    | some a, some b => return ofValue? (a.div? b)
    | _, _ => return undefined

/-- The quotient of two numbers as a percentage, the second one positive or undefined. -/
def percentage (x y : Number) : Except Misuse Number := do
  match ← x.divide y with
  | real share => return real (share.mul (constant 100 1))
  | share => return share

/-- Rounded to so many decimal places; an integer needs no rounding. -/
def round (places : Nat) : Number → Number
  | int n => int n
  | real x => real (x.round places)
  | undefined => undefined
  | truth b => int b.toInt

/-- The greatest integer that is not above the quotient of the number and an integer. Only a finite number has one. -/
def floorDiv? (divisor : Int) : Number → Option Int
  | int n => some (n.fdiv divisor)
  | real x => x.floorDiv? divisor
  | undefined => none
  | truth b => some (b.toInt.fdiv divisor)

/-- So many steps of one lead from the second number to the first at the latest. Nobody waits for a number that is
infinitely far away. -/
def steps (limit now : Number) : Nat :=
  if limit.infinity?.isSome || now.infinity?.isSome then Nat.pow 2 64
  else (limit.units - now.units).toNat / Binary64.one + 1

/-- The steps from one integer to another one are enough to get there. -/
theorem sub_lt_steps (limit now : Int) : limit - now < steps (.int limit) (.int now) := by
  have hone : 0 < Binary64.one := by
    have hpow : ∀ n, 0 < Nat.pow 2 n := Nat.two_pow_pos
    delta Binary64.one
    exact hpow 1074
  show limit - now < (((limit * Binary64.one - now * Binary64.one).toNat / Binary64.one + 1 : Nat) : Int)
  rw [← Int.sub_mul]
  generalize limit - now = distance
  obtain ⟨n, rfl | rfl⟩ := Int.eq_nat_or_neg distance
  · rw [← Int.natCast_mul, Int.toNat_natCast, Nat.mul_div_cancel n hone]
    omega
  · exact Int.lt_of_le_of_lt (by omega) (Int.natCast_pos.2 (Nat.succ_pos _))

/-! ## Texts -/

/-- With a fixed number of decimal places. -/
def fixed (places : Nat) : Number → String
  | int n => String.ofList ((Binary64.ofInt n).fixed places)
  | real x => String.ofList (x.fixed places)
  | undefined => "nan"
  | truth b => String.ofList ((Binary64.ofInt b.toInt).fixed places)

/-- The decimal text of an integer in a report. -/
def writeInt (n : Int) : Except Misuse String :=
  match Decimal.write n with
  | .ok cs => .ok (String.ofList cs)
  | .error _ => .error .tooLong

/-- The shortest text of a number in a report. -/
def write : Number → Except Misuse String
  | int n => writeInt n
  | real x => .ok (String.ofList x.text)
  | undefined => .ok "nan"
  | truth b => .ok (if b then "True" else "False")

/-- The shortest text of a number in a column, where a truth value is written as the number that it counts as. -/
def writeCell : Number → Except Misuse String
  | truth b => writeInt b.toInt
  | x => x.write

end Number

end FiveStage
