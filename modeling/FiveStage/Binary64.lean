import FiveStage.Decimal

/-!
# Binary floating point of 64 bits

The values of the format `binary64` other than the undefined one, held exactly: a finite value is a whole number of
units of 2⁻¹⁰⁷⁴. Every operation computes its exact result and rounds it once, a half to the even neighbour.

Main statements: `ofUnits_significand` and `ofUnits_zero`, by which rounding keeps what needs no rounding.
-/

namespace FiveStage

/-- A value of the format: its sign, and its magnitude `significand * 2 ^ shift` in units of 2⁻¹⁰⁷⁴ unless it is
infinite. A zero has a sign too. -/
inductive Binary64
  | finite (negative : Bool) (significand shift : Nat)
  | infinite (negative : Bool)
  deriving DecidableEq, Repr

namespace Binary64

open Decimal (roundDiv)

/-- How many units make one. -/
def one : Nat := Nat.pow 2 1074

/-- The magnitude in units, for a finite value. -/
def units : Binary64 → Nat
  | finite _ significand shift => significand * Nat.pow 2 shift
  | infinite _ => 0

/-- The sign. -/
def isNegative : Binary64 → Bool
  | finite negative .. => negative
  | infinite negative => negative

/-- The value is beyond all finite values. -/
def isInfinite : Binary64 → Bool
  | finite .. => false
  | infinite _ => true

/-- The value in units, with its sign. -/
def signedUnits (x : Binary64) : Int :=
  if x.isNegative then -(x.units : Int) else x.units

/-! ## Rounding -/

/-- A value with a given significand, unless it is beyond all finite values. -/
def pack (negative : Bool) (significand shift : Nat) : Binary64 :=
  if 2045 < shift then infinite negative else finite negative significand shift

/-- The value nearest to the quotient of `num` and `den` units. A significand has at most 53 bits. -/
def ofUnits (negative : Bool) (num den : Nat) : Binary64 :=
  let shift := (num / den).log2 - 52
  let significand := roundDiv num (den * Nat.pow 2 shift)
  if significand = Nat.pow 2 53 then pack negative (Nat.pow 2 52) (shift + 1) else pack negative significand shift

/-- The value nearest to a quotient. -/
def ofQuotient (negative : Bool) (num den : Nat) : Binary64 :=
  ofUnits negative (num * one) den

/-- The value nearest to a fraction with a positive denominator. -/
def ofFraction (num : Int) (den : Nat) : Binary64 :=
  ofQuotient (num < 0) num.natAbs den

/-- The value nearest to an integer. -/
def ofInt (n : Int) : Binary64 :=
  ofFraction n 1

/-- The value nearest to `significand * 10 ^ exponent`. -/
def ofScientific (negative : Bool) (significand : Nat) (exponent : Int) : Binary64 :=
  if 0 ≤ exponent then ofQuotient negative (significand * Nat.pow 10 exponent.toNat) 1
  else ofQuotient negative significand (Nat.pow 10 (-exponent).toNat)

theorem ofUnits_zero (negative : Bool) (den : Nat) : ofUnits negative 0 den = finite negative 0 0 := by
  cases den <;> simp [ofUnits, roundDiv, pack]

theorem ofFraction_zero (den : Nat) : ofFraction 0 den = finite false 0 0 := by
  rw [ofFraction, ofQuotient, Int.natAbs_zero, Nat.zero_mul, ofUnits_zero]
  rfl

theorem ofUnits_significand (negative : Bool) {m : Nat} (h : m < Nat.pow 2 53) :
    ofUnits negative m 1 = finite negative m 0 := by
  have hlog : m.log2 - 52 = 0 := by
    rcases Nat.eq_zero_or_pos m with rfl | hm
    · simp
    · have := (Nat.log2_lt (by omega)).2 h
      omega
  have hround : roundDiv m 1 = m := by simpa using Decimal.roundDiv_mul_right m Nat.one_pos
  have hshift : (m / 1).log2 - 52 = 0 := by rw [Nat.div_one, hlog]
  rw [ofUnits, hshift]
  simp only [hround]
  rw [if_neg (Nat.ne_of_lt h)]
  rfl

/-! ## Arithmetic -/

/-- The sum. A sum of nothing is negative only if both terms are; of two infinite terms the first one counts. -/
def add : Binary64 → Binary64 → Binary64
  | infinite a, _ => infinite a
  | _, infinite b => infinite b
  | x, y =>
    let sum := x.signedUnits + y.signedUnits
    ofUnits (if sum = 0 then x.isNegative && y.isNegative else sum < 0) sum.natAbs 1

/-- The sum, unless the terms are infinite in opposite directions. -/
def add? (x y : Binary64) : Option Binary64 :=
  if x.isInfinite && y.isInfinite && x.isNegative != y.isNegative then none else some (x.add y)

/-- The product. -/
def mul : Binary64 → Binary64 → Binary64
  | finite a m p, finite b n q => ofUnits (a != b) (m * Nat.pow 2 p * (n * Nat.pow 2 q)) one
  | x, y => infinite (x.isNegative != y.isNegative)

/-- The value with the other sign. -/
def neg : Binary64 → Binary64
  | finite negative significand shift => finite (!negative) significand shift
  | infinite negative => infinite !negative

/-- The quotient, for a divisor other than zero, unless both are infinite. An infinite divisor leaves nothing. -/
def div? : Binary64 → Binary64 → Option Binary64
  | finite a m p, finite b n q => some (ofUnits (a != b) (m * Nat.pow 2 p * one) (n * Nat.pow 2 q))
  | infinite a, finite b .. => some (infinite (a != b))
  | finite a .., infinite b => some (finite (a != b) 0 0)
  | infinite _, infinite _ => none

/-- The order of the values. -/
def lt : Binary64 → Binary64 → Bool
  | infinite a, infinite b => a && !b
  | infinite a, _ => a
  | _, infinite b => !b
  | x, y => x.signedUnits < y.signedUnits

/-- The larger of two values, the first if neither is larger. -/
def max (x y : Binary64) : Binary64 :=
  if x.lt y then y else x

/-- The integer between zero and the value that is nearest to the value. -/
def truncate? : Binary64 → Option Int
  | infinite _ => none
  | x => some (x.signedUnits.tdiv one)

/-- The greatest integer that is not above the quotient of the value and an integer. -/
def floorDiv? (divisor : Int) : Binary64 → Option Int
  | infinite _ => none
  | x => some (x.signedUnits.fdiv (divisor * one))

/-! ## Decimal places -/

/-- The magnitude of a finite value in units of the last of so many decimal places, a half going to the even
neighbour. -/
def inPlaces (places : Nat) (x : Binary64) : Nat :=
  roundDiv (x.units * Nat.pow 10 places) one

/-- The value nearest to the value rounded to so many decimal places. -/
def round (places : Nat) : Binary64 → Binary64
  | infinite negative => infinite negative
  | x => ofQuotient x.isNegative (x.inPlaces places) (Nat.pow 10 places)

/-- The sign in front of a magnitude. -/
def signText (negative : Bool) : List Char :=
  if negative then ['-'] else []

/-- A magnitude in units of the last decimal place, written with a point. -/
def pointText (places magnitude : Nat) : List Char :=
  let fraction := Decimal.digits (magnitude % Nat.pow 10 places)
  Decimal.digits (magnitude / Nat.pow 10 places) ++ '.' :: (List.replicate (places - fraction.length) '0' ++ fraction)

/-- The decimal text with a fixed number of places. -/
def fixed (places : Nat) : Binary64 → List Char
  | infinite negative => signText negative ++ "inf".toList
  | x => signText x.isNegative ++ pointText places (x.inPlaces places)

end Binary64

end FiveStage
