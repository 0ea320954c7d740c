import FiveStage.Numeral

/-!
# Decimal texts

Writing integers and rounding quotients. An integer is written with at most `Numeral.digitLimit` digits.

Main statements:
* `roundDiv_mul_le`, `le_roundDiv_mul`: a rounded quotient is within half a unit of the quotient;
* `roundDiv_mul_right`: a quotient without remainder is kept.
-/

namespace FiveStage.Decimal

/-- An integer has too many digits to be written. -/
structure TooLong where
  deriving DecidableEq, Repr

/-- What is said of an integer with too many digits. -/
def TooLong.message (_ : TooLong) : String :=
  "Exceeds the limit (" ++ toString Numeral.digitLimit ++
    " digits) for integer string conversion; use sys.set_int_max_str_digits() to increase the limit"

/-- The decimal digits of a natural number. -/
def digits (n : Nat) : List Char :=
  Nat.toDigits 10 n

/-- The decimal text of an integer of any size. -/
def text (n : Int) : List Char :=
  if n < 0 then '-' :: digits n.natAbs else digits n.natAbs

/-- The integer has no more digits than may be written. -/
def Writable (n : Int) : Prop :=
  n.natAbs < Nat.pow 10 Numeral.digitLimit

instance (n : Int) : Decidable (Writable n) :=
  inferInstanceAs (Decidable (_ < _))

/-- The decimal text of an integer, unless it is too long. -/
def write (n : Int) : Except TooLong (List Char) :=
  if Writable n then .ok (text n) else .error ⟨⟩

/-! ## Rounding -/

/-- The quotient rounded to the nearest integer, a half to the even neighbour. -/
def roundDiv (num den : Nat) : Nat :=
  let q := num / den
  let r := num % den
  if 2 * r < den then q else if den < 2 * r then q + 1 else q + q % 2

theorem roundDiv_mul_le (num den : Nat) : 2 * (roundDiv num den * den) ≤ 2 * num + den := by
  have h := Nat.div_add_mod num den
  have hm : den * (num / den) = num / den * den := Nat.mul_comm ..
  simp only [roundDiv]
  split
  · omega
  · split
    · rw [Nat.add_mul]; omega
    · rw [Nat.add_mul]
      rcases Nat.mod_two_eq_zero_or_one (num / den) with h2 | h2 <;> rw [h2] <;> omega

theorem le_roundDiv_mul (num : Nat) {den : Nat} (hpos : 0 < den) : 2 * num ≤ 2 * (roundDiv num den * den) + den := by
  have h := Nat.div_add_mod num den
  have hm : den * (num / den) = num / den * den := Nat.mul_comm ..
  have hlt := Nat.mod_lt num hpos
  simp only [roundDiv]
  split
  · omega
  · split
    · rw [Nat.add_mul]; omega
    · rw [Nat.add_mul]
      rcases Nat.mod_two_eq_zero_or_one (num / den) with h2 | h2 <;> rw [h2] <;> omega

theorem roundDiv_mul_right (n : Nat) {den : Nat} (h : 0 < den) : roundDiv (n * den) den = n := by
  simp [roundDiv, Nat.mul_div_cancel n h, h]

end FiveStage.Decimal
