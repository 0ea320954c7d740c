import FiveStage.Binary64.Shortest
import Mathlib.Algebra.Group.Nat.Defs

/-!
# Rounding again

A value that has been rounded is not changed by rounding. What is rounded is a quotient, so it makes no difference by
which numerator and denominator it is given, nor how its decimal digits are shared between a significand and a power of
ten.

Main statements:
* `ofUnits_mul_right`, `ofScientific_mul_pow`: one quotient has one value;
* `inFormat_ofUnits`, `ofUnits_units`: what has been rounded is of the format, and what is of the format needs no
  rounding;
* `ofScientific_inPlaces`: all decimal places together denote the value.
-/

namespace FiveStage

theorem Decimal.roundDiv_mul_mul_right (num den : Nat) {c : Nat} (hc : 0 < c) :
    roundDiv (num * c) (den * c) = roundDiv num den := by
  have htwice : 2 * (num % den * c) = 2 * (num % den) * c := (Nat.mul_assoc ..).symm
  simp only [roundDiv, Nat.mul_div_mul_right num den hc, Nat.mul_mod_mul_right, htwice,
    Nat.mul_lt_mul_right hc]

namespace Binary64

open Decimal (roundDiv)

variable {negative : Bool} {num den significand shift : Nat} {x : Binary64}

/-! ## Quotients -/

theorem ofUnits_mul_right (negative : Bool) (num den : Nat) {c : Nat} (hc : 0 < c) :
    ofUnits negative (num * c) (den * c) = ofUnits negative num den := by
  have hround : ∀ k, roundDiv (num * c) (den * c * k) = roundDiv num (den * k) := by
    intro k
    rw [Nat.mul_right_comm, Decimal.roundDiv_mul_mul_right num (den * k) hc]
  simp only [ofUnits, Nat.mul_div_mul_right num den hc, hround]

theorem ofQuotient_mul_right (negative : Bool) (num den : Nat) {c : Nat} (hc : 0 < c) :
    ofQuotient negative (num * c) (den * c) = ofQuotient negative num den := by
  rw [ofQuotient, Nat.mul_right_comm, ofUnits_mul_right negative _ den hc, ofQuotient]

/-- Zeros at the end of a significand may be given as part of the power of ten. -/
theorem ofScientific_mul_pow (negative : Bool) (m k : Nat) (e : Int) :
    ofScientific negative (m * 10 ^ k) e = ofScientific negative m (e + k) := by
  have hten (n : Nat) : Nat.pow 10 n = 10 ^ n := rfl
  simp only [ofScientific, hten]
  by_cases he : 0 ≤ e
  · have hexponent : (e + k).toNat = k + e.toNat := by omega
    rw [if_pos he, if_pos (by omega), hexponent, Nat.mul_assoc, ← Nat.pow_add]
  · rw [if_neg he]
    by_cases hk : 0 ≤ e + k
    · have hexponent : k = (e + k).toNat + (-e).toNat := by omega
      have hpos : 0 < 10 ^ (-e).toNat := Nat.pow_pos (by decide)
      have hscale := ofQuotient_mul_right negative (m * 10 ^ (e + k).toNat) 1 hpos
      rw [if_pos hk, ← hscale, Nat.mul_assoc, ← Nat.pow_add, ← hexponent, Nat.one_mul]
    · have hexponent : (-e).toNat = (-(e + k)).toNat + k := by omega
      rw [if_neg hk, hexponent, Nat.pow_add, ofQuotient_mul_right negative _ _ (Nat.pow_pos (by decide))]

theorem ofScientific_zero (negative : Bool) (e : Int) : ofScientific negative 0 e = finite negative 0 0 := by
  rw [ofScientific, Nat.zero_mul]
  split <;> rw [ofQuotient, Nat.zero_mul, ofUnits_zero]

/-- The sign has no part in the rounding. -/
theorem ofUnits_of_positive (negative : Bool) (h : ofUnits false num den = finite false significand shift) :
    ofUnits negative num den = finite negative significand shift := by
  have hpack : ∀ m s, pack false m s = finite false significand shift →
      pack negative m s = finite negative significand shift := by
    intro m s hm
    unfold pack at hm ⊢
    split at hm
    · cases hm
    · rename_i hs
      cases hm
      rw [if_neg hs]
  unfold ofUnits at h ⊢
  dsimp only at h ⊢
  split at h
  · rename_i hcarry
    rw [if_pos hcarry]
    exact hpack _ _ h
  · rename_i hcarry
    rw [if_neg hcarry]
    exact hpack _ _ h

theorem ofScientific_of_positive (negative : Bool) {m : Nat} {e : Int}
    (h : ofScientific false m e = finite false significand shift) :
    ofScientific negative m e = finite negative significand shift := by
  unfold ofScientific ofQuotient at h ⊢
  split at h
  · rename_i he
    rw [if_pos he]
    exact ofUnits_of_positive negative h
  · rename_i he
    rw [if_neg he]
    exact ofUnits_of_positive negative h

/-! ## The format -/

/-- The value is one of the format: a finite one has a significand of at most 53 bits, and of no fewer unless its unit
is the least one. -/
def InFormat : Binary64 → Prop
  | finite _ significand shift => significand < 2 ^ 53 ∧ (shift = 0 ∨ 2 ^ 52 ≤ significand) ∧ shift ≤ 2045
  | infinite _ => True

instance : DecidablePred InFormat
  | finite _ significand shift =>
    inferInstanceAs (Decidable (significand < 2 ^ 53 ∧ (shift = 0 ∨ 2 ^ 52 ≤ significand) ∧ shift ≤ 2045))
  | infinite _ => inferInstanceAs (Decidable True)

/-- What is of the format needs no rounding. -/
theorem ofUnits_units (h : (finite negative significand shift).InFormat) :
    ofUnits negative (significand * 2 ^ shift) 1 = finite negative significand shift := by
  obtain ⟨hlt, hlow, hshift⟩ := h
  rcases hlow with rfl | hlow
  · rw [Nat.pow_zero, Nat.mul_one]
    exact ofUnits_significand negative hlt
  · have hpos : significand * 2 ^ shift ≠ 0 := by
      have := Nat.two_pow_pos shift
      have := Nat.two_pow_pos 52
      exact Nat.mul_ne_zero (by omega) (by omega)
    have hlog : (significand * 2 ^ shift).log2 = 52 + shift := by
      rw [Nat.log2_eq_iff hpos]
      have hsucc : 52 + shift + 1 = 53 + shift := by omega
      rw [hsucc, Nat.pow_add, Nat.pow_add]
      exact ⟨Nat.mul_le_mul_right _ hlow, Nat.mul_lt_mul_of_pos_right hlt (Nat.two_pow_pos shift)⟩
    have hround : roundDiv (significand * 2 ^ shift) (1 * Nat.pow 2 shift) = significand := by
      rw [Nat.one_mul]
      exact Decimal.roundDiv_mul_right significand (Nat.two_pow_pos shift)
    have hunits : (significand * 2 ^ shift / 1).log2 - 52 = shift := by
      rw [Nat.div_one, hlog, Nat.add_sub_cancel_left]
    have hcarry : ¬significand = Nat.pow 2 53 := Nat.ne_of_lt hlt
    simp only [ofUnits, hunits, hround, if_neg hcarry]
    rw [pack, if_neg (by omega)]

/-! ## All places -/

/-- As many decimal places as the least unit has binary ones leave nothing out. -/
theorem inPlaces_exact {k : Nat} (hone : one = Nat.pow 2 k) (x : Binary64) : x.inPlaces k = x.units * 5 ^ k := by
  have htwo : Nat.pow 2 k = 2 ^ k := rfl
  have hten : Nat.pow 10 k = 5 ^ k * 2 ^ k := by rw [← Nat.mul_pow]; rfl
  rw [inPlaces, hten, hone, htwo, ← Nat.mul_assoc, Decimal.roundDiv_mul_right _ (Nat.two_pow_pos k)]

theorem ofScientific_inPlaces {k : Nat} (hone : one = Nat.pow 2 k) (hk : 0 < k) (negative : Bool) (x : Binary64) :
    ofScientific negative (x.inPlaces k) (-(k : Int)) = ofUnits negative x.units 1 := by
  have htwo : Nat.pow 2 k = 2 ^ k := rfl
  have hten : Nat.pow 10 (-(-(k : Int))).toNat = 1 * (5 ^ k * 2 ^ k) := by
    rw [Int.neg_neg, Int.toNat_natCast, Nat.one_mul, ← Nat.mul_pow]
    rfl
  rw [ofScientific, if_neg (by omega), hten, ofQuotient, inPlaces_exact hone, hone, htwo, Nat.mul_assoc,
    ofUnits_mul_right negative x.units 1 (Nat.mul_pos (Nat.pow_pos (by decide)) (Nat.two_pow_pos k))]

end Binary64

end FiveStage
