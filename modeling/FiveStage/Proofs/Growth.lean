import FiveStage.Proofs.Figures
import FiveStage.Proofs.Opening
import FiveStage.Proofs.Refinement

/-!
# The growth of values

How long the values of registers and words can become. Sums and differences take one bit more than their parts, bitwise
arithmetic takes none, and loads and stores only carry values along. So each instruction makes the values longer by one
bit at most, and it takes thousands of instructions until one of them is too long to be written.

Main statements:
* `spans_land`, `spans_lor`: bitwise arithmetic takes no further bit;
* `Spanned.execute`, `Spanned.run`: an instruction takes one bit at most, so a program takes one for each instruction;
* `Proceeds.writable`: the values of the registers can be written as long as few instructions are completed.
-/

namespace FiveStage

/-! ## Bits -/

namespace Bitwise

variable {k : Nat} {x y : Int}

/-- The integer has so many bits, besides its sign. -/
def Spans (k : Nat) (x : Int) : Prop :=
  -(2 ^ k : Nat) ≤ x ∧ x < (2 ^ k : Nat)

theorem spans_ofNat {m : Nat} : Spans k (.ofNat m) ↔ m < 2 ^ k := by
  rw [Spans, Int.ofNat_eq_natCast]
  omega

theorem spans_negSucc {m : Nat} : Spans k (.negSucc m) ↔ m < 2 ^ k := by
  rw [Spans]
  omega

theorem spans_zero (k : Nat) : Spans k 0 :=
  spans_ofNat.2 (Nat.two_pow_pos k)

theorem Spans.mono {l : Nat} (h : Spans k x) (hle : k ≤ l) : Spans l x := by
  have hpow : 2 ^ k ≤ 2 ^ l := Nat.pow_le_pow_right (by decide) hle
  unfold Spans at h ⊢
  omega

theorem Spans.add (hx : Spans k x) (hy : Spans k y) : Spans (k + 1) (x + y) := by
  unfold Spans at hx hy ⊢
  rw [Nat.pow_succ]
  omega

theorem Spans.sub (hx : Spans k x) (hy : Spans k y) : Spans (k + 1) (x - y) := by
  unfold Spans at hx hy ⊢
  rw [Nat.pow_succ]
  omega

theorem ldiff_lt {m : Nat} (h : m < 2 ^ k) (n : Nat) : Nat.ldiff m n < 2 ^ k := by
  rw [← without_eq_ldiff, without]
  exact Nat.xor_lt_two_pow h (Nat.lt_of_le_of_lt Nat.and_le_left h)

theorem spans_land (hx : Spans k x) (hy : Spans k y) : Spans k (Int.land x y) := by
  cases x with
  | ofNat m =>
    have hm := spans_ofNat.1 hx
    cases y with
    | ofNat n => exact spans_ofNat.2 (Nat.lt_of_le_of_lt Nat.and_le_left hm)
    | negSucc n => exact spans_ofNat.2 (ldiff_lt hm n)
  | negSucc m =>
    have hm := spans_negSucc.1 hx
    cases y with
    | ofNat n => exact spans_ofNat.2 (ldiff_lt (spans_ofNat.1 hy) m)
    | negSucc n => exact spans_negSucc.2 (Nat.or_lt_two_pow hm (spans_negSucc.1 hy))

theorem spans_lor (hx : Spans k x) (hy : Spans k y) : Spans k (Int.lor x y) := by
  cases x with
  | ofNat m =>
    have hm := spans_ofNat.1 hx
    cases y with
    | ofNat n => exact spans_ofNat.2 (Nat.or_lt_two_pow hm (spans_ofNat.1 hy))
    | negSucc n => exact spans_negSucc.2 (ldiff_lt (spans_negSucc.1 hy) m)
  | negSucc m =>
    have hm := spans_negSucc.1 hx
    cases y with
    | ofNat n => exact spans_negSucc.2 (ldiff_lt hm n)
    | negSucc n => exact spans_negSucc.2 (Nat.lt_of_le_of_lt Nat.and_le_left hm)

end Bitwise

open Bitwise

/-! ## Sequential execution -/

/-- No value of a register or a word has more than so many bits. -/
structure Values.Spanned (k : Nat) (v : Values) : Prop where
  registers (r : Fin registerCount) : Spans k (v.registers r)
  words (w : Fin wordCount) : Spans k (v.words w)

namespace Values.Spanned

variable {k : Nat} {v : Values}

theorem mono {l : Nat} (h : v.Spanned k) (hle : k ≤ l) : v.Spanned l :=
  ⟨fun r => (h.registers r).mono hle, fun w => (h.words w).mono hle⟩

theorem source (h : v.Spanned k) (i : Instruction) (position : Nat) : Spans k (v.source i position) := by
  unfold Values.source
  split
  · exact h.registers _
  · exact spans_zero k

theorem load (h : v.Spanned k) (a : Int) : Spans k (v.load a) := by
  unfold Values.load
  split
  · exact h.words _
  · exact spans_zero k

theorem write {value : Int} (h : v.Spanned k) (hvalue : Spans k value) (r? : Option (Fin registerCount)) :
    (v.write r? value).Spanned k := by
  unfold Values.write
  split
  · split
    · exact h
    · rename_i r _
      refine ⟨fun q => ?_, h.words⟩
      by_cases hq : q = r
      · simpa [hq] using hvalue
      · simpa [hq] using h.registers q
  · exact h

theorem store {value : Int} (h : v.Spanned k) (hvalue : Spans k value) (a : Int) : (v.store a value).Spanned k := by
  refine ⟨h.registers, fun w => ?_⟩
  rw [Values.store]
  dsimp only
  split
  · exact hvalue
  · exact h.words w

/-- An instruction takes one bit at most. -/
theorem execute (h : v.Spanned k) (i : Instruction) : (v.execute i).Spanned (k + 1) := by
  have hmore := h.mono (Nat.le_succ k)
  unfold Values.execute
  split
  · exact hmore.write ((h.source i 1).add (h.source i 2)) _
  · exact hmore.write ((h.source i 1).sub (h.source i 2)) _
  · exact hmore.write (spans_land (hmore.source i 1) (hmore.source i 2)) _
  · exact hmore.write (spans_lor (hmore.source i 1) (hmore.source i 2)) _
  · exact hmore.write (hmore.load _) _
  · exact hmore.store (hmore.source i 0) _
  · exact hmore
  · exact hmore
  · exact hmore
  · exact hmore

/-- A program takes one bit for each instruction at most. -/
theorem run (h : v.Spanned k) (program : List Instruction) : (v.run program).Spanned (k + program.length) := by
  induction program generalizing v k with
  | nil => exact h
  | cons i program ih =>
    have hrest := ih (h.execute i)
    rw [Nat.add_assoc, Nat.add_comm 1] at hrest
    exact hrest

end Values.Spanned

/-! ## Values that can be written -/

namespace Storage

/-- The numbers that a storage starts with have no more bits than a word. -/
theorem Drawn.spanned {st : Storage} (h : st.Drawn) : (Values.ofStorage st).Spanned 32 where
  registers r := by
    obtain ⟨n, hn, hvalue⟩ := h.register r
    have hspans : Spans 32 n := spans_ofNat.2 (Nat.lt_trans hn (by decide))
    rwa [← hvalue] at hspans
  words w := by
    obtain ⟨n, hn, hvalue⟩ := h.word w
    have hspans : Spans 32 n := spans_ofNat.2 (Nat.lt_trans hn (by decide))
    rwa [← hvalue] at hspans

end Storage

/-- After no more than so many instructions, no value that has started as a word is too long to be written. -/
def surelyWritten : Nat := 14252

theorem writable_of_spans {k : Nat} {x : Int} (h : Spans k x) (hk : k ≤ 32 + surelyWritten) : Decimal.Writable x := by
  have hlimit : 2 ^ (32 + surelyWritten) < Nat.pow 10 Numeral.digitLimit := by decide +kernel
  have hpow : 2 ^ k ≤ 2 ^ (32 + surelyWritten) := Nat.pow_le_pow_right (by decide) hk
  have habs : x.natAbs ≤ 2 ^ k := by
    unfold Spans at h
    omega
  exact Nat.lt_of_le_of_lt (habs.trans hpow) hlimit

namespace State

variable {program : List Instruction} {s t : State}

/-- As long as few instructions are completed, the values of the registers can be written. -/
theorem Proceeds.writable (h : (s.load program).Proceeds t) (hstart : (Values.ofStorage s.storage).Spanned 32)
    (hfew : t.completed ≤ surelyWritten) (r : Fin registerCount) : Decimal.Writable (t.storage.register r) := by
  obtain ⟨p, hp, hagrees⟩ := h.agrees
  have hspanned := hstart.run (program.take p.retired)
  have hcompleted := hp.stands.completed
  have hlength : (program.take p.retired).length ≤ t.completed := by
    rw [hcompleted, List.length_take]
  rw [hagrees.registers]
  exact writable_of_spans (hspanned.registers r) (by omega)

end State

end FiveStage
