/-!
# Bits of integers

Conjunction and disjunction of integers of any size. A negative integer has infinitely many ones above its other bits,
so it is told by the bits that it lacks.

Main statement: `testBit_without`, by which bits are taken away one by one.
-/

namespace FiveStage.Bitwise

/-- The bits of the first number that the second one lacks. -/
def without (m n : Nat) : Nat :=
  m ^^^ (m &&& n)

theorem testBit_without (m n k : Nat) : (without m n).testBit k = (m.testBit k && !n.testBit k) := by
  simp only [without, Nat.testBit_xor, Nat.testBit_and]
  cases m.testBit k <;> cases n.testBit k <;> rfl

/-- The integer with the bits that both integers have. -/
def conj : Int → Int → Int
  | .ofNat m, .ofNat n => .ofNat (m &&& n)
  | .ofNat m, .negSucc n => .ofNat (without m n)
  | .negSucc m, .ofNat n => .ofNat (without n m)
  | .negSucc m, .negSucc n => .negSucc (m ||| n)

/-- The integer with the bits that one of the integers has. -/
def disj : Int → Int → Int
  | .ofNat m, .ofNat n => .ofNat (m ||| n)
  | .ofNat m, .negSucc n => .negSucc (without n m)
  | .negSucc m, .ofNat n => .negSucc (without m n)
  | .negSucc m, .negSucc n => .negSucc (m &&& n)

end FiveStage.Bitwise
