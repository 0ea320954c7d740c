import FiveStage.Binary64

/-!
# The shortest decimal text of a value

A value is written with the fewest significant digits that are read back as the value; of several such texts the one
nearest to the value is taken. From 10⁻⁴ to below 10¹⁶ the digits stand around a point, and elsewhere an exponent of at
least two digits follows them. A text always shows that it is no integer.

Main statements:
* `readsBack_of_candidate?`: what is found on a grid is read back as the value;
* `shortest?_eq_none_iff`: the search ends without digits only if no grid has any.
-/

namespace FiveStage.Binary64

/-- Significant digits as a number, and the power of ten of the last of them. -/
structure Scientific where
  significand : Nat
  exponent : Int
  deriving DecidableEq, Repr

/-- The magnitude that the digits denote. -/
def Scientific.value (d : Scientific) : Binary64 :=
  ofScientific false d.significand d.exponent

/-- The power of ten just above the magnitude of `num / den`: the least `p` with the magnitude below `10 ^ p`. -/
def pointPosition (num den : Nat) : Int :=
  if den ≤ num then (Decimal.digits (num / den)).length
  else
    let n := (Decimal.digits (den / num)).length
    if num * Nat.pow 10 (n - 1) < den then 1 - (n : Int) else 2 - (n : Int)

/-- The two neighbours of a magnitude among the multiples of a power of ten, the nearer one first; of two equally near
ones the even one comes first. -/
def neighbours (num den : Nat) (exponent : Int) : List Scientific :=
  let num := if 0 ≤ exponent then num else num * Nat.pow 10 (-exponent).toNat
  let den := if 0 ≤ exponent then den * Nat.pow 10 exponent.toNat else den
  let q := num / den
  let nearest := Decimal.roundDiv num den
  [⟨nearest, exponent⟩, ⟨if nearest = q then q + 1 else q, exponent⟩]

/-- The first neighbour on a grid that is read back as the magnitude. -/
def candidate? (magnitude : Binary64) (exponent : Int) : Option Scientific :=
  (neighbours magnitude.units one exponent).find? fun d => d.value = magnitude

/-- The digits of the coarsest grid that has a candidate. -/
def shortest? (magnitude : Binary64) : Option Scientific :=
  (List.range 17).findSome? fun n => candidate? magnitude (pointPosition magnitude.units one - (n + 1 : Nat))

theorem readsBack_of_candidate? {magnitude : Binary64} {exponent : Int} {d : Scientific}
    (h : candidate? magnitude exponent = some d) : d.value = magnitude := by
  simpa using List.find?_some h

theorem readsBack_of_shortest? {magnitude : Binary64} {d : Scientific} (h : shortest? magnitude = some d) :
    d.value = magnitude := by
  obtain ⟨n, _, hn⟩ := List.exists_of_findSome?_eq_some h
  exact readsBack_of_candidate? hn

theorem shortest?_eq_none_iff (magnitude : Binary64) :
    shortest? magnitude = none ↔
      ∀ n < 17, candidate? magnitude (pointPosition magnitude.units one - (n + 1 : Nat)) = none := by
  simp [shortest?, List.findSome?_eq_none_iff]

/-! ## Layout -/

/-- The text without the zeros at its end. -/
def dropZeros (cs : List Char) : List Char :=
  (cs.reverse.dropWhile (· = '0')).reverse

/-- Digits around a point that stands after so many of them, filled up with zeros. -/
def positional (digits : List Char) (point : Int) : List Char :=
  if point ≤ 0 then '0' :: '.' :: (List.replicate (-point).toNat '0' ++ digits)
  else
    let whole := digits.take point.toNat
    let fraction := digits.drop point.toNat
    whole ++ List.replicate (point.toNat - digits.length) '0' ++ '.' :: (if fraction.isEmpty then ['0'] else fraction)

/-- One digit, the others after a point, and the power of ten of the first. -/
def exponential (digits : List Char) (exponent : Int) : List Char :=
  let magnitude := Decimal.digits exponent.natAbs
  digits.take 1 ++ (if digits.length ≤ 1 then [] else '.' :: digits.drop 1) ++
    'e' :: (if exponent < 0 then '-' else '+') :: (List.replicate (2 - magnitude.length) '0' ++ magnitude)

/-- The text of significant digits. -/
def Scientific.text (d : Scientific) : List Char :=
  let all := Decimal.digits d.significand
  let point := all.length + d.exponent
  let digits := dropZeros all
  if -4 < point ∧ point ≤ 16 then positional digits point else exponential digits (point - 1)

/-- The shortest text of a value. -/
def text : Binary64 → List Char
  | infinite negative => signText negative ++ "inf".toList
  | finite negative 0 _ => signText negative ++ "0.0".toList
  | finite negative significand shift =>
    let magnitude := finite false significand shift
    match shortest? magnitude with
    | some d => signText negative ++ d.text
    | none => signText negative ++ pointText 1074 (magnitude.inPlaces 1074)

end FiveStage.Binary64
