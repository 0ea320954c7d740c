/-!
# The Mersenne twister

The generator MT19937 of 32-bit words, seeded by an integer of any size.

Main statement: `below_lt`, by which a number drawn below a bound is below it.
-/

namespace FiveStage

/-- The generator: its 624 words of state, and how many of them are used up. -/
structure MersenneTwister where
  words : Vector UInt32 624
  used : Nat

namespace MersenneTwister

/-! ## Seeding -/

/-- A word with its two highest bits mixed into its two lowest. -/
def fold (w : UInt32) : UInt32 :=
  w ^^^ (w >>> 30)

/-- The words grown from a single word. -/
def ofWord (seed : UInt32) : Vector UInt32 624 :=
  Fin.foldl 623 (fun words i =>
    let last := words[i.castSucc]
    words.set i.succ (1812433253 * fold last + UInt32.ofNat i.succ)) (Vector.replicate 624 seed)

/-- Where seeding stands: the words, the place of the next one, and the place in the key. -/
structure Seeding where
  words : Vector UInt32 624
  place : Fin 624
  keyPlace : Nat

/-- One step of seeding: the word at the place is mixed with its predecessor, and the place moves on. Behind the last
place comes the second one, and the last word is copied to the first place. -/
def Seeding.mix (s : Seeding) (combine : UInt32 → UInt32 → UInt32) (keyLength : Nat) : Seeding :=
  let words := s.words.set s.place (combine s.words[s.place] (fold s.words[s.place - 1]))
  let keyPlace := if s.keyPlace + 1 < keyLength then s.keyPlace + 1 else 0
  if s.place = 623 then ⟨words.set 0 words[(623 : Fin 624)], 1, keyPlace⟩ else ⟨words, s.place + 1, keyPlace⟩

/-- Mixes in the key, as often as there are words or key words, whichever are more. -/
def mixKey (key : List UInt32) (s : Seeding) : Seeding :=
  (max 624 key.length).fold (fun _ _ s =>
    s.mix (fun w p => (w ^^^ (p * 1664525)) + key[s.keyPlace]?.getD 0 + UInt32.ofNat s.keyPlace) key.length) s

/-- Mixes the words once more, without the key. -/
def mixPlaces (s : Seeding) : Seeding :=
  Nat.fold 623 (fun _ _ s => s.mix (fun w p => (w ^^^ (p * 1566083941)) - UInt32.ofNat s.place) 1) s

/-- The generator for a key. -/
def ofKey (key : List UInt32) : MersenneTwister :=
  let s := mixPlaces (mixKey key ⟨ofWord 19650218, 1, 0⟩)
  ⟨s.words.set 0 0x80000000, 624⟩

/-- The 32-bit digits of a number, the lowest first, so many at most. -/
def keyDigits : Nat → Nat → List UInt32
  | 0, _ => []
  | bound + 1, n => UInt32.ofNat n :: if n < Nat.pow 2 32 then [] else keyDigits bound (n / Nat.pow 2 32)

/-- The generator for a seed. The sign of the seed does not matter. -/
def ofSeed (seed : Int) : MersenneTwister :=
  ofKey (keyDigits (seed.natAbs.log2 / 32 + 1) seed.natAbs)

/-! ## Drawing -/

/-- Replaces all words. -/
def regenerate (words : Vector UInt32 624) : Vector UInt32 624 :=
  Fin.foldl 624 (fun words i =>
    let y := (words[i] &&& 0x80000000) ||| (words[i + 1] &&& 0x7FFFFFFF)
    words.set i (words[i + 397] ^^^ (y >>> 1) ^^^ (if y &&& 1 = 0 then 0 else 0x9908B0DF))) words

/-- Spreads the bits of a word. -/
def temper (w : UInt32) : UInt32 :=
  let w := w ^^^ (w >>> 11)
  let w := w ^^^ ((w <<< 7) &&& 0x9D2C5680)
  let w := w ^^^ ((w <<< 15) &&& 0xEFC60000)
  w ^^^ (w >>> 18)

/-- The next word. -/
def next (g : MersenneTwister) : UInt32 × MersenneTwister :=
  if h : g.used < 624 then (temper g.words[g.used], { g with used := g.used + 1 })
  else
    let words := regenerate g.words
    (temper words[0], ⟨words, 1⟩)

/-- The next number of so many bits, at most 32: the highest bits of the next word. -/
def bits (g : MersenneTwister) (count : Nat) : Nat × MersenneTwister :=
  let (w, g) := g.next
  (w.toNat >>> (32 - count), g)

/-- Draws numbers with as many bits as a bound until one is below it, so many times at most. -/
def belowWithin : Nat → Nat → MersenneTwister → Nat × MersenneTwister
  | 0, _, g => (0, g)
  | tries + 1, bound, g =>
    let (n, g) := g.bits (bound.log2 + 1)
    if n < bound then (n, g) else belowWithin tries bound g

/-- A number below a positive bound of at most 32 bits. The highest bits of the words are a recurring sequence of order
19937 that does not become constant, so no more draws than that can fail in a row. -/
def below (bound : Nat) (g : MersenneTwister) : Nat × MersenneTwister :=
  belowWithin 19938 bound g

theorem belowWithin_lt (tries : Nat) {bound : Nat} (h : 0 < bound) (g : MersenneTwister) :
    (belowWithin tries bound g).1 < bound := by
  induction tries generalizing g with
  | zero => exact h
  | succ tries ih =>
    simp only [belowWithin]
    split
    · assumption
    · exact ih _

theorem below_lt {bound : Nat} (h : 0 < bound) (g : MersenneTwister) : (below bound g).1 < bound :=
  belowWithin_lt _ h g

end MersenneTwister

end FiveStage
