import FiveStage.MersenneTwister
import FiveStage.State.Basic

/-!
# Initial storage

Register R0 starts with zero; the other registers and then the words of the memory are drawn from a generator.

Main statement: `register_zero_ofSeed`, by which R0 is zero whatever the seed.
-/

namespace FiveStage.Storage

/-- The bound of the numbers that registers start with. -/
def registerBound : Nat := 0x1000

/-- The bound of the numbers that words start with. -/
def wordBound : Nat := 0xFFFFFFFF

/-- So many numbers drawn below a bound, in order. -/
def draws : Nat → Nat → MersenneTwister → List Nat × MersenneTwister
  | 0, _, g => ([], g)
  | count + 1, bound, g =>
    let (n, g) := g.below bound
    let (ns, g) := draws count bound g
    (n :: ns, g)

/-- The storage with numbers for the registers from R1 on, and for the words. -/
def ofNumbers (registers words : List Nat) : Storage :=
  { registers := Vector.ofFn fun r => { value := if r.val = 0 then 0 else registers[r.val - 1]?.getD 0 }
    memory := Vector.ofFn fun w => { value := words[w.val]?.getD 0 } }

/-- The storage that a seed gives. -/
def ofSeed (seed : Int) : Storage :=
  let registers := draws (registerCount - 1) registerBound (MersenneTwister.ofSeed seed)
  ofNumbers registers.1 (draws wordCount wordBound registers.2).1

theorem register_zero_ofNumbers (registers words : List Nat) : (ofNumbers registers words).register 0 = 0 := by
  simp [ofNumbers, register]

theorem register_zero_ofSeed (seed : Int) : (ofSeed seed).register 0 = 0 :=
  register_zero_ofNumbers ..

/-- Where the storage of an engine comes from: a seed, or a number that stands for chance and changes with every
use. -/
inductive Source
  | seeded (seed : Int)
  | chance (number : Nat)
  deriving DecidableEq, Repr

/-- The storage that a source gives. -/
def Source.storage : Source → Storage
  | seeded seed => ofSeed seed
  | chance number => ofSeed number

/-- The source of the next storage. -/
def Source.next : Source → Source
  | seeded seed => seeded seed
  | chance number => chance (number + 1)

end FiveStage.Storage
