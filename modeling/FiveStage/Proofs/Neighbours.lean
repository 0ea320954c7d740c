import FiveStage.Hazard
import Mathlib.Data.List.ProdSigma
import Mathlib.Data.Nat.Count

/-!
# Neighbours

What an instruction of a program has to do with the one in front of it: the data hazards between the two, and whether
it has to wait. Only neighbours ever meet in the pipeline closely enough to conflict.

Main statements:
* `needsStall_neighbourHazards`: the hazards between neighbours cause a stall exactly if the later one has to wait;
* `waits_succ_iff`: when that is;
* `between_eq_batch`: the hazards between two instructions, by pairs of operands.
-/

namespace FiveStage

namespace Hazard

/-- An instruction reads a register that another one writes, and the result is not passed on to it. -/
def mustWait (consumer producer : Instruction) (forwarding : Bool) : Bool :=
  consumer.reads.any (producer.writes.contains ·) && !(forwarding && producer.opcode.isAlu)

theorem mustWait_iff {consumer producer : Instruction} {forwarding : Bool} :
    mustWait consumer producer forwarding = true ↔
      (∃ register ∈ consumer.reads, register ∈ producer.writes) ∧
        ¬(forwarding = true ∧ producer.opcode.isAlu = true) := by
  simp only [mustWait, Bool.and_eq_true, List.any_eq_true, List.contains_iff_mem, Bool.not_eq_true']
  rw [← Bool.not_eq_true, Bool.and_eq_true]

/-- The hazard of a branch or jump, noticed in a cycle. -/
def branch (i : Instruction) (prediction : Bool) (cycle : Int) : Hazard where
  type := .control
  subtype := .branch
  instruction1 := i.raw
  instruction2 := ""
  description := "Branch instruction " ++ i.raw ++ " causes control hazard"
  resolved := prediction
  cycle := cycle

/-- A data hazard of an instruction against another one, noticed in a cycle. -/
def conflict (subtype : HazardSubtype) (consumer producer : Instruction) (description : String) (resolved : Bool)
    (cycle : Int) : Hazard where
  type := .data
  subtype := subtype
  instruction1 := producer.raw
  instruction2 := consumer.raw
  description := description
  resolved := resolved
  cycle := cycle

/-- The names that two lists have in common, once for every pair of equal ones. -/
def common (xs ys : List String) : List String :=
  ((xs ×ˢ ys).filter fun p => p.1 = p.2).map (·.1)

/-- A hazard for every pair of equal names, and nothing else. -/
theorem pairs_eq (xs ys : List String) (hazard : String → Hazard) :
    pairs xs ys hazard = (common xs ys).map hazard := by
  induction xs with
  | nil => rfl
  | cons x xs ih =>
    have hhead : (((ys.map (Prod.mk x)).filter fun p => p.1 = p.2).map (·.1)).map hazard =
        (ys.filter (x = ·)).map fun _ => hazard x := by
      rw [List.filter_map, List.map_map, List.map_map]
      rfl
    rw [common, List.product_cons, List.filter_append, List.map_append, List.map_append, hhead, ← common, ← ih]
    rfl

/-- The hazards between two instructions, each once for every pair of operands with the same name: the reads of what is
written, which forwarding resolves if arithmetic has computed it, the writes of what is read, which do no harm, and the
writes of what is written. -/
def batch (consumer producer : Instruction) (forwarding : Bool) (cycle : Int) : List Hazard :=
  (common consumer.reads producer.writes).map (fun register =>
      conflict .raw consumer producer (consumer.raw ++ " reads " ++ register ++ " written by " ++ producer.raw)
        (forwarding && producer.opcode.isAlu) cycle) ++
    (common consumer.writes producer.reads).map (fun register =>
      conflict .war consumer producer (consumer.raw ++ " writes " ++ register ++ " read by " ++ producer.raw)
        true cycle) ++
    (common consumer.writes producer.writes).map (fun register =>
      conflict .waw consumer producer ("Both instructions write to " ++ register) false cycle)

theorem between_eq_batch (consumer producer : Instruction) (forwarding : Bool) (cycle : Int) :
    between consumer producer forwarding cycle = batch consumer producer forwarding cycle := by
  rw [between, pairs_eq, pairs_eq, pairs_eq, batch]
  rfl

theorem any_pairs_of_const {xs ys : List String} {hazard : String → Hazard} {p : Hazard → Bool} {b : Bool}
    (h : ∀ x, p (hazard x) = b) : (pairs xs ys hazard).any p = (b && xs.any (ys.contains ·)) := by
  cases b with
  | false =>
    rw [Bool.false_and, List.any_eq_false]
    intro z hz
    obtain ⟨x, -, hx⟩ := List.mem_flatMap.1 hz
    obtain ⟨-, -, rfl⟩ := List.mem_map.1 hx
    simp [h]
  | true =>
    rw [Bool.true_and, pairs, List.any_flatMap]
    congr 1
    funext x
    rw [List.any_map, Bool.eq_iff_iff, List.any_eq_true, List.contains_iff_mem]
    constructor
    · rintro ⟨y, hy, -⟩
      obtain ⟨hmem, hxy⟩ := List.mem_filter.1 hy
      rw [of_decide_eq_true hxy]
      exact hmem
    · intro hx
      exact ⟨x, List.mem_filter.2 ⟨hx, decide_eq_true rfl⟩, h x⟩

/-- Only reads of what is still on its way cause a stall. -/
theorem needsStall_between (consumer producer : Instruction) (forwarding : Bool) (cycle : Int) :
    needsStall (between consumer producer forwarding cycle) = mustWait consumer producer forwarding := by
  have hraw : ∀ x, stalls (raw consumer producer forwarding cycle x) = !(forwarding && producer.opcode.isAlu) :=
    fun _ => rfl
  have hwar : ∀ x, stalls (war consumer producer cycle x) = false := fun _ => rfl
  have hwaw : ∀ x, stalls (waw consumer producer cycle x) = false := fun _ => rfl
  rw [between, needsStall_append, needsStall_append, needsStall, needsStall, needsStall, any_pairs_of_const hraw,
    any_pairs_of_const hwar, any_pairs_of_const hwaw, mustWait, Bool.false_and, Bool.false_and, Bool.or_false,
    Bool.or_false, Bool.and_comm]

end Hazard

namespace Program

variable (program : List Instruction) (forwarding : Bool)

/-- The data hazards of the instruction at a place against the one in front of it. -/
def neighbourHazards (cycle : Int) : Nat → List Hazard
  | 0 => []
  | j + 1 =>
    match program[j]?, program[j + 1]? with
    | some producer, some consumer => Hazard.batch consumer producer forwarding cycle
    | _, _ => []

/-- The control hazard of the instruction at a place. -/
def branchHazards (prediction : Bool) (cycle : Int) (j : Nat) : List Hazard :=
  match program[j]? with
  | none => []
  | some i => if i.opcode.isControl then [Hazard.branch i prediction cycle] else []

/-- The instruction at a place has to wait for the one in front of it. -/
def waits : Nat → Bool
  | 0 => false
  | j + 1 =>
    match program[j]?, program[j + 1]? with
    | some producer, some consumer => Hazard.mustWait consumer producer forwarding
    | _, _ => false

/-- How many instructions before a place have to wait. -/
def stallsBefore (k : Nat) : Nat :=
  Nat.count (fun j => waits program forwarding j) k

variable {program forwarding}

theorem neighbourHazards_of_length_le (cycle : Int) {j : Nat} (h : program.length ≤ j) :
    neighbourHazards program forwarding cycle j = [] := by
  cases j with
  | zero => rfl
  | succ j =>
    rw [neighbourHazards, List.getElem?_eq_none h]
    cases program[j]? <;> rfl

theorem branchHazards_of_length_le (prediction : Bool) (cycle : Int) {j : Nat} (h : program.length ≤ j) :
    branchHazards program prediction cycle j = [] := by
  rw [branchHazards, List.getElem?_eq_none h]

theorem waits_succ_iff {j : Nat} :
    waits program forwarding (j + 1) = true ↔
      ∃ producer consumer, program[j]? = some producer ∧ program[j + 1]? = some consumer ∧
        (∃ register ∈ consumer.reads, register ∈ producer.writes) ∧
        ¬(forwarding = true ∧ producer.opcode.isAlu = true) := by
  rw [waits]
  cases program[j]? with
  | none => simp
  | some producer =>
    cases program[j + 1]? with
    | none => simp
    | some consumer =>
      constructor
      · intro h
        exact ⟨producer, consumer, rfl, rfl, Hazard.mustWait_iff.1 h⟩
      · rintro ⟨_, _, hp, hc, h⟩
        cases hp
        cases hc
        exact Hazard.mustWait_iff.2 h

theorem waits_of_length_le {j : Nat} (h : program.length ≤ j) : waits program forwarding j = false := by
  cases j with
  | zero => rfl
  | succ j =>
    rw [waits, List.getElem?_eq_none h]
    cases program[j]? <;> rfl

/-- The first instruction has nothing to wait for. -/
theorem pos_of_waits {j : Nat} (h : waits program forwarding j = true) : 0 < j := by
  cases j with
  | zero => cases h
  | succ j => exact Nat.succ_pos j

theorem lt_of_waits {j : Nat} (h : waits program forwarding j = true) : j < program.length := by
  rw [← Nat.not_le]
  intro hle
  rw [waits_of_length_le hle] at h
  cases h

theorem needsStall_neighbourHazards (cycle : Int) (j : Nat) :
    Hazard.needsStall (neighbourHazards program forwarding cycle j) = waits program forwarding j := by
  cases j with
  | zero => rfl
  | succ j =>
    rw [neighbourHazards, waits]
    cases program[j]? with
    | none => rfl
    | some producer =>
      cases program[j + 1]? with
      | none => rfl
      | some consumer =>
        show Hazard.needsStall (Hazard.batch consumer producer forwarding cycle) = _
        rw [← Hazard.between_eq_batch]
        exact Hazard.needsStall_between consumer producer forwarding cycle

/-! ## Counting the stalls -/

theorem stallsBefore_succ (k : Nat) :
    stallsBefore program forwarding (k + 1) =
      stallsBefore program forwarding k + if waits program forwarding k then 1 else 0 :=
  Nat.count_succ ..

theorem stallsBefore_mono {a b : Nat} (h : a ≤ b) :
    stallsBefore program forwarding a ≤ stallsBefore program forwarding b :=
  Nat.count_monotone _ h

theorem stallsBefore_of_length_le {k : Nat} (h : program.length ≤ k) :
    stallsBefore program forwarding k = stallsBefore program forwarding program.length := by
  induction k, h using Nat.le_induction with
  | base => rfl
  | succ k hk ih => rw [stallsBefore_succ, waits_of_length_le hk, ih, if_neg Bool.false_ne_true, Nat.add_zero]

end Program

end FiveStage
