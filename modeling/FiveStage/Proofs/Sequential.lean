import FiveStage.Proofs.Stages
import Mathlib.Data.Int.Bitwise
import Mathlib.Logic.Function.Basic

/-!
# Sequential execution

What a program means without a pipeline: its instructions are executed one at a time in the order of the program, on
nothing but the values of the registers and words. Branches and jumps fall through. An operand that denotes no register
counts as zero as a source and is dropped as a destination; so is R0. Nothing here is computed as the machine computes
it: conjunction and disjunction are those of Mathlib, and a word of the memory is told by where it stands.

Main statements:
* `conj_eq_land`, `disj_eq_lor`: the machine computes conjunction and disjunction;
* `values_of_retire`: an instruction that retires writes what sequential execution writes to the registers, also if it
  has already stored to the memory;
* `values_of_access`: an instruction that accesses the memory does to it what sequential execution does.
-/

namespace FiveStage

/-! ## Bits -/

namespace Bitwise

theorem without_eq_ldiff (m n : Nat) : without m n = Nat.ldiff m n :=
  Nat.eq_of_testBit_eq fun k => by rw [testBit_without, Nat.testBit_ldiff]

theorem conj_eq_land (x y : Int) : conj x y = Int.land x y := by
  cases x <;> cases y <;> simp only [conj, Int.land, without_eq_ldiff, Int.ofNat_eq_natCast]

theorem disj_eq_lor (x y : Int) : disj x y = Int.lor x y := by
  cases x <;> cases y <;> simp only [disj, Int.lor, without_eq_ldiff, Int.ofNat_eq_natCast]

end Bitwise

/-! ## Values -/

/-- The values of the registers and of the words of the memory. -/
structure Values where
  registers : Fin registerCount → Int
  words : Fin wordCount → Int

namespace Values

/-- The register that the operand at a position denotes, if any. -/
def register? (i : Instruction) (position : Nat) : Option (Fin registerCount) :=
  i.operands[position]?.bind fun operand => (registerOf operand).toOption.join

variable (v : Values)

/-- The value of the operand at a position as a source. -/
def source (i : Instruction) (position : Nat) : Int :=
  match register? i position with
  | some r => v.registers r
  | none => 0

/-- The base in the third operand and the offset in the second. -/
def address (i : Instruction) : Int :=
  v.source i 2 + match i.operands[1]? with
    | some text => offsetValue text
    | none => 0

/-- The values after a value has been written to a register, if there is one and it is not R0. -/
def write (r? : Option (Fin registerCount)) (value : Int) : Values :=
  match r? with
  | some r => if r.val = 0 then v else { v with registers := Function.update v.registers r value }
  | none => v

/-- The word stands at the address: the first one at 0x10000000, and each one four bytes behind the one before. -/
def standsAt (a : Int) (w : Fin wordCount) : Bool :=
  a = 0x10000000 + 4 * w.val

/-- The value of the word that stands at an address, or zero if none does. -/
def load (a : Int) : Int :=
  match (List.finRange wordCount).find? (standsAt a) with
  | some w => v.words w
  | none => 0

/-- The values after a value has been stored to the word that stands at an address, if one does. -/
def store (a value : Int) : Values :=
  { v with words := fun w => if standsAt a w then value else v.words w }

/-- The values after an instruction. -/
def execute (i : Instruction) : Values :=
  match i.opcode with
  | .add => v.write (register? i 0) (v.source i 1 + v.source i 2)
  | .sub => v.write (register? i 0) (v.source i 1 - v.source i 2)
  | .and => v.write (register? i 0) (Int.land (v.source i 1) (v.source i 2))
  | .or => v.write (register? i 0) (Int.lor (v.source i 1) (v.source i 2))
  | .lw => v.write (register? i 0) (v.load (v.address i))
  | .sw => v.store (v.address i) (v.source i 0)
  | .beq | .bne | .j | .nop => v

/-- The values after a program. -/
def run (program : List Instruction) : Values :=
  program.foldl execute v

/-- The values that a storage holds. -/
def ofStorage (st : Storage) : Values :=
  ⟨st.register, st.word⟩

theorem run_append (a b : List Instruction) : v.run (a ++ b) = (v.run a).run b :=
  List.foldl_append

/-! ## What an instruction leaves alone -/

theorem words_write (r? : Option (Fin registerCount)) (value : Int) : (v.write r? value).words = v.words := by
  unfold write
  split
  · split <;> rfl
  · rfl

theorem registers_store (a value : Int) : (v.store a value).registers = v.registers := rfl

/-- Only stores change the memory. -/
theorem words_execute {i : Instruction} (h : i.opcode ≠ .sw) : (v.execute i).words = v.words := by
  cases ho : i.opcode with
  | add => rw [execute, ho]; exact words_write ..
  | sub => rw [execute, ho]; exact words_write ..
  | and => rw [execute, ho]; exact words_write ..
  | or => rw [execute, ho]; exact words_write ..
  | lw => rw [execute, ho]; exact words_write ..
  | sw => exact absurd ho h
  | beq => rw [execute, ho]
  | bne => rw [execute, ho]
  | j => rw [execute, ho]
  | nop => rw [execute, ho]

/-- Stores do not change the registers. -/
theorem registers_execute_of_sw {i : Instruction} (h : i.opcode = .sw) : (v.execute i).registers = v.registers := by
  rw [execute, h]
  exact registers_store ..

/-- That an instruction has already accessed the memory makes no difference to the registers. -/
theorem registers_execute_after_access (i : Instruction) :
    ((Values.mk v.registers (v.execute i).words).execute i).registers = (v.execute i).registers := by
  by_cases h : i.opcode = .sw
  · rw [registers_execute_of_sw _ h, registers_execute_of_sw _ h]
  · rw [words_execute v h]

/-! ## Words -/

theorem standsAt_iff {a : Int} {w : Fin wordCount} : standsAt a w = true ↔ wordAt? a = some w := by
  rw [wordAt?_eq_some_iff, standsAt, decide_eq_true_iff, FiveStage.address, memoryBase, Program.wordSize]
  omega

theorem find?_standsAt (a : Int) : (List.finRange wordCount).find? (standsAt a) = wordAt? a := by
  unfold wordAt?
  congr 1
  funext w
  rw [Bool.eq_iff_iff, standsAt_iff, wordAt?_eq_some_iff, decide_eq_true_iff]

theorem store_of_wordAt?_eq_none {a : Int} (h : wordAt? a = none) (value : Int) : v.store a value = v := by
  have hwords : (fun w => if standsAt a w then value else v.words w) = v.words := by
    funext w
    exact if_neg fun hw => by simp [standsAt_iff, h] at hw
  rw [store, hwords]

theorem store_of_wordAt?_eq_some {a : Int} {w : Fin wordCount} (h : wordAt? a = some w) (value : Int) :
    v.store a value = { v with words := Function.update v.words w value } := by
  have hwords : (fun u => if standsAt a u then value else v.words u) = Function.update v.words w value := by
    funext u
    have hstands : standsAt a u = true ↔ u = w := by
      rw [standsAt_iff, h, Option.some.injEq, eq_comm]
    simp only [hstands, Function.update_apply]
  rw [store, hwords]

/-! ## What an instruction writes -/

theorem write_of_filter_eq_none {r? : Option (Fin registerCount)} (h : r?.filter (0 < ·.val) = none) (value : Int) :
    v.write r? value = v := by
  cases r? with
  | none => rfl
  | some r =>
    have hr : r.val = 0 := by
      rw [Option.filter_eq_none_iff] at h
      have := h r rfl
      simp at this
      exact congrArg Fin.val this
    rw [write, if_pos hr]

theorem write_of_filter_eq_some {r? : Option (Fin registerCount)} {r : Fin registerCount}
    (h : r?.filter (0 < ·.val) = some r) (value : Int) :
    v.write r? value = { v with registers := Function.update v.registers r value } := by
  obtain ⟨rfl, hr⟩ := Option.filter_eq_some_iff.1 h
  rw [write, if_neg (by simp at hr; omega)]

/-- An instruction with a destination changes nothing else. -/
theorem exists_execute_eq_write {i : Instruction} (h : i.opcode.semantics.writes = [0]) :
    ∃ value, v.execute i = v.write (register? i 0) value := by
  unfold execute
  cases ho : i.opcode with
  | add => exact ⟨_, rfl⟩
  | sub => exact ⟨_, rfl⟩
  | and => exact ⟨_, rfl⟩
  | or => exact ⟨_, rfl⟩
  | lw => exact ⟨_, rfl⟩
  | sw => rw [ho] at h; cases h
  | beq => rw [ho] at h; cases h
  | bne => rw [ho] at h; cases h
  | j => rw [ho] at h; cases h
  | nop => rw [ho] at h; cases h

/-- An instruction without a destination leaves the registers alone. -/
theorem registers_execute_of_writes_eq_nil {i : Instruction} (h : i.opcode.semantics.writes = []) :
    (v.execute i).registers = v.registers := by
  cases ho : i.opcode with
  | sw => exact registers_execute_of_sw v ho
  | beq => rw [execute, ho]
  | bne => rw [execute, ho]
  | j => rw [execute, ho]
  | nop => rw [execute, ho]
  | add => rw [ho] at h; cases h
  | sub => rw [ho] at h; cases h
  | and => rw [ho] at h; cases h
  | or => rw [ho] at h; cases h
  | lw => rw [ho] at h; cases h

end Values

namespace Storage

variable {st st' : Storage} {i : Instruction}

open Values

theorem operandValue_eq {position : Nat} {x : Int} (h : st.operandValue i.operands[position]? = .ok x) :
    x = (ofStorage st).source i position := by
  unfold source register?
  cases ho : i.operands[position]? with
  | none =>
    rw [ho] at h
    exact (Except.ok.inj h).symm
  | some operand =>
    rw [ho, operandValue] at h
    rw [Option.bind_some]
    cases hr : registerOf operand with
    | error e =>
      rw [hr] at h
      cases h
    | ok r? =>
      rw [hr] at h
      cases r? <;> exact (Except.ok.inj h).symm

theorem dataAddress_eq {a : Int} (h : st.dataAddress i = .ok a) : a = (ofStorage st).address i := by
  obtain ⟨base, hbase, rfl⟩ := exists_of_map_eq_ok h
  rw [Values.address, operandValue_eq hbase]
  cases i.operands[1]? <;> rfl

/-- The sources of an arithmetic instruction are read before anything is computed. -/
theorem result_of_alu {value : Int} (ha : i.opcode.semantics.kind = .alu) (h : st.result i = .ok value) :
    value = combine i.opcode ((ofStorage st).source i 1) ((ofStorage st).source i 2) := by
  rw [result, ha] at h
  obtain ⟨x, hx, hrest⟩ := exists_of_bind_eq_ok h
  obtain ⟨y, hy, hcombine⟩ := exists_of_bind_eq_ok hrest
  rw [← operandValue_eq hx, ← operandValue_eq hy]
  exact (Except.ok.inj hcombine).symm

theorem result_of_load {value : Int} (hl : i.opcode.semantics.kind = .load) (h : st.result i = .ok value) :
    value = (ofStorage st).load ((ofStorage st).address i) := by
  rw [result, hl] at h
  obtain ⟨a, ha, rfl⟩ := exists_of_map_eq_ok h
  rw [← dataAddress_eq ha, Values.load, find?_standsAt]
  rfl

/-- The result of an instruction is what sequential execution writes. -/
theorem execute_eq_write {value : Int} (hw : i.opcode.semantics.writes = [0]) (h : st.result i = .ok value) :
    (ofStorage st).execute i = (ofStorage st).write (register? i 0) value := by
  cases ho : i.opcode with
  | add => rw [result_of_alu (by rw [ho]; rfl) h, ho, execute, ho]; rfl
  | sub => rw [result_of_alu (by rw [ho]; rfl) h, ho, execute, ho]; rfl
  | and => rw [result_of_alu (by rw [ho]; rfl) h, ho, execute, ho, combine, Bitwise.conj_eq_land]
  | or => rw [result_of_alu (by rw [ho]; rfl) h, ho, execute, ho, combine, Bitwise.disj_eq_lor]
  | lw => rw [result_of_load (by rw [ho]; rfl) h, execute, ho]
  | sw => rw [ho] at hw; cases hw
  | beq => rw [ho] at hw; cases hw
  | bne => rw [ho] at hw; cases hw
  | j => rw [ho] at hw; cases hw
  | nop => rw [ho] at hw; cases hw

theorem destination_of_writes_eq_nil (hw : i.opcode.semantics.writes = []) : destination i = .ok none := by
  have hwrites : i.writes = [] := by
    rw [Instruction.writes, hw]
    rfl
  rw [destination, hwrites]

theorem destination_eq {r? : Option (Fin registerCount)} (hw : i.opcode.semantics.writes = [0])
    (h : destination i = .ok r?) : r? = (register? i 0).filter (0 < ·.val) := by
  have hwrites : i.writes = i.operands[0]?.toList := by
    rw [Instruction.writes, hw, Instruction.operandsAt]
    cases ho : i.operands[0]? <;> simp [ho]
  unfold destination at h
  rw [hwrites] at h
  unfold register?
  cases ho : i.operands[0]? with
  | none =>
    rw [ho] at h
    exact (Except.ok.inj h).symm
  | some operand =>
    rw [ho] at h
    obtain ⟨found, hfound, rfl⟩ := exists_of_map_eq_ok h
    rw [Option.bind_some, hfound]
    rfl

/-- A retiring instruction has no destination, or its result is written to it. -/
theorem retire_cases {cycle : Int} (h : st.retire i cycle = .ok st') :
    destination i = .ok none ∧ st' = st ∨
      ∃ r value, destination i = .ok (some r) ∧ st.result i = .ok value ∧
        st' = { st with registers := st.registers.set r (Cell.write value cycle) r.isLt } := by
  obtain ⟨r?, hd, hrest⟩ := exists_of_bind_eq_ok h
  cases r? with
  | none => exact .inl ⟨hd, (Except.ok.inj hrest).symm⟩
  | some r =>
    obtain ⟨value, hvalue, hwritten⟩ := exists_of_bind_eq_ok hrest
    exact .inr ⟨r, value, hd, hvalue, (Except.ok.inj hwritten).symm⟩

/-- An instruction has one destination or none. -/
theorem writes_cases (i : Instruction) : i.opcode.semantics.writes = [] ∨ i.opcode.semantics.writes = [0] := by
  cases i.opcode <;> simp [Opcode.semantics]

/-- A cell that is written has the new value, and the others keep theirs. -/
theorem value_set {n : Nat} (cells : Vector Cell n) (k : Fin n) (value cycle : Int) :
    (fun q : Fin n => (cells.set k (Cell.write value cycle) k.isLt)[q].value) =
      Function.update (fun q : Fin n => cells[q].value) k value := by
  funext q
  by_cases hq : q = k
  · subst hq
    simp [Cell.write]
  · have hne : k.val ≠ q.val := fun h => hq (Fin.ext h.symm)
    rw [Function.update_of_ne hq, Fin.getElem_fin, Vector.getElem_set_ne _ _ hne]
    rfl

theorem ofStorage_setRegister (r : Fin registerCount) (value cycle : Int) :
    ofStorage { st with registers := st.registers.set r (Cell.write value cycle) r.isLt } =
      { ofStorage st with registers := Function.update (ofStorage st).registers r value } :=
  congrArg (Values.mk · st.word) (value_set st.registers r value cycle)

theorem ofStorage_setWord (w : Fin wordCount) (value cycle : Int) :
    ofStorage { st with memory := st.memory.set w (Cell.write value cycle) w.isLt } =
      { ofStorage st with words := Function.update (ofStorage st).words w value } :=
  congrArg (Values.mk st.register) (value_set st.memory w value cycle)

/-- An instruction that retires changes the registers as it does in sequential execution, and nothing else. -/
theorem values_of_retire {cycle : Int} (h : st.retire i cycle = .ok st') :
    ofStorage st' = { ofStorage st with registers := ((ofStorage st).execute i).registers } := by
  rcases writes_cases i with hw | hw
  · rw [registers_execute_of_writes_eq_nil _ hw]
    obtain ⟨-, rfl⟩ | ⟨r, value, hd, -⟩ := retire_cases h
    · rfl
    · rw [destination_of_writes_eq_nil hw] at hd
      cases hd
  · obtain ⟨hd, rfl⟩ | ⟨r, value, hd, hvalue, rfl⟩ := retire_cases h
    · obtain ⟨value, hexecute⟩ := exists_execute_eq_write (ofStorage st') hw
      rw [hexecute, write_of_filter_eq_none _ (destination_eq hw hd).symm]
    · rw [execute_eq_write hw hvalue, write_of_filter_eq_some _ (destination_eq hw hd).symm, ofStorage_setRegister]

/-- An instruction that accesses the memory is no store, or its address has no word, or the word is written. -/
theorem access_cases {cycle : Int} (h : st.access i cycle = .ok st') :
    i.opcode ≠ .sw ∧ st' = st ∨
      i.opcode = .sw ∧ ∃ a, st.dataAddress i = .ok a ∧
        (wordAt? a = none ∧ st' = st ∨
          ∃ w value, wordAt? a = some w ∧ st.operandValue i.operands[0]? = .ok value ∧
            st' = { st with memory := st.memory.set w (Cell.write value cycle) w.isLt }) := by
  unfold access at h
  split at h
  · rename_i ho
    obtain ⟨a, ha, hrest⟩ := exists_of_bind_eq_ok h
    refine .inr ⟨ho, a, ha, ?_⟩
    cases hw : wordAt? a with
    | none =>
      rw [hw] at hrest
      exact .inl ⟨rfl, (Except.ok.inj hrest).symm⟩
    | some w =>
      rw [hw] at hrest
      obtain ⟨value, hvalue, hwritten⟩ := exists_of_bind_eq_ok hrest
      exact .inr ⟨w, value, rfl, hvalue, (Except.ok.inj hwritten).symm⟩
  · rename_i ho
    exact .inl ⟨ho, (Except.ok.inj h).symm⟩

/-- An instruction that accesses the memory changes the words as it does in sequential execution, and nothing else. -/
theorem values_of_access {cycle : Int} (h : st.access i cycle = .ok st') :
    ofStorage st' = { ofStorage st with words := ((ofStorage st).execute i).words } := by
  obtain ⟨ho, rfl⟩ | ⟨ho, a, ha, hcases⟩ := access_cases h
  · rw [words_execute _ ho]
  · rw [execute, ho]
    dsimp only
    rw [← dataAddress_eq ha]
    obtain ⟨hw, rfl⟩ | ⟨w, value, hw, hvalue, rfl⟩ := hcases
    · rw [store_of_wordAt?_eq_none _ hw]
    · rw [store_of_wordAt?_eq_some _ hw, ← operandValue_eq hvalue, ofStorage_setWord]

/-- Growing old changes no value. -/
theorem values_of_age (st : Storage) (cycle : Int) : ofStorage (st.age cycle) = ofStorage st := by
  have hcell : ∀ c : Cell, (c.age cycle).value = c.value := by
    intro c
    unfold Cell.age
    split <;> rfl
  have hregisters : (st.age cycle).register = st.register := by
    funext r
    simp [register, age, hcell]
  have hwords : (st.age cycle).word = st.word := by
    funext w
    simp [word, age, hcell]
  rw [ofStorage, ofStorage, hregisters, hwords]

end Storage

end FiveStage
