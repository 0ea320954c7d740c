import FiveStage.Proofs.Calls
import FiveStage.Proofs.Clock
import FiveStage.Proofs.Refinement

/-!
# Faults

What can cut a cycle short. Operands are texts that nothing has checked: one that denotes no register counts as zero or
is dropped, and one that is no offset counts as zero. There is one exception, a register number of too many digits. So
a program without such operands never meets with a fault, whatever its texts are, and one that looks up such an operand
to write a result is never completed.

Main statements:
* `RegisterName.readable_iff`: a lookup fails exactly if the number has too many digits;
* `State.InPhase.exists_lookup_of_step_error`: a cycle is cut short only by such a lookup;
* `Engine.performAll_load_ok`: without one, all calls that go on with a program succeed;
* `Engine.exists_run_error`: a program with an instruction that cannot write its result is never completed;
* `Engine.run_error_long_register`: the shortest kind of such a program.
-/

namespace FiveStage

theorem cases_of_bind_eq_error {ε α β : Type} {x : Except ε α} {f : α → Except ε β} {cause : ε}
    (h : x >>= f = .error cause) : x = .error cause ∨ ∃ a, x = .ok a ∧ f a = .error cause := by
  cases x with
  | error e => exact .inl (congrArg Except.error (Except.error.inj h))
  | ok a => exact .inr ⟨a, rfl, h⟩

theorem of_map_eq_error {ε α β : Type} {x : Except ε α} {f : α → β} {cause : ε} (h : x.map f = .error cause) :
    x = .error cause := by
  cases x with
  | error e => exact congrArg Except.error (Except.error.inj h)
  | ok a => cases h

/-! ## Lookups -/

namespace RegisterName

/-- The number that a lookup finds, if any, has no more digits than may be read. -/
def Readable (cs : List Char) : Prop :=
  ∀ digits ∈ number? cs, digits.length ≤ Numeral.digitLimit

instance : DecidablePred Readable := fun cs =>
  inferInstanceAs (Decidable (∀ digits ∈ number? cs, digits.length ≤ Numeral.digitLimit))

/-- A lookup fails exactly if the number that it finds has too many digits. -/
theorem readable_iff {cs : List Char} : Readable cs ↔ ∃ r?, find cs = .ok r? := by
  unfold Readable find
  cases number? cs with
  | none => simp
  | some digits =>
    by_cases hlong : Numeral.digitLimit < digits.length
    · simp [hlong]
    · simp [hlong, Nat.not_lt.1 hlong]

theorem not_readable_iff {cs : List Char} : ¬Readable cs ↔ ∃ cause, find cs = .error cause := by
  rw [readable_iff]
  cases find cs <;> simp

end RegisterName

theorem Opcode.isAlu_or_isMemory_of_writes {op : Opcode} :
    op.semantics.writes ≠ [] → (op.isAlu || op.isMemory) = true := by
  cases op <;> decide

theorem Opcode.reads_of_alu {op : Opcode} : op.semantics.kind = .alu → op.semantics.reads = [1, 2] := by
  cases op <;> decide

theorem Opcode.eq_lw_of_load {op : Opcode} : op.semantics.kind = .load → op = .lw := by
  cases op <;> decide

namespace Instruction

/-- The operands that are looked up as registers when the instruction is done. Branches and jumps look up none. -/
def lookups (i : Instruction) : List String :=
  if i.opcode.isAlu || i.opcode.isMemory then i.reads ++ i.writes else []

/-- All the lookups of the instruction succeed. -/
def Readable (i : Instruction) : Prop :=
  ∀ operand ∈ i.lookups, RegisterName.Readable operand.toList

instance : DecidablePred Readable := fun i =>
  inferInstanceAs (Decidable (∀ operand ∈ i.lookups, RegisterName.Readable operand.toList))

theorem mem_operandsAt {i : Instruction} {positions : List Nat} {position : Nat} {operand : String}
    (hp : position ∈ positions) (ho : i.operands[position]? = some operand) : operand ∈ i.operandsAt positions :=
  List.mem_filterMap.2 ⟨position, hp, ho⟩

theorem mem_lookups {i : Instruction} {position : Nat} {operand : String}
    (hk : (i.opcode.isAlu || i.opcode.isMemory) = true)
    (hp : position ∈ i.opcode.semantics.reads ∨ position ∈ i.opcode.semantics.writes)
    (ho : i.operands[position]? = some operand) : operand ∈ i.lookups := by
  rw [lookups, if_pos hk, List.mem_append]
  exact hp.imp (mem_operandsAt · ho) (mem_operandsAt · ho)

/-- Only arithmetic and loads have a destination. -/
theorem lookups_of_mem_writes {i : Instruction} {operand : String} (h : operand ∈ i.writes) : operand ∈ i.lookups := by
  obtain ⟨position, hp, ho⟩ := List.mem_filterMap.1 h
  exact mem_lookups (Opcode.isAlu_or_isMemory_of_writes (List.ne_nil_of_mem hp)) (.inr hp) ho

end Instruction

namespace Storage

variable {st : Storage} {i : Instruction} {cycle : Int} {cause : RegisterName.TooLong}

/-- An operand is read as the value of a register or as zero, unless its number has too many digits. -/
theorem readable_iff_operandValue (st : Storage) (operand : String) :
    RegisterName.Readable operand.toList ↔
      (∃ r, st.operandValue (some operand) = .ok (st.register r)) ∨ st.operandValue (some operand) = .ok 0 := by
  rw [RegisterName.readable_iff]
  cases hfind : RegisterName.find operand.toList with
  | error cause => simp [operandValue, registerOf, hfind]
  | ok r? =>
    refine iff_of_true ⟨r?, rfl⟩ ?_
    cases r? with
    | none => exact .inr (by simp [operandValue, registerOf, hfind])
    | some r => exact .inl ⟨r, by simp [operandValue, registerOf, hfind]⟩

theorem operandValue_eq_error_iff {operand : String} :
    st.operandValue (some operand) = .error cause ↔ registerOf operand = .error cause := by
  rw [operandValue]
  cases registerOf operand with
  | error e => simp
  | ok r? => cases r? <;> simp

/-- A source that cannot be read is one of the lookups. -/
theorem exists_lookup_of_source_error {position : Nat} (hk : (i.opcode.isAlu || i.opcode.isMemory) = true)
    (hp : position ∈ i.opcode.semantics.reads) (h : st.operandValue i.operands[position]? = .error cause) :
    ∃ operand ∈ i.lookups, registerOf operand = .error cause := by
  cases ho : i.operands[position]? with
  | none =>
    rw [ho] at h
    cases h
  | some operand =>
    rw [ho] at h
    exact ⟨operand, Instruction.mem_lookups hk (.inl hp) ho, operandValue_eq_error_iff.1 h⟩

theorem exists_lookup_of_result_error (h : st.result i = .error cause) :
    ∃ operand ∈ i.lookups, registerOf operand = .error cause := by
  unfold result at h
  split at h
  · rename_i halu
    have hk : i.opcode.isAlu = true := decide_eq_true halu
    have hreads := Opcode.reads_of_alu halu
    have hlookup : (i.opcode.isAlu || i.opcode.isMemory) = true := by rw [hk, Bool.true_or]
    obtain hx | ⟨x, -, hrest⟩ := cases_of_bind_eq_error h
    · exact exists_lookup_of_source_error hlookup (by simp [hreads]) hx
    · obtain hy | ⟨y, -, hcombine⟩ := cases_of_bind_eq_error hrest
      · exact exists_lookup_of_source_error hlookup (by simp [hreads]) hy
      · cases hcombine
  · rename_i hload
    have hop := Opcode.eq_lw_of_load hload
    have hbase := of_map_eq_error (of_map_eq_error h)
    exact exists_lookup_of_source_error (by rw [hop]; rfl) (by simp [hop, Opcode.semantics]) hbase
  · cases h

/-- What keeps an instruction from writing its result is one of its lookups. -/
theorem exists_lookup_of_retire_error (h : st.retire i cycle = .error cause) :
    ∃ operand ∈ i.lookups, registerOf operand = .error cause := by
  obtain hd | ⟨r?, -, hrest⟩ := cases_of_bind_eq_error h
  · unfold destination at hd
    split at hd
    · cases hd
    · rename_i operand _ hwrites
      have hmem : operand ∈ i.writes := by simp [hwrites]
      exact ⟨operand, Instruction.lookups_of_mem_writes hmem, of_map_eq_error hd⟩
  · cases r? with
    | none => cases hrest
    | some r =>
      obtain hvalue | ⟨value, -, hwritten⟩ := cases_of_bind_eq_error hrest
      · exact exists_lookup_of_result_error hvalue
      · cases hwritten

/-- What keeps an instruction from its access to the memory is one of its lookups. -/
theorem exists_lookup_of_access_error (h : st.access i cycle = .error cause) :
    ∃ operand ∈ i.lookups, registerOf operand = .error cause := by
  unfold access at h
  split at h
  · rename_i hop
    have hk : (i.opcode.isAlu || i.opcode.isMemory) = true := by rw [hop]; rfl
    obtain ha | ⟨a, -, hrest⟩ := cases_of_bind_eq_error h
    · exact exists_lookup_of_source_error hk (by simp [hop, Opcode.semantics]) (of_map_eq_error ha)
    · split at hrest
      · cases hrest
      · obtain hvalue | ⟨value, -, hwritten⟩ := cases_of_bind_eq_error hrest
        · exact exists_lookup_of_source_error hk (by simp [hop, Opcode.semantics]) hvalue
        · cases hwritten
  · cases h

/-- An instruction with readable operands writes its result to a register, or the result is dropped. -/
theorem retire_of_readable (st : Storage) (cycle : Int) (h : i.Readable) :
    st.retire i cycle = .ok st ∨ ∃ (r : Fin registerCount) (value : Int),
      st.retire i cycle = .ok { st with registers := st.registers.set r (Cell.write value cycle) r.isLt } := by
  cases hretire : st.retire i cycle with
  | error cause =>
    obtain ⟨operand, ho, hr⟩ := exists_lookup_of_retire_error hretire
    exact absurd (h operand ho) (RegisterName.not_readable_iff.2 ⟨_, hr⟩)
  | ok st' =>
    obtain ⟨-, rfl⟩ | ⟨r, value, -, -, rfl⟩ := retire_cases hretire
    · exact .inl rfl
    · exact .inr ⟨r, value, rfl⟩

/-- An instruction with readable operands writes a word, or leaves the memory alone. -/
theorem access_of_readable (st : Storage) (cycle : Int) (h : i.Readable) :
    st.access i cycle = .ok st ∨ ∃ (w : Fin wordCount) (value : Int),
      st.access i cycle = .ok { st with memory := st.memory.set w (Cell.write value cycle) w.isLt } := by
  cases haccess : st.access i cycle with
  | error cause =>
    obtain ⟨operand, ho, hr⟩ := exists_lookup_of_access_error haccess
    exact absurd (h operand ho) (RegisterName.not_readable_iff.2 ⟨_, hr⟩)
  | ok st' =>
    obtain ⟨-, rfl⟩ | ⟨-, a, -, ⟨-, rfl⟩ | ⟨w, value, -, -, rfl⟩⟩ := access_cases haccess
    · exact .inl rfl
    · exact .inl rfl
    · exact .inr ⟨w, value, rfl⟩

end Storage

/-! ## Cycles -/

namespace State

variable {program : List Instruction} {p q : Phase} {start s t : State} {cause : RegisterName.TooLong}

/-- What is found in a slot is an instruction of the program. -/
theorem mem_codes_of_placed (stage : Stage) {i : Placed} (h : s.placed.get stage = some i) : i.code ∈ s.codes := by
  rw [placed, Pipeline.get_bind, Option.bind_eq_some_iff] at h
  obtain ⟨index, -, hplaced⟩ := h
  obtain ⟨x, hx, rfl⟩ := placed?_eq_some_iff.1 hplaced
  exact List.mem_of_getElem? (by rw [getElem?_codes, hx]; rfl)

theorem exists_lookup_of_writeBack_error (h : s.writeBack = .error cause) :
    ∃ i ∈ s.codes, ∃ operand ∈ i.lookups, registerOf operand = .error cause := by
  unfold writeBack at h
  split at h
  · rename_i index i _ hi
    exact ⟨i.code, mem_codes_of_placed .writeBack hi,
      Storage.exists_lookup_of_retire_error (of_map_eq_error h)⟩
  · cases h

theorem exists_lookup_of_memoryAccess_error (h : s.memoryAccess = .error cause) :
    ∃ i ∈ s.codes, ∃ operand ∈ i.lookups, registerOf operand = .error cause := by
  unfold memoryAccess at h
  split at h
  · cases h
  · rename_i i hi
    exact ⟨i.code, mem_codes_of_placed .memory hi,
      Storage.exists_lookup_of_access_error (of_map_eq_error h)⟩

/-- A cycle is cut short only by a lookup of an instruction of the program. -/
theorem InPhase.exists_lookup_of_step_error (h : s.InPhase program p) {e : Interrupted RegisterName.TooLong State}
    (herror : s.step = .error e) : ∃ i ∈ program, ∃ operand ∈ i.lookups, registerOf operand = .error e.fault := by
  unfold State.step at herror
  split at herror
  · rename_i fault hback
    rw [← Except.error.inj herror, ← h.stands.codes]
    exact exists_lookup_of_writeBack_error hback
  · rename_i retired hretired
    split at herror
    · cases herror
    · dsimp only at herror
      split at herror
      · rename_i fault haccess
        have hcodes : retired.opened.codes = program := (h.writeBack hretired).codes
        rw [← Except.error.inj herror, ← hcodes]
        exact exists_lookup_of_memoryAccess_error haccess
      · cases herror

/-- A run that is cut short is cut short in one of its cycles. -/
theorem Proceeds.exists_step_error_of_run {e : Interrupted RegisterName.TooLong State} {limit : Int}
    (h : start.Proceeds s) (herror : s.run limit = .error e) : ∃ t, start.Proceeds t ∧ t.step = .error e :=
  run_error_induction (Q := fun i => ∃ t, start.Proceeds t ∧ t.step = .error i) (fun _ _ hs hok => hs.step hok)
    (fun s _ hs hcut => ⟨s, hs, hcut⟩) h herror

/-- With readable operands, nothing that becomes of a loaded program is cut short. -/
theorem Proceeds.step_ne_error (h : (s.load program).Proceeds t) (hreadable : ∀ i ∈ program, i.Readable)
    (e : Interrupted RegisterName.TooLong State) : t.step ≠ .error e := by
  intro herror
  obtain ⟨p, hp⟩ := h.inPhase
  obtain ⟨i, hi, operand, ho, hr⟩ := hp.exists_lookup_of_step_error herror
  exact RegisterName.not_readable_iff.2 ⟨_, hr⟩ (hreadable i hi operand ho)

end State

namespace Engine

open State

variable {start : State} {e : Engine State} {calls : List Call}

/-- A call that goes on with a program succeeds, or some cycle is cut short. -/
theorem perform_ok_or_step_error {call : Call} (hcall : call.continues = true) (he : start.Proceeds e.state) :
    (∃ e', e.perform call = .ok e' ∧ start.Proceeds e'.state) ∨ ∃ t i, start.Proceeds t ∧ t.step = .error i := by
  cases call with
  | load text => cases hcall
  | reset => cases hcall
  | applySettings settings => exact .inl ⟨_, rfl, he.applySettings settings⟩
  | step =>
    cases hstep : e.state.step with
    | ok t => exact .inl ⟨_, step_state hstep, he.step hstep⟩
    | error i => exact .inr ⟨e.state, i, he, hstep⟩
  | run limit =>
    cases hrun : e.state.run limit with
    | ok t => exact .inl ⟨_, run_state hrun, he.run hrun⟩
    | error i =>
      obtain ⟨t, ht, hstep⟩ := he.exists_step_error_of_run hrun
      exact .inr ⟨t, i, ht, hstep⟩

theorem performAll_ok_or_step_error (hcalls : ∀ call ∈ calls, call.continues = true) (he : start.Proceeds e.state) :
    (∃ e', performAll calls e = .ok e') ∨ ∃ t i, start.Proceeds t ∧ t.step = .error i := by
  induction calls generalizing e with
  | nil => exact .inl ⟨e, rfl⟩
  | cons call calls ih =>
    obtain ⟨next, hnext, hproceeds⟩ | herror := perform_ok_or_step_error (hcalls call (List.mem_cons_self ..)) he
    · rw [performAll, hnext]
      exact ih (fun c hc => hcalls c (List.mem_cons_of_mem _ hc)) hproceeds
    · exact .inr herror

/-- **Lookups.** An operand is read as the value of a register or as zero exactly if its number, if it has one, can be
read. If that goes for the operands of an instruction, whatever else they are, its result goes to a register or is
dropped, and its access writes a word or none. If it goes for those of a program, all calls that go on with it
succeed. -/
theorem performAll_load_ok (e : Engine State) (text : String) :
    (∀ (st : Storage) (operand : String), RegisterName.Readable operand.toList ↔
      (∃ r, st.operandValue (some operand) = .ok (st.register r)) ∨ st.operandValue (some operand) = .ok 0) ∧
    (∀ (st : Storage) (i : Instruction) (cycle : Int), i.Readable →
      (st.retire i cycle = .ok st ∨ ∃ (r : Fin registerCount) (value : Int),
        st.retire i cycle = .ok { st with registers := st.registers.set r (Cell.write value cycle) r.isLt }) ∧
      (st.access i cycle = .ok st ∨ ∃ (w : Fin wordCount) (value : Int),
        st.access i cycle = .ok { st with memory := st.memory.set w (Cell.write value cycle) w.isLt })) ∧
    ((∀ i ∈ (Program.parse text).instructions, i.Readable) → ∀ calls : List Call,
      (∀ call ∈ calls, call.continues = true) → ∃ e', performAll calls (e.load text) = .ok e') := by
  refine ⟨fun st operand => st.readable_iff_operandValue operand,
    fun st i cycle hi => ⟨st.retire_of_readable cycle hi, st.access_of_readable cycle hi⟩,
    fun hreadable calls hcalls => ?_⟩
  have hproceeds : (e.load text).state.Proceeds (e.load text).state := .refl
  obtain hok | ⟨t, i, ht, hstep⟩ := performAll_ok_or_step_error hcalls hproceeds
  · exact hok
  · exact absurd hstep (ht.step_ne_error hreadable i)

/-- Operands of all kinds that denote no register, no offset or no word: nothing comes of them. -/
theorem performAll_load_ok_odd_operands :
    let text := "LW R1, x(R40)\nADD R2, R, R1\nSW Rz, 0x(r1)\nSUB , R3\nAND R00, R7"
    let e : Engine State := { source := .seeded 0, state := { storage := Storage.zero } }
    (∀ i ∈ (Program.parse text).instructions, ∃ st, e.state.storage.retire i 1 = .ok st) ∧
    ∃ e', performAll [.step, .run 3, .applySettings { forwarding := false }, .run 100] (e.load text) = .ok e' := by
  intro text e
  have hreadable : ∀ i ∈ (Program.parse text).instructions, i.Readable := by
    decide +kernel
  refine ⟨fun i hi => ?_, (performAll_load_ok e text).2.2 hreadable _ (by simp [Call.continues])⟩
  obtain hdropped | ⟨r, value, hwritten⟩ := ((performAll_load_ok e text).2.1 e.state.storage i 1 (hreadable i hi)).1
  · exact ⟨_, hdropped⟩
  · exact ⟨_, hwritten⟩

end Engine

/-! ## Programs that are never completed -/

/-- The instruction cannot write its result, whatever the registers and the memory hold. -/
def Instruction.Stuck (i : Instruction) : Prop :=
  ∀ (st : Storage) (cycle : Int), ∃ cause, st.retire i cycle = .error cause

namespace Storage

variable {st st' : Storage} {i : Instruction} {cycle : Int}

/-- Arithmetic that has a destination reads both of its sources. -/
theorem stuck_of_source (halu : i.opcode.semantics.kind = .alu) {r : Fin registerCount}
    (hd : destination i = .ok (some r)) {position : Nat} (hp : position = 1 ∨ position = 2) {operand : String}
    (ho : i.operands[position]? = some operand) (hunreadable : ¬RegisterName.Readable operand.toList) : i.Stuck := by
  intro st cycle
  have hresult : ∃ cause, st.result i = .error cause := by
    obtain ⟨cause, hfind⟩ := RegisterName.not_readable_iff.1 hunreadable
    have herror : st.operandValue (some operand) = .error cause := operandValue_eq_error_iff.2 hfind
    rw [result, halu]
    cases hx : st.operandValue i.operands[1]? with
    | error cause => exact ⟨cause, rfl⟩
    | ok x =>
      rcases hp with rfl | rfl
      · rw [ho, herror] at hx
        cases hx
      · rw [ho, herror]
        exact ⟨cause, rfl⟩
  obtain ⟨cause, herror⟩ := hresult
  refine ⟨cause, ?_⟩
  rw [retire, hd]
  show (st.result i >>= _) = _
  rw [herror]
  rfl

theorem not_stuck_of_retireSlot {slot : Option Instruction} (h : st.retireSlot slot cycle = .ok st') :
    ∀ i ∈ slot.toList, ¬i.Stuck := by
  intro i hi hstuck
  rw [Option.mem_toList] at hi
  obtain ⟨cause, herror⟩ := hstuck st cycle
  rw [Option.mem_def.1 hi, retireSlot, herror] at h
  cases h

end Storage

namespace Phase

variable {program : List Instruction} {p : Phase} {st st' : Storage} {cycle : Int}

/-- None of the instructions that have retired was stuck. -/
def Unstuck (program : List Instruction) (p : Phase) : Prop :=
  ∀ i ∈ program.take p.retired, ¬i.Stuck

theorem Unstuck.start : ({} : Phase).Unstuck program := by
  simp [Unstuck, retired]

/-- The next instruction to retire is the one in write-back. -/
theorem Unstuck.retire {q : Phase} (h : p.Unstuck program) (hfits : p.Fits program.length)
    (hq : q.retired = (p.next false).retired)
    (hok : st.retireSlot ((p.pipeline program.length).writeBack.bind (program[·]?)) cycle = .ok st') :
    q.Unstuck program := by
  intro i hi
  rw [hq, ← p.take_retired_append hfits, List.mem_append] at hi
  rcases hi with hpassed | hlast
  · exact h i hpassed
  · exact Storage.not_stuck_of_retireSlot hok i hlast

end Phase

namespace State

variable {program : List Instruction} {forwarding prediction : Bool} {p : Phase} {s t : State}

theorem OnTime.unstuck_settle (hs : s.OnTime program forwarding prediction p) (h : p.Unstuck program)
    (hr : p.Rests program.length) (hsettles : Settles program p s t) : p.rested.Unstuck program :=
  h.retire hs.inPhase.fits (Phase.retired_rested (hs.inPhase.fits.bubble_ne_memory hr)) hsettles.storage

theorem OnTime.unstuck_tick {stall : Bool} (hs : s.OnTime program forwarding prediction p) (h : p.Unstuck program)
    (hticks : Ticks program p (p.next stall) s t) : (p.next stall).Unstuck program := by
  obtain ⟨_, _, hretired, -⟩ := hticks.storage
  exact h.retire hs.inPhase.fits (Phase.retired_next p stall) hretired

/-- A run that is not cut short retires no stuck instruction. -/
theorem OnTime.exists_unstuck_of_run {limit : Int} (h : s.OnTime program forwarding prediction p)
    (hp : p.Unstuck program) (hok : s.run limit = .ok t) :
    ∃ q, t.OnTime program forwarding prediction q ∧ q.Unstuck program :=
  OnTime.run_induction (R := fun p _ => p.Unstuck program)
    (fun _ _ _ hs hp hr hsettles => hs.unstuck_settle hp hr hsettles)
    (fun _ _ _ hs hp _ hticks => hs.unstuck_tick hp hticks) h hp hok

end State

namespace Engine

open Program State

/-- A program with a stuck instruction is never completed, so a run that has the time for it is cut short. -/
theorem exists_run_error (e : Engine State) {text : String} {limit : Int} {i : Instruction}
    (hi : i ∈ (parse text).instructions) (hstuck : i.Stuck)
    (hlimit : ((parse text).instructions.length + 4 +
      stallsBefore (parse text).instructions e.state.forwarding (parse text).instructions.length : Int) < limit) :
    ∃ cause e', (e.load text).run limit = .error ⟨.register cause, e'⟩ := by
  cases hrun : (e.load text).state.run limit with
  | error interrupted =>
    refine ⟨interrupted.fault, { e.load text with state := interrupted.state }, ?_⟩
    rw [Engine.run, hrun, updateState]
  | ok t =>
    have hload := OnTime.load e.state (parse text).instructions
    obtain ⟨q, hq, hunstuck⟩ := hload.exists_unstuck_of_run Phase.Unstuck.start hrun
    have hclock := hq.cycle
    have hbound := hq.clock_le
    have hcomplete : t.isComplete = true := by
      refine (hload.inPhase.run_stops hrun).resolve_right ?_
      omega
    have hall : (parse text).instructions.take q.retired = (parse text).instructions := by
      rw [← hq.inPhase.completedCodes_eq]
      exact hq.inPhase.completedCodes_of_isComplete hcomplete
    exact absurd hstuck (hunstuck i (by rwa [hall]))

/-- A register name of one digit more than may be read. -/
def longRegister : List Char :=
  'R' :: List.replicate (Numeral.digitLimit + 1) '9'

theorem not_readable_longRegister : ¬RegisterName.Readable longRegister := by
  decide +kernel

/-- A line of arithmetic that reads such a register. -/
def longRegisterLine : List Char :=
  "ADD R1,".toList ++ longRegister

/-- What the line is read as. -/
def longRegisterInstruction : Instruction :=
  ⟨"0", baseAddress, .add, [['R', '1'], longRegister].map String.ofList, String.ofList longRegisterLine⟩

set_option maxRecDepth 100000 in
theorem parseLine_longRegisterLine :
    parseLine longRegisterLine baseAddress "0" = .ok longRegisterInstruction := by
  have hclean : stripComment longRegisterLine = longRegisterLine := by
    decide +kernel
  have hwords : Text.words longRegisterLine = [['A', 'D', 'D'], "R1,".toList ++ longRegister] := by
    decide +kernel
  have hopcode : Opcode.ofToken? ['A', 'D', 'D'] = some .add := by
    decide +kernel
  have hoperands : parseOperands ("R1,".toList ++ longRegister) .add = [['R', '1'], longRegister] := by
    decide +kernel
  unfold parseLine
  simp only [hclean, hwords, hopcode, List.isEmpty_cons, Bool.false_eq_true, if_false, Text.join, hoperands]
  rfl

set_option maxRecDepth 100000 in
theorem parse_longRegisterLine :
    (parse (String.ofList longRegisterLine)).instructions = [longRegisterInstruction] := by
  have hlines : sourceLines longRegisterLine = [longRegisterLine] := by
    decide +kernel
  rw [parse, String.toList_ofList, hlines, parseLines, show toString 0 = "0" from rfl, parseLine_longRegisterLine]
  rfl

theorem stuck_longRegisterInstruction : longRegisterInstruction.Stuck := by
  refine Storage.stuck_of_source rfl (r := 1) ?_ (.inl rfl) rfl ?_
  · decide +kernel
  · rw [String.toList_ofList]
    exact not_readable_longRegister

/-- A register number of one digit more than may be read cuts a run short. -/
theorem run_error_long_register :
    let e : Engine State := { source := .seeded 0, state := { storage := Storage.zero } }
    ∃ cause e', performAll [.run 100] (e.load (String.ofList longRegisterLine)) = .error ⟨.register cause, e'⟩ := by
  intro e
  have hmem : longRegisterInstruction ∈ (parse (String.ofList longRegisterLine)).instructions := by
    rw [parse_longRegisterLine]
    exact List.mem_singleton_self _
  have htime : ((parse (String.ofList longRegisterLine)).instructions.length + 4 +
      stallsBefore (parse (String.ofList longRegisterLine)).instructions e.state.forwarding
        (parse (String.ofList longRegisterLine)).instructions.length : Int) < 100 := by
    rw [parse_longRegisterLine]
    decide +kernel
  obtain ⟨cause, e', hrun⟩ := exists_run_error e hmem stuck_longRegisterInstruction htime
  refine ⟨cause, e', ?_⟩
  rw [performAll, perform, hrun]

end Engine

end FiveStage
