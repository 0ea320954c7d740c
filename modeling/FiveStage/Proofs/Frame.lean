import FiveStage.Proofs.Calls
import FiveStage.Proofs.Sequential
import FiveStage.Proofs.Stalls

/-!
# What a cycle touches

A cycle writes at two places. The instruction in write-back writes its destination, and after that the instruction in
the memory stage stores to the word that it addresses. Everything else only grows old, moves on, or is added at the end
of a log. This holds of every state, whatever its program and its operands are; in particular nothing is ever written to
R0.

Main statements:
* `Storage.retireSlot_frame`, `Storage.accessSlot_frame`: what the instruction in a slot leaves alone;
* `State.step_touches`: what a cycle leaves alone;
* `State.Wired.step`, `State.Wired.step_error`: a cycle keeps R0, also if it is cut short;
* `Engine.attemptAll_touches`: all of that for whatever calls make of a new engine.
-/

namespace FiveStage

/-- An instruction writes a register: its destination denotes the register, which is not R0. -/
def Instruction.Writes (i : Instruction) (r : Fin registerCount) : Prop :=
  0 < r.val ∧ ∃ operand, i.writes = [operand] ∧ registerOf operand = .ok (some r)

namespace Storage

/-- An instruction stores to a word: it is a store, and the word is the one at its address. -/
def StoresTo (st : Storage) (i : Instruction) (w : Fin wordCount) : Prop :=
  i.opcode = .sw ∧ ∃ a, st.dataAddress i = .ok a ∧ wordAt? a = some w

variable {st st' : Storage} {i : Instruction} {slot : Option Instruction} {cycle : Int}

theorem writes_of_destination {r : Fin registerCount} (h : destination i = .ok (some r)) : i.Writes r := by
  cases hwrites : i.writes with
  | nil =>
    rw [destination, hwrites] at h
    cases h
  | cons operand rest =>
    have hwrites := Instruction.writes_eq_of_mem (hwrites ▸ List.mem_cons_self : operand ∈ i.writes)
    obtain ⟨hpos, hr⟩ := (Instruction.destination_eq_some_iff hwrites).1 h
    exact ⟨hpos, operand, hwrites, hr⟩

/-! ## Cells -/

/-- Of several cells only the one that is set can be another one afterwards. -/
theorem eq_of_getElem_set_ne {n : Nat} {cells : Vector Cell n} {k : Fin n} {c : Cell} {q : Nat} (hq : q < n)
    (h : (cells.set k c k.isLt)[q] ≠ cells[q]) : k = ⟨q, hq⟩ := by
  refine Fin.ext (Decidable.byContradiction fun hne => h ?_)
  exact Vector.getElem_set_ne k.isLt hq hne

/-- The instruction that retires leaves all cells alone but that of the register that it writes. -/
theorem retireSlot_frame (h : st.retireSlot slot cycle = .ok st') :
    st'.memory = st.memory ∧
      ∀ (r : Nat) (hr : r < registerCount), st'.registers[r] ≠ st.registers[r] →
        ∃ i, slot = some i ∧ i.Writes ⟨r, hr⟩ := by
  cases slot with
  | none =>
    obtain rfl := Except.ok.inj h
    exact ⟨rfl, fun r hr hchanged => absurd rfl hchanged⟩
  | some i =>
    rcases retire_cases h with ⟨-, rfl⟩ | ⟨written, value, hwritten, -, rfl⟩
    · exact ⟨rfl, fun r hr hchanged => absurd rfl hchanged⟩
    · refine ⟨rfl, fun r hr hchanged => ⟨i, rfl, ?_⟩⟩
      rw [← eq_of_getElem_set_ne hr hchanged]
      exact writes_of_destination hwritten

/-- The instruction that accesses the memory leaves all cells alone but that of the word that it stores to. -/
theorem accessSlot_frame (h : st.accessSlot slot cycle = .ok st') :
    st'.registers = st.registers ∧
      ∀ (w : Nat) (hw : w < wordCount), st'.memory[w] ≠ st.memory[w] →
        ∃ i, slot = some i ∧ st.StoresTo i ⟨w, hw⟩ := by
  cases slot with
  | none =>
    obtain rfl := Except.ok.inj h
    exact ⟨rfl, fun w hw hchanged => absurd rfl hchanged⟩
  | some i =>
    rcases access_cases h with ⟨-, rfl⟩ | ⟨hopcode, a, ha, ⟨-, rfl⟩ | ⟨stored, value, hstored, -, rfl⟩⟩
    · exact ⟨rfl, fun w hw hchanged => absurd rfl hchanged⟩
    · exact ⟨rfl, fun w hw hchanged => absurd rfl hchanged⟩
    · refine ⟨rfl, fun w hw hchanged => ⟨i, rfl, hopcode, a, ha, ?_⟩⟩
      rw [← eq_of_getElem_set_ne hw hchanged]
      exact hstored

theorem register_age (st : Storage) (cycle : Int) : (st.age cycle).register = st.register :=
  congrArg Values.registers (values_of_age st cycle)

theorem word_age (st : Storage) (cycle : Int) : (st.age cycle).word = st.word :=
  congrArg Values.words (values_of_age st cycle)

/-- R0 holds zero, and does not count as modified. -/
def Wired (st : Storage) : Prop :=
  st.registers[0] = { value := 0 }

instance (st : Storage) : Decidable st.Wired :=
  inferInstanceAs (Decidable (_ = _))

theorem Wired.retireSlot (hst : st.Wired) (h : st.retireSlot slot cycle = .ok st') : st'.Wired := by
  obtain ⟨-, hregisters⟩ := retireSlot_frame h
  refine Decidable.byContradiction fun hchanged => ?_
  obtain ⟨i, -, hpos, -⟩ := hregisters 0 (by decide) fun hsame => hchanged (Eq.trans hsame hst)
  exact Nat.lt_irrefl 0 hpos

theorem Wired.accessSlot (hst : st.Wired) (h : st.accessSlot slot cycle = .ok st') : st'.Wired := by
  obtain ⟨hregisters, -⟩ := accessSlot_frame h
  rw [Wired, hregisters]
  exact hst

theorem Wired.age (hst : st.Wired) (cycle : Int) : (st.age cycle).Wired := by
  rw [Wired] at hst
  simp [Wired, Storage.age, hst, Cell.age]

theorem wired_ofNumbers (registers words : List Nat) : (ofNumbers registers words).Wired := by
  simp [Wired, ofNumbers]

theorem wired_storage (source : Source) : source.storage.Wired := by
  cases source with
  | seeded seed => exact wired_ofNumbers _ _
  | chance number => exact wired_ofNumbers _ _

end Storage

namespace State

variable {s t : State}

/-! ## Slots -/

theorem placed?_track (f : Tracked → Tracked) (hcode : ∀ x, (f x).code = x.code)
    (hfetched : ∀ x, (f x).fetched = x.fetched) (index : Nat) : (s.track index f).placed? = s.placed? := by
  funext j
  simp only [placed?, track, Array.getElem?_modify]
  split
  · rw [Option.map_map]
    congr 1
    funext x
    rw [Function.comp_apply, hcode, hfetched]
  · rfl

/-- Write-back retires what is found in its slot, and the other slots keep what they hold. -/
theorem writeBack_slots (h : s.writeBack = .ok t) :
    s.storage.retireSlot (s.placed.writeBack.map (·.code)) s.cycle = .ok t.storage ∧
      t.placed = { s.placed with writeBack := none } := by
  unfold writeBack at h
  split at h
  · rename_i index i hindex hi
    obtain ⟨storage, hstorage, rfl⟩ := exists_of_map_eq_ok h
    rw [hi]
    refine ⟨hstorage, ?_⟩
    have hsame := placed?_track (s := s) (fun x => { x with completed := true, stage := none }) (fun _ => rfl)
      (fun _ => rfl) index
    exact congrArg (Pipeline.bind { s.pipeline with writeBack := none }) hsame
  · rename_i hnone
    obtain rfl := Except.ok.inj h
    have hempty : s.placed.writeBack = none := by
      cases hw : s.pipeline.writeBack with
      | none => rw [placed, Pipeline.bind, hw, Option.bind_none]
      | some index => exact Option.eq_none_iff_forall_ne_some.2 fun i hi => hnone index i hw hi
    rw [hempty]
    exact ⟨rfl, by rw [← hempty]⟩

theorem memoryAccess_storage (h : s.memoryAccess = .ok t) :
    s.storage.accessSlot (s.placed.memory.map (·.code)) s.cycle = .ok t.storage := by
  unfold memoryAccess at h
  split at h
  · rename_i hempty
    obtain rfl := Except.ok.inj h
    rw [hempty]
    rfl
  · rename_i i hi
    obtain ⟨storage, hstorage, rfl⟩ := exists_of_map_eq_ok h
    obtain ⟨_, _, hmove, -⟩ := move_frame { s with storage } .memory .writeBack
    rw [hi, hmove]
    exact hstorage

/-! ## The program -/

theorem codes_move (s : State) (a b : Stage) : (s.move a b).codes = s.codes := by
  cases ha : s.pipeline.get a with
  | none => rw [move_of_empty ha]
  | some i =>
    rw [move_of_occupied ha]
    exact codes_track (by intro x; rfl) i

theorem codes_writeBack (h : s.writeBack = .ok t) : t.codes = s.codes := by
  unfold writeBack at h
  split at h
  · obtain ⟨storage, -, rfl⟩ := exists_of_map_eq_ok h
    exact codes_track (by intro x; rfl) _
  · rw [Except.ok.inj h]

theorem codes_memoryAccess (h : s.memoryAccess = .ok t) : t.codes = s.codes := by
  unfold memoryAccess at h
  split at h
  · rw [Except.ok.inj h]
  · obtain ⟨storage, -, rfl⟩ := exists_of_map_eq_ok h
    exact codes_move { s with storage } .memory .writeBack

theorem codes_execute (s : State) : s.execute.codes = s.codes := by
  unfold execute
  dsimp only
  split
  · rfl
  · exact codes_move { s with hazards := s.hazards ++ s.executeHazards } .execute .memory

theorem codes_decode (s : State) : s.decode.codes = s.codes := by
  unfold decode
  dsimp only
  split
  · exact codes_move { s with hazards := s.hazards ++ s.decodeHazards } .decode .execute
  · rfl

theorem codes_issue (s : State) : s.issue.codes = s.codes := by
  unfold issue
  split
  · exact codes_move s .fetch .decode
  · rfl

theorem codes_fetch (s : State) : s.fetch.codes = s.codes := by
  unfold fetch
  split
  · exact codes_track (by intro x; rfl) _
  · rfl

theorem codes_advanceFront (s : State) : s.advanceFront.codes = s.codes :=
  calc s.advanceFront.codes
    _ = s.execute.decode.issue.fetch.codes := rfl
    _ = s.codes := by rw [codes_fetch, codes_issue, codes_decode, codes_execute]

/-! ## Cycles -/

/-- What a cycle touches at most. -/
structure Touches (s t : State) : Prop where
  /-- A register with another value is the one that the instruction in write-back writes. -/
  register : ∀ r, t.storage.register r ≠ s.storage.register r →
    ∃ i, s.placed.writeBack = some i ∧ i.code.Writes r
  /-- A word with another value is the one that the instruction in the memory stage stores to after write-back. -/
  word : ∀ w, t.storage.word w ≠ s.storage.word w →
    ∃ i retired, s.placed.memory = some i ∧ s.writeBack = .ok retired ∧ retired.storage.StoresTo i.code w
  /-- The registers keep their names. -/
  names : t.storage.registerCells.map (registerName ·.1) = s.storage.registerCells.map (registerName ·.1)
  /-- The words keep their addresses. -/
  addresses : t.storage.wordCells.map (address ·.1) = s.storage.wordCells.map (address ·.1)
  /-- The instructions keep everything that they were read with. -/
  codes : t.codes = s.codes
  hazards : s.hazards <+: t.hazards
  log : s.log <+: t.log

theorem names_eq (st st' : Storage) :
    st'.registerCells.map (registerName ·.1) = st.registerCells.map (registerName ·.1) := by
  simp only [Storage.registerCells, List.map_map, Function.comp_def]

theorem addresses_eq (st st' : Storage) : st'.wordCells.map (address ·.1) = st.wordCells.map (address ·.1) := by
  simp only [Storage.wordCells, List.map_map, Function.comp_def]

/-- A cycle that ends after write-back touches what write-back does. -/
theorem writeBack_touches (h : s.writeBack = .ok t) : s.Touches t := by
  obtain ⟨hstorage, -⟩ := writeBack_slots h
  obtain ⟨hmemory, hregisters⟩ := Storage.retireSlot_frame hstorage
  obtain ⟨_, _, _, _, hframe, -⟩ := writeBack_frame h
  refine
    { register := ?_, word := ?_, names := names_eq _ _, addresses := addresses_eq _ _, codes := codes_writeBack h,
      hazards := by rw [hframe], log := by rw [hframe] }
  · intro r hr
    obtain ⟨code, hcode, hwrites⟩ := hregisters r r.isLt fun hsame => hr (congrArg Cell.value hsame)
    obtain ⟨i, hi, rfl⟩ := Option.map_eq_some_iff.1 hcode
    exact ⟨i, hi, hwrites⟩
  · intro w hw
    rw [Storage.word, hmemory] at hw
    exact absurd rfl hw

/-- A cycle that goes through all the stages touches what write-back and the memory stage do. -/
theorem advanceFront_touches {retired accessed : State} (hretired : s.writeBack = .ok retired)
    (haccessed : retired.opened.memoryAccess = .ok accessed) : s.Touches accessed.advanceFront := by
  have hback := writeBack_touches hretired
  obtain ⟨hstorage, hplaced⟩ := writeBack_slots hretired
  obtain ⟨hmemory, -⟩ := Storage.retireSlot_frame hstorage
  obtain ⟨hregisters, hwords⟩ := Storage.accessSlot_frame (memoryAccess_storage haccessed)
  have hslot : retired.opened.placed.memory = s.placed.memory := by
    show retired.placed.memory = _
    rw [hplaced]
  obtain ⟨_, _, _, _, hopened, -⟩ := accessed_frame hretired haccessed
  obtain ⟨_, _, _, hfront⟩ := accessed.advanceFront_frame
  have haged : accessed.advanceFront.storage = accessed.storage.age accessed.cycle := by rw [hfront]
  refine
    { register := ?_, word := ?_, names := names_eq _ _, addresses := addresses_eq _ _, codes := ?_, hazards := ?_,
      log := ?_ }
  · intro r hr
    rw [haged, Storage.register_age, Storage.register, hregisters] at hr
    exact hback.register r hr
  · intro w hw
    rw [haged, Storage.word_age] at hw
    have hbefore : retired.storage.word w = s.storage.word w := by rw [Storage.word, hmemory, Storage.word]
    rw [← hbefore] at hw
    obtain ⟨code, hcode, hstores⟩ := hwords w w.isLt fun hsame => hw (congrArg Cell.value hsame)
    rw [hslot] at hcode
    obtain ⟨i, hi, rfl⟩ := Option.map_eq_some_iff.1 hcode
    exact ⟨i, retired, hi, hretired, hstores⟩
  · calc accessed.advanceFront.codes
      _ = accessed.codes := codes_advanceFront accessed
      _ = retired.opened.codes := codes_memoryAccess haccessed
      _ = retired.codes := rfl
      _ = s.codes := hback.codes
  · have hlogged : accessed.hazards = s.hazards := by rw [hopened]
    rw [hfront, hlogged]
    exact List.prefix_append _ _
  · have hlogged : accessed.log = s.log := by rw [hopened]
    rw [hfront, hlogged]
    exact List.prefix_append _ _

/-- What a cycle leaves alone, whatever state it begins with. -/
theorem step_touches (h : s.step = .ok t) : s.Touches t := by
  rcases step_cases h with ⟨retired, hretired, ⟨-, rfl⟩ | ⟨-, accessed, haccessed, rfl⟩⟩
  · exact writeBack_touches hretired
  · exact advanceFront_touches hretired haccessed

/-! ## R0 -/

/-- R0 holds zero, and does not count as modified. -/
def Wired (s : State) : Prop :=
  s.storage.Wired

theorem Wired.step (hs : s.Wired) (h : s.step = .ok t) : t.Wired := by
  obtain ⟨retired, hretired, hcases⟩ := step_cases h
  have hback : retired.Wired := Storage.Wired.retireSlot hs (writeBack_slots hretired).1
  rcases hcases with ⟨-, rfl⟩ | ⟨-, accessed, haccessed, rfl⟩
  · exact hback
  · have hopened : retired.opened.storage.Wired := hback
    have haccess : accessed.storage.Wired := hopened.accessSlot (memoryAccess_storage haccessed)
    obtain ⟨_, _, _, hfront⟩ := accessed.advanceFront_frame
    rw [Wired, hfront]
    exact haccess.age accessed.cycle

/-- A cycle that is cut short has written nothing to R0 either. -/
theorem Wired.step_error {i : Interrupted RegisterName.TooLong State} (hs : s.Wired) (h : s.step = .error i) :
    i.state.Wired := by
  rcases step_error_cases h with ⟨-, hsame⟩ | ⟨retired, hretired, -, -, hopened⟩
  · rwa [hsame]
  · rw [hopened]
    exact Storage.Wired.retireSlot hs (writeBack_slots hretired).1

end State

/-! ## Calls -/

namespace Engine

open State

variable {e : Engine State}

/-- No call writes to R0. -/
theorem wired_attempt (he : e.state.Wired) (call : Call) : (e.attempt call).state.Wired :=
  attempt_state_induction (fun source => Storage.wired_storage source) (fun _ _ _ hs => hs)
    (fun _ _ hs hok => hs.step hok) (fun _ _ hs hcut => hs.step_error hcut) (fun _ _ hs => hs) he

theorem wired_attemptAll (he : e.state.Wired) (calls : List Call) : (attemptAll calls e).state.Wired := by
  induction calls generalizing e with
  | nil => exact he
  | cons call calls ih => exact ih (wired_attempt he call)

/-- **What a cycle touches.** Whatever calls make of a new engine, also if some of them are cut short, a cycle that is
not cut short changes the value of no register but the one that the instruction in write-back writes, which is never R0,
and of no word but the one that the store in the memory stage addresses after that. Names, addresses and instructions
stay as they are, and the logs only grow at their ends. So R0 holds zero and never counts as modified. -/
theorem attemptAll_touches {source : Storage.Source} {storage : Storage} {calls : List Call} {e : Engine State}
    (hnew : storage.registers[0] = { value := 0 }) (h : attemptAll calls { source, state := { storage } } = e) :
    (∀ e', e.step = .ok e' → e.state.Touches e'.state) ∧ e.state.storage.registers[0] = { value := 0 } := by
  have hwired : ({ source, state := { storage } } : Engine State).state.Wired := hnew
  rw [← h]
  exact ⟨fun e' hok => step_touches (state_of_step hok), wired_attemptAll hwired calls⟩

/-- In one cycle a register is written and a word whose address it gives. What was meant for R0 is lost. -/
theorem attemptAll_touches_store :
    let new : Engine State := { source := .seeded 0, state := { storage := Storage.zero.setRegister 2 memoryBase } }
    let calls := [.load "ADD R0, R2, R2\nADD R1, R2, R3\nSW R1, 4(R1)", .run 6]
    ∃ e e', performAll calls new = .ok e ∧ e.step = .ok e' ∧
      e.state.Touches e'.state ∧ e.state.storage.registers[0] = { value := 0 } ∧
      e.state.storage.register 1 = 0 ∧ e'.state.storage.register 1 = memoryBase ∧
      e.state.storage.word 1 = 0 ∧ e'.state.storage.word 1 = memoryBase := by
  intro new calls
  have hnew : new.state.storage.registers[0] = { value := 0 } := by
    decide +kernel
  have hok : (performAll calls new).toOption.any (fun e => e.step.toOption.any fun e' =>
      decide (e.state.storage.register 1 = 0 ∧ e'.state.storage.register 1 = memoryBase ∧
        e.state.storage.word 1 = 0 ∧ e'.state.storage.word 1 = memoryBase)) = true := by
    decide +kernel
  obtain ⟨e, he, hstep⟩ := exists_of_any_toOption hok
  obtain ⟨e', he', hvalues⟩ := exists_of_any_toOption hstep
  obtain ⟨htouches, hzero⟩ := attemptAll_touches hnew (attemptAll_of_performAll he)
  exact ⟨e, e', he, he', htouches e' he', hzero, of_decide_eq_true hvalues⟩

end Engine

end FiveStage
