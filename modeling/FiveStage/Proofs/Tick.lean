import FiveStage.Proofs.Neighbours
import FiveStage.Proofs.Phase
import FiveStage.Proofs.Stages

/-!
# One cycle

What a cycle does to a program in a phase. Either the program rests, and all that can happen is that the last
instruction retires, without a cycle being counted. Or a cycle is counted, and everything in it follows from the
program, the phase and the settings: which phase comes next, which hazards are logged, and what the log remembers.

Main statements:
* `InPhase.isIdle_iff`: what is left in the pipeline after write-back tells whether the program rests;
* `InPhase.executeHazards_eq`: only the instruction just ahead is ever seen from execute;
* `InPhase.step`: everything that a cycle does.
-/

namespace FiveStage

namespace Phase

/-- The slots after the instruction in write-back has retired. -/
def cleared (p : Phase) (length : Nat) : Pipeline Nat :=
  { p.pipeline length with writeBack := none }

/-- The slots after the instruction in the memory stage has moved on as well. -/
def accessed (p : Phase) (length : Nat) : Pipeline Nat :=
  (p.cleared length).move .memory .writeBack

/-- The slots after every instruction has moved on, before the next one is fetched. -/
def issued (p : Phase) (length : Nat) : Pipeline Nat :=
  ⟨none, p.behind length 1, p.behind length 2, p.behind length 3, (p.pipeline length).memory⟩

theorem accessed_eq (p : Phase) (n : Nat) :
    p.accessed n = ⟨p.behind n 1, p.behind n 2, p.behind n 3, none, (p.pipeline n).memory⟩ := rfl

/-- If the instruction in execute waits, the others stay behind it. -/
theorem pipeline_next_true {p : Phase} (h : p.bubble ≠ .memory) (n : Nat) :
    (p.next true).pipeline n = p.accessed n := by
  obtain ⟨front, bubble⟩ := p
  cases bubble with
  | absent => rfl
  | memory => exact absurd rfl h
  | writeBack => rfl

/-- Otherwise each slot passes on what it holds. -/
theorem pipeline_next_false (p : Phase) (n : Nat) :
    (p.next false).pipeline n = { p.issued n with fetch := if p.front < n then some p.front else none } := by
  obtain ⟨front, bubble⟩ := p
  cases bubble <;> simp [next, issued, pipeline, behind]

/-- Once everything has been through the memory stage, nothing is left behind write-back. -/
theorem pipeline_rested {p : Phase} (h : p.bubble ≠ .memory) (n : Nat) : p.rested.pipeline n = p.cleared n := by
  obtain ⟨front, bubble⟩ := p
  cases bubble with
  | absent => rfl
  | memory => exact absurd rfl h
  | writeBack => rfl

/-- An empty write-back adds nothing to the retired instructions. -/
theorem retired_next_of_empty {p : Phase} {n : Nat} (h : p.Fits n) (hw : (p.pipeline n).writeBack = none) :
    min (p.next false).retired n = min p.retired n := by
  obtain ⟨front, bubble⟩ := p
  obtain ⟨hle, hheld⟩ := h
  cases bubble <;> simp [pipeline, behind_eq_none_iff, next, retired] at * <;> omega

/-- The instruction in write-back adds one to the retired instructions. -/
theorem retired_next_of_full {p : Phase} {n i : Nat} (hw : (p.pipeline n).writeBack = some i) :
    i = p.retired ∧ (p.next false).retired = i + 1 ∧ i < n := by
  obtain ⟨front, bubble⟩ := p
  cases bubble <;> simp [pipeline, behind_eq_some_iff, next, retired] at * <;> omega

end Phase

namespace State

/-- The state at the beginning of a cycle that counts. -/
def opened (s : State) : State :=
  { s with cycle := s.cycle + 1 }

/-- The state is in a phase of a program. -/
structure InPhase (program : List Instruction) (p : Phase) (s : State) : Prop where
  fits : p.Fits program.length
  stands : s.Stands program p.front p.retired (p.pipeline program.length)

/-- What happens to a program that rests: at most, the instruction in write-back retires. -/
structure Settles (program : List Instruction) (p : Phase) (s t : State) : Prop where
  inPhase : t.InPhase program p.rested
  /-- Everything but the storage and the places is left alone. -/
  frame : ∃ pipeline instructions completed storage, t = { s with pipeline, instructions, completed, storage }
  fetchedAt : t.fetchedAt = s.fetchedAt
  storage : s.storage.retireSlot ((p.pipeline program.length).writeBack.bind (program[·]?)) s.cycle = .ok t.storage

namespace Settles

variable {program : List Instruction} {p : Phase} {s t : State}

theorem cycle (h : Settles program p s t) : t.cycle = s.cycle := by
  obtain ⟨_, _, _, _, hframe⟩ := h.frame
  rw [hframe]

theorem stalls (h : Settles program p s t) : t.stalls = s.stalls := by
  obtain ⟨_, _, _, _, hframe⟩ := h.frame
  rw [hframe]

theorem log (h : Settles program p s t) : t.log = s.log := by
  obtain ⟨_, _, _, _, hframe⟩ := h.frame
  rw [hframe]

theorem hazards (h : Settles program p s t) : t.hazards = s.hazards := by
  obtain ⟨_, _, _, _, hframe⟩ := h.frame
  rw [hframe]

end Settles

/-- What happens to a program that does not rest: a cycle, after which it is in the next phase. -/
structure Ticks (program : List Instruction) (p q : Phase) (s t : State) : Prop where
  inPhase : t.InPhase program q
  cycle : t.cycle = s.cycle + 1
  settings : t.forwarding = s.forwarding ∧ t.prediction = s.prediction
  flags : t.running = s.running ∧ t.paused = s.paused
  /-- A bubble in the memory stage is a stall. -/
  stalls : t.stalls = s.stalls + if q.bubble = .memory then 1 else 0
  /-- An instruction that enters execute is compared with the one ahead of it, and one in decode is looked at. -/
  hazards : t.hazards = s.hazards ++
    ((if p.bubble = .memory then [] else
        Program.neighbourHazards program s.forwarding t.cycle (p.front - 3)) ++
      if 2 ≤ p.front then Program.branchHazards program s.prediction t.cycle (p.front - 2) else [])
  log : t.log = s.log ++
    [{ cycle := t.cycle
       stages := (q.pipeline program.length).bind fun i => program[i]?.map (·.raw)
       pc := t.pc
       stalled := decide (q.bubble = .memory) }]
  /-- The cycle is noted with the instruction that is fetched in it. -/
  fetchedAt : ∀ i < program.length,
    t.fetchedAt i = if i = p.front ∧ q.front ≠ p.front then t.cycle else s.fetchedAt i
  /-- The instruction in write-back writes its result, and then the one in the memory stage does its access. -/
  storage : ∃ retired accessed,
    s.storage.retireSlot ((p.pipeline program.length).writeBack.bind (program[·]?)) s.cycle = .ok retired ∧
      retired.accessSlot ((p.pipeline program.length).memory.bind (program[·]?)) t.cycle = .ok accessed ∧
        t.storage = accessed.age t.cycle

/-- A cycle ends after write-back or goes through all the stages. -/
theorem step_cases {s t : State} (h : s.step = .ok t) :
    ∃ retired, s.writeBack = .ok retired ∧
      (retired.isIdle = true ∧ t = retired ∨
        retired.isIdle = false ∧ ∃ accessed,
          retired.opened.memoryAccess = .ok accessed ∧ t = accessed.advanceFront) := by
  unfold step at h
  split at h
  · cases h
  · rename_i retired hretired
    refine ⟨retired, hretired, ?_⟩
    split at h
    · rename_i hidle
      exact .inl ⟨hidle, (Except.ok.inj h).symm⟩
    · rename_i hbusy
      dsimp only at h
      split at h
      · cases h
      · rename_i accessed haccessed
        exact .inr ⟨eq_false_of_ne_true hbusy, accessed, haccessed, (Except.ok.inj h).symm⟩

/-- What a cycle that is cut short has done: nothing, or it was cut short in the memory stage. -/
theorem step_error_cases {s : State} {i : Interrupted RegisterName.TooLong State} (h : s.step = .error i) :
    s.writeBack = .error i.fault ∧ i.state = s ∨
      ∃ retired, s.writeBack = .ok retired ∧ retired.isIdle = false ∧
        retired.opened.memoryAccess = .error i.fault ∧ i.state = retired.opened := by
  unfold step at h
  split at h
  · rename_i cause hcause
    rw [← Except.error.inj h]
    exact .inl ⟨hcause, rfl⟩
  · rename_i retired hretired
    split at h
    · cases h
    · rename_i hbusy
      dsimp only at h
      split at h
      · rename_i cause hcause
        rw [← Except.error.inj h]
        exact .inr ⟨retired, hretired, eq_false_of_ne_true hbusy, hcause, rfl⟩
      · cases h

/-! ## From write-back to memory -/

namespace InPhase

variable {program : List Instruction} {p : Phase} {s t retired accessed : State}

theorem writeBack (h : s.InPhase program p) (hok : s.writeBack = .ok retired) :
    retired.Stands program p.front (p.next false).retired (p.cleared program.length) :=
  h.stands.writeBack (Phase.retired_next_of_empty h.fits) (fun _ => Phase.retired_next_of_full) hok

/-- The pipeline is empty after write-back, with nothing to fetch, exactly if the program rests. -/
theorem isIdle_iff (h : s.InPhase program p) (hok : s.writeBack = .ok retired) :
    retired.isIdle = true ↔ p.Rests program.length := by
  have hstands := h.writeBack hok
  rw [isIdle, Bool.and_eq_true, Pipeline.isEmpty_iff, hstands.pipeline, hstands.next?_eq]
  constructor
  · rintro ⟨hempty, hnext⟩
    have hfetch : p.behind program.length 1 = none := hempty .fetch
    have hdecode : p.behind program.length 2 = none := hempty .decode
    have hexecute : p.behind program.length 3 = none := hempty .execute
    have hmemory : (p.pipeline program.length).memory = none := hempty .memory
    have hend : ¬p.front < program.length := by
      intro hlt
      simp [hlt] at hnext
    have hbubble : p.bubble ≠ .memory := by
      intro hb
      have := h.fits.held hb
      have := Phase.behind_eq_none_iff.1 hexecute
      omega
    have hfourth : p.behind program.length 4 = none := by
      simpa [Phase.pipeline, hbubble] using hmemory
    rw [Phase.behind_eq_none_iff] at hfetch hdecode hexecute hfourth
    unfold Phase.Rests
    omega
  · intro hr
    have hbubble := h.fits.bubble_ne_memory hr
    have hnone : ∀ d, d ≤ 4 → p.behind program.length d = none := by
      intro d hd
      rw [Phase.behind_eq_none_iff]
      unfold Phase.Rests at hr
      omega
    refine ⟨?_, ?_⟩
    · intro stage
      cases stage with
      | fetch => exact hnone 1 (by omega)
      | decode => exact hnone 2 (by omega)
      | execute => exact hnone 3 (by omega)
      | memory => simpa [Phase.cleared, Phase.pipeline, Pipeline.get, hbubble] using hnone 4 (by omega)
      | writeBack => rfl
    · rw [if_neg (by unfold Phase.Rests at hr; omega), Option.isNone_none]

theorem memoryAccess (h : s.InPhase program p) (hretired : s.writeBack = .ok retired)
    (haccessed : retired.opened.memoryAccess = .ok accessed) :
    accessed.Stands program p.front (p.next false).retired (p.accessed program.length) := by
  have hopened : retired.opened.Stands program p.front (p.next false).retired (p.cleared program.length) :=
    (h.writeBack hretired).of_eq rfl rfl rfl rfl
  exact hopened.memoryAccess rfl (fun i hi => Phase.lt_of_get_pipeline (s := .memory) hi) haccessed

/-! ## From execute to fetch -/

/-- From execute, only the instruction just ahead is seen, and only at the first look. -/
theorem executeHazards_eq (h : s.InPhase program p) (hretired : s.writeBack = .ok retired)
    (haccessed : retired.opened.memoryAccess = .ok accessed) :
    accessed.executeHazards = if p.bubble = .memory then [] else
      Program.neighbourHazards program accessed.forwarding accessed.cycle (p.front - 3) := by
  have hstands := h.memoryAccess hretired haccessed
  by_cases hb : p.bubble = .memory
  · rw [if_pos hb]
    exact hstands.executeHazards_of_alone rfl (by simp [Phase.accessed_eq, Phase.pipeline, hb])
  · have hahead : (p.accessed program.length).writeBack = p.behind program.length 4 := by
      simp [Phase.accessed_eq, Phase.pipeline, hb]
    rw [if_neg hb]
    cases hx : p.behind program.length 3 with
    | none =>
      rw [hstands.executeHazards_of_empty hx]
      rcases Phase.behind_eq_none_iff.1 hx with hlt | hle
      · have hzero : p.front - 3 = 0 := by omega
        rw [hzero, Program.neighbourHazards]
      · rw [Program.neighbourHazards_of_length_le _ (by omega)]
    | some j =>
      obtain ⟨hj, hlt⟩ := Phase.behind_eq_some_iff.1 hx
      have hfront : p.front - 3 = j := by omega
      rw [hfront]
      cases j with
      | zero =>
        have hnone : p.behind program.length 4 = none := Phase.behind_eq_none_iff.2 (by omega)
        rw [hstands.executeHazards_of_alone rfl (hahead.trans hnone), Program.neighbourHazards]
      | succ i =>
        have hsome : p.behind program.length 4 = some i := Phase.behind_eq_some_iff.2 (by omega)
        obtain ⟨_, -, hconsumer⟩ := hstands.exists_of_lt hlt
        obtain ⟨_, -, hproducer⟩ := hstands.exists_of_lt (Nat.lt_of_succ_lt hlt)
        rw [hstands.executeHazards_of_follower rfl hx (hahead.trans hsome) hconsumer hproducer,
          Hazard.between_eq_batch, Program.neighbourHazards, hconsumer, hproducer]

/-- An instruction waits at most once, and only for the one just ahead. -/
theorem mustStall_eq (h : s.InPhase program p) (hretired : s.writeBack = .ok retired)
    (haccessed : retired.opened.memoryAccess = .ok accessed) :
    accessed.mustStall = if p.bubble = .memory then false else
      Program.waits program accessed.forwarding (p.front - 3) := by
  rw [mustStall, h.executeHazards_eq hretired haccessed]
  split
  · rfl
  · exact Program.needsStall_neighbourHazards _ _

end InPhase

section Decode

variable {program : List Instruction} {front retired : Nat} {slots : Pipeline Nat} {s : State}

theorem Stands.decodeHazards_of_empty (h : s.Stands program front retired slots) (hd : slots.decode = none) :
    s.decodeHazards = [] := by
  have hget : s.placed.decode = none := h.placed_of_empty .decode hd
  rw [decodeHazards, hget]

/-- The control hazard of the instruction in decode. -/
theorem Stands.decodeHazards_of_occupied (h : s.Stands program front retired slots) {j : Nat}
    (hd : slots.decode = some j) (hj : j < program.length) :
    s.decodeHazards = Program.branchHazards program s.prediction s.cycle j := by
  obtain ⟨x, -, hcode⟩ := h.exists_of_lt hj
  obtain ⟨_, hget⟩ := h.placed_of_occupied .decode hd hcode
  have hdecode : s.placed.decode = _ := hget
  unfold Program.branchHazards
  rw [decodeHazards, hdecode, hcode]
  rfl

end Decode

/-! ## What else a cycle changes -/

/-- Up to the memory stage, the clock goes on, and the logs and settings are left alone. -/
theorem accessed_frame {s retired accessed : State} (hretired : s.writeBack = .ok retired)
    (haccessed : retired.opened.memoryAccess = .ok accessed) :
    ∃ pipeline instructions completed storage,
      accessed = { s with cycle := s.cycle + 1, pipeline, instructions, completed, storage } ∧
        accessed.fetchedAt = s.fetchedAt := by
  obtain ⟨_, _, completed, _, hframe, hfetched⟩ := writeBack_frame hretired
  obtain ⟨pipeline, instructions, storage, hframe', hfetched'⟩ := memoryAccess_frame haccessed
  refine ⟨pipeline, instructions, completed, storage, ?_, ?_⟩
  · rw [hframe', hframe]
    rfl
  · rw [hfetched', ← hfetched]
    rfl

/-- From execute to issue, hazards are logged and the waiting is counted. -/
theorem issued_frame (s : State) :
    ∃ pipeline instructions,
      s.execute.decode.issue = { s with
        hazards := s.hazards ++ (s.executeHazards ++ s.execute.decodeHazards)
        stalls := s.stalls + if s.mustStall then 1 else 0
        pipeline, instructions } ∧ s.execute.decode.issue.fetchedAt = s.fetchedAt := by
  obtain ⟨_, _, hexecute, hx⟩ := s.execute_frame
  obtain ⟨_, _, hdecode, hd⟩ := s.execute.decode_frame
  obtain ⟨pipeline, instructions, hissue, hi⟩ := s.execute.decode.issue_frame
  refine ⟨pipeline, instructions, ?_, by rw [hi, hd, hx]⟩
  rw [hissue, hdecode, ← List.append_assoc]
  generalize s.execute.decodeHazards = hazards
  rw [hexecute]

/-- From execute to the end of the cycle, in addition, the storage ages and the cycle is remembered. -/
theorem advanceFront_frame (s : State) :
    ∃ pipeline instructions pc,
      s.advanceFront = { s with
        hazards := s.hazards ++ (s.executeHazards ++ s.execute.decodeHazards)
        stalls := s.stalls + if s.mustStall then 1 else 0
        storage := s.storage.age s.cycle
        log := s.log ++ [{
          cycle := s.cycle
          stages := s.advanceFront.pipeline.bind fun i => s.advanceFront.codes[i]?.map (·.raw)
          pc := s.advanceFront.pc
          stalled := s.mustStall }]
        pipeline, instructions, pc } := by
  obtain ⟨_, _, hissue, -⟩ := s.issued_frame
  obtain ⟨pipeline, instructions, pc, hfetch⟩ := s.execute.decode.issue.fetch_frame
  have hstages := s.execute.decode.issue.fetch.age.placed_bind_raw
  refine ⟨pipeline, instructions, pc, ?_⟩
  rw [advanceFront, record, hstages, age, hfetch, hissue]
  rfl

namespace InPhase

variable {program : List Instruction} {p : Phase} {s t retired accessed : State}

/-- An instruction that waits is in execute, behind another one. -/
theorem wait_of_mustStall (h : s.InPhase program p) (hretired : s.writeBack = .ok retired)
    (haccessed : retired.opened.memoryAccess = .ok accessed) (hstall : accessed.mustStall = true) :
    p.bubble ≠ .memory ∧ 4 ≤ p.front ∧ p.front < program.length + 3 := by
  rw [h.mustStall_eq hretired haccessed] at hstall
  split at hstall
  · cases hstall
  · rename_i hb
    have hlow := Program.pos_of_waits hstall
    have hhigh := Program.lt_of_waits hstall
    exact ⟨hb, by omega, by omega⟩

/-- While an instruction waits in execute, nothing behind it moves. -/
theorem issue_of_stall (h : s.InPhase program p) (hretired : s.writeBack = .ok retired)
    (haccessed : retired.opened.memoryAccess = .ok accessed) (hstall : accessed.mustStall = true) :
    accessed.execute.decode.issue.Stands program p.front (p.next false).retired (p.accessed program.length) := by
  obtain ⟨-, hlow, hhigh⟩ := h.wait_of_mustStall hretired haccessed hstall
  have hx : (p.accessed program.length).execute = some (p.front - 3) := Phase.behind_eq_some_iff.2 (by omega)
  have hdecoded := ((h.memoryAccess hretired haccessed).execute_of_stall hstall).decode_of_blocked hx
  have hissue : accessed.execute.decode.issue = accessed.execute.decode := by
    cases hd : p.behind program.length 2 with
    | none =>
      have := Phase.behind_eq_none_iff.1 hd
      have hf : (p.accessed program.length).fetch = none := Phase.behind_eq_none_iff.2 (by omega)
      exact State.issue_of_empty (hdecoded.pipeline ▸ hf)
    | some j => exact hdecoded.issue_of_blocked hd
  rw [hissue]
  exact hdecoded

/-- If no instruction waits, each one moves on. -/
theorem issue_of_pass (h : s.InPhase program p) (hretired : s.writeBack = .ok retired)
    (haccessed : retired.opened.memoryAccess = .ok accessed) (hpass : accessed.mustStall = false) :
    accessed.execute.decode.issue.Stands program p.front (p.next false).retired (p.issued program.length) := by
  have hexecuted := (h.memoryAccess hretired haccessed).execute_of_pass rfl hpass
  exact (hexecuted.decode_of_free rfl).issue_of_free rfl

/-- Behind an instruction that waits, the slots are occupied, or there is nothing to fetch. -/
theorem fetch_of_stall (h : s.InPhase program p) (hretired : s.writeBack = .ok retired)
    (haccessed : retired.opened.memoryAccess = .ok accessed) (hstall : accessed.mustStall = true) :
    accessed.execute.decode.issue.fetch = accessed.execute.decode.issue := by
  obtain ⟨-, hlow, -⟩ := h.wait_of_mustStall hretired haccessed hstall
  have hissued := h.issue_of_stall hretired haccessed hstall
  cases hf : p.behind program.length 1 with
  | none =>
    have := Phase.behind_eq_none_iff.1 hf
    exact hissued.fetch_of_end (by omega)
  | some j => exact hissued.fetch_of_blocked hf

/-- If no instruction waits, the next one is fetched. -/
theorem fetch_of_pass (h : s.InPhase program p) (hretired : s.writeBack = .ok retired)
    (haccessed : retired.opened.memoryAccess = .ok accessed) (hpass : accessed.mustStall = false) :
    accessed.execute.decode.issue.fetch.Stands program (p.front + 1) (p.next false).retired
      ((p.next false).pipeline program.length) := by
  have hissued := h.issue_of_pass hretired haccessed hpass
  rw [Phase.pipeline_next_false]
  by_cases hlt : p.front < program.length
  · rw [if_pos hlt]
    apply hissued.fetch_of_free rfl hlt
    intro stage hstage
    -- Everything in the slots was fetched before.
    cases stage with
    | fetch => cases hstage
    | decode => have := (Phase.behind_eq_some_iff.1 hstage).1; omega
    | execute => have := (Phase.behind_eq_some_iff.1 hstage).1; omega
    | memory => have := (Phase.behind_eq_some_iff.1 hstage).1; omega
    | writeBack => exact Phase.get_pipeline_ne_front p .memory hstage
  · rw [if_neg hlt, hissued.fetch_of_end (by omega)]
    exact hissued.of_end (by omega)

/-- Where the instructions are after a cycle. -/
theorem fetch (h : s.InPhase program p) (hretired : s.writeBack = .ok retired)
    (haccessed : retired.opened.memoryAccess = .ok accessed) {q : Phase} (hq : q = p.next accessed.mustStall) :
    accessed.execute.decode.issue.fetch.Stands program q.front q.retired (q.pipeline program.length) := by
  subst hq
  cases hstall : accessed.mustStall with
  | true =>
    obtain ⟨hb, -, -⟩ := h.wait_of_mustStall hretired haccessed hstall
    have hfront : (p.next true).front = p.front := by rw [Phase.next_true_of_ne_memory hb]
    rw [h.fetch_of_stall hretired haccessed hstall, hfront, Phase.retired_next, Phase.pipeline_next_true hb]
    exact h.issue_of_stall hretired haccessed hstall
  | false =>
    have hfront : (p.next false).front = p.front + 1 := Phase.front_next_false p
    rw [hfront]
    exact h.fetch_of_pass hretired haccessed hstall

/-- The cycle is noted with the instruction that is fetched in it. -/
theorem fetchedAt_fetch (h : s.InPhase program p) (hretired : s.writeBack = .ok retired)
    (haccessed : retired.opened.memoryAccess = .ok accessed) {q : Phase} (hq : q = p.next accessed.mustStall) {i : Nat}
    (hi : i < program.length) :
    accessed.execute.decode.issue.fetch.fetchedAt i =
      if i = p.front ∧ q.front ≠ p.front then accessed.execute.decode.issue.cycle
      else accessed.execute.decode.issue.fetchedAt i := by
  subst hq
  cases hstall : accessed.mustStall with
  | true =>
    obtain ⟨hb, -, -⟩ := h.wait_of_mustStall hretired haccessed hstall
    have hfront : (p.next true).front = p.front := by rw [Phase.next_true_of_ne_memory hb]
    rw [h.fetch_of_stall hretired haccessed hstall, hfront, if_neg (by simp)]
  | false =>
    have hissued := h.issue_of_pass hretired haccessed hstall
    have hempty : accessed.execute.decode.issue.pipeline.fetch = none := by
      rw [hissued.pipeline]
      rfl
    have hsize : i < accessed.execute.decode.issue.instructions.size := by
      rw [hissued.size_eq]
      exact hi
    have hfront : (p.next false).front = p.front + 1 := Phase.front_next_false p
    have hcond : (accessed.execute.decode.issue.pipeline.fetch = none ∧
          accessed.execute.decode.issue.next? = some i) ↔ i = p.front ∧ (p.next false).front ≠ p.front := by
      rw [hissued.next?_eq, hfront]
      constructor
      · rintro ⟨-, hn⟩
        split at hn
        · exact ⟨(Option.some.inj hn).symm, by omega⟩
        · cases hn
      · rintro ⟨rfl, -⟩
        exact ⟨hempty, if_pos hi⟩
    rw [State.fetchedAt_fetch hsize, if_congr hcond rfl rfl]

/-- From decode, an instruction is looked at in every cycle that begins with it there. -/
theorem decodeHazards_eq (h : s.InPhase program p) (hretired : s.writeBack = .ok retired)
    (haccessed : retired.opened.memoryAccess = .ok accessed) :
    accessed.execute.decodeHazards = if 2 ≤ p.front then
      Program.branchHazards program accessed.prediction accessed.cycle (p.front - 2) else [] := by
  have hstands := h.memoryAccess hretired haccessed
  have hexecuted : ∃ slots, accessed.execute.Stands program p.front (p.next false).retired slots ∧
      slots.decode = p.behind program.length 2 := by
    cases hstall : accessed.mustStall with
    | true => exact ⟨_, hstands.execute_of_stall hstall, rfl⟩
    | false => exact ⟨_, hstands.execute_of_pass rfl hstall, rfl⟩
  obtain ⟨slots, hslots, hdecode⟩ := hexecuted
  obtain ⟨_, _, hframe, -⟩ := accessed.execute_frame
  have hcycle : accessed.execute.cycle = accessed.cycle := by rw [hframe]
  have hprediction : accessed.execute.prediction = accessed.prediction := by rw [hframe]
  cases hd : p.behind program.length 2 with
  | none =>
    rw [hslots.decodeHazards_of_empty (hdecode.trans hd)]
    rcases Phase.behind_eq_none_iff.1 hd with hlt | hle
    · rw [if_neg (by omega)]
    · rw [Program.branchHazards_of_length_le _ _ (by omega), ite_self]
  | some j =>
    obtain ⟨hj, hlt⟩ := Phase.behind_eq_some_iff.1 hd
    have hfront : p.front - 2 = j := by omega
    rw [hslots.decodeHazards_of_occupied (hdecode.trans hd) hlt, if_pos (by omega), hfront, hcycle, hprediction]

/-- The next phase follows from the program and the settings. -/
theorem next_waits (h : s.InPhase program p) (hretired : s.writeBack = .ok retired)
    (haccessed : retired.opened.memoryAccess = .ok accessed) :
    p.next (Program.waits program accessed.forwarding (p.front - 3)) = p.next accessed.mustStall := by
  rw [h.mustStall_eq hretired haccessed]
  split
  · rename_i hb
    rw [Phase.next_of_memory hb, Phase.next_of_memory hb]
  · rfl

theorem bubble_next (h : s.InPhase program p) (hretired : s.writeBack = .ok retired)
    (haccessed : retired.opened.memoryAccess = .ok accessed) :
    (p.next accessed.mustStall).bubble = .memory ↔ accessed.mustStall = true := by
  rw [Phase.bubble_next_eq_memory_iff]
  constructor
  · exact And.right
  · intro hs
    exact ⟨(h.wait_of_mustStall hretired haccessed hs).1, hs⟩

/-! ## The whole cycle -/

theorem settles (h : s.InPhase program p) (hretired : s.writeBack = .ok t) (hr : p.Rests program.length) :
    Settles program p s t := by
  obtain ⟨pipeline, instructions, completed, storage, ht, hfetched⟩ := writeBack_frame hretired
  have hb := h.fits.bubble_ne_memory hr
  refine
    { inPhase := ⟨h.fits.rested, ?_⟩, frame := ⟨_, _, _, _, ht⟩, fetchedAt := hfetched,
      storage := h.stands.retireSlot_eq (fun i hi => (Phase.retired_next_of_full hi).2.2) hretired }
  rw [Phase.pipeline_rested hb, Phase.retired_rested hb]
  exact h.writeBack hretired

/-- The hazards that the stages log are those of the instructions in execute and in decode. -/
theorem hazards_advanceFront (h : s.InPhase program p) (hretired : s.writeBack = .ok retired)
    (haccessed : retired.opened.memoryAccess = .ok accessed) :
    accessed.advanceFront.hazards = s.hazards ++
      ((if p.bubble = .memory then [] else
          Program.neighbourHazards program s.forwarding accessed.cycle (p.front - 3)) ++
        if 2 ≤ p.front then Program.branchHazards program s.prediction accessed.cycle (p.front - 2) else []) := by
  obtain ⟨_, _, _, _, hframe, -⟩ := accessed_frame hretired haccessed
  obtain ⟨_, _, _, hfront⟩ := accessed.advanceFront_frame
  have hforwarding : accessed.forwarding = s.forwarding := by rw [hframe]
  have hprediction : accessed.prediction = s.prediction := by rw [hframe]
  have hlogged : accessed.hazards = s.hazards := by rw [hframe]
  rw [← hforwarding, ← hprediction, ← h.executeHazards_eq hretired haccessed, ← h.decodeHazards_eq hretired haccessed,
    ← hlogged]
  rw [hfront]

/-- What is remembered of the cycle is the next phase. -/
theorem log_advanceFront (h : s.InPhase program p) (hretired : s.writeBack = .ok retired)
    (haccessed : retired.opened.memoryAccess = .ok accessed) :
    accessed.advanceFront.log = s.log ++
      [{ cycle := accessed.cycle
         stages := ((p.next accessed.mustStall).pipeline program.length).bind fun i => program[i]?.map (·.raw)
         pc := accessed.advanceFront.pc
         stalled := decide ((p.next accessed.mustStall).bubble = .memory) }] := by
  obtain ⟨_, _, _, _, hframe, -⟩ := accessed_frame hretired haccessed
  obtain ⟨_, _, _, hfront⟩ := accessed.advanceFront_frame
  have hstands := h.fetch hretired haccessed rfl
  have hcodes : accessed.advanceFront.codes = program := hstands.codes
  have hslots : accessed.advanceFront.pipeline = _ := hstands.pipeline
  have hlogged : accessed.log = s.log := by rw [hframe]
  have hstalled : decide ((p.next accessed.mustStall).bubble = .memory) = accessed.mustStall := by
    rw [Bool.eq_iff_iff, decide_eq_true_eq]
    exact h.bubble_next hretired haccessed
  rw [hstalled, ← hlogged, ← hslots]
  conv_lhs => rw [hfront]
  rw [hcodes]

/-- The instruction in write-back writes its result before the one in the memory stage does its access. -/
theorem storage_advanceFront (h : s.InPhase program p) (hretired : s.writeBack = .ok retired)
    (haccessed : retired.opened.memoryAccess = .ok accessed) :
    s.storage.retireSlot ((p.pipeline program.length).writeBack.bind (program[·]?)) s.cycle = .ok retired.storage ∧
      retired.storage.accessSlot ((p.pipeline program.length).memory.bind (program[·]?)) accessed.cycle =
        .ok accessed.storage ∧
      accessed.advanceFront.storage = accessed.storage.age accessed.cycle := by
  have hvalid : ∀ stage i, (p.pipeline program.length).get stage = some i → i < program.length :=
    fun _ _ => Phase.lt_of_get_pipeline
  have hopened : retired.opened.Stands program p.front (p.next false).retired (p.cleared program.length) :=
    (h.writeBack hretired).of_eq rfl rfl rfl rfl
  have hnow : retired.opened.cycle = accessed.cycle := by
    obtain ⟨_, _, _, hmemory, -⟩ := memoryAccess_frame haccessed
    rw [hmemory]
  obtain ⟨_, _, _, hfront⟩ := accessed.advanceFront_frame
  refine ⟨h.stands.retireSlot_eq (hvalid .writeBack) hretired, ?_, ?_⟩
  · rw [← hnow]
    exact hopened.accessSlot_eq (hvalid .memory) haccessed
  · rw [hfront]

theorem ticks (h : s.InPhase program p) (hretired : s.writeBack = .ok retired)
    (haccessed : retired.opened.memoryAccess = .ok accessed) (hr : ¬p.Rests program.length) :
    Ticks program p (p.next (Program.waits program s.forwarding (p.front - 3))) s accessed.advanceFront := by
  obtain ⟨_, _, _, _, hframe, hfetched⟩ := accessed_frame hretired haccessed
  obtain ⟨_, _, _, hfront⟩ := accessed.advanceFront_frame
  have hcycle : accessed.advanceFront.cycle = accessed.cycle := by rw [hfront]
  have hclock : accessed.cycle = s.cycle + 1 := by rw [hframe]
  have hforwarding : accessed.forwarding = s.forwarding := by rw [hframe]
  have hprediction : accessed.prediction = s.prediction := by rw [hframe]
  have hnext := h.next_waits hretired haccessed
  rw [hforwarding] at hnext
  rw [hnext]
  have hbubble := h.bubble_next hretired haccessed
  have hstands := h.fetch hretired haccessed rfl
  have hfits : (p.next accessed.mustStall).Fits program.length := by
    apply h.fits.next hr
    intro hs
    have := h.wait_of_mustStall hretired haccessed hs
    omega
  refine
    { inPhase := ⟨hfits, hstands.of_eq rfl rfl rfl rfl⟩, cycle := hcycle.trans hclock, settings := ?_, flags := ?_,
      stalls := ?_, hazards := ?_, log := ?_, fetchedAt := ?_, storage := ?_ }
  · rw [hfront]
    exact ⟨hforwarding, hprediction⟩
  · rw [hfront, hframe]
    exact ⟨rfl, rfl⟩
  · rw [if_congr hbubble rfl rfl, hfront, hframe]
  · rw [hcycle]
    exact h.hazards_advanceFront hretired haccessed
  · rw [hcycle]
    exact h.log_advanceFront hretired haccessed
  · intro i hi
    obtain ⟨_, _, hissue, hissued⟩ := accessed.issued_frame
    have hnow : accessed.execute.decode.issue.cycle = accessed.cycle := by rw [hissue]
    rw [hcycle, ← hnow, ← hfetched, ← hissued]
    exact h.fetchedAt_fetch hretired haccessed rfl hi
  · rw [hcycle]
    exact ⟨_, _, h.storage_advanceFront hretired haccessed⟩

/-- **One cycle.** A program that rests settles, and any other one goes into its next phase. -/
theorem step (h : s.InPhase program p) (hok : s.step = .ok t) :
    p.Rests program.length ∧ Settles program p s t ∨
      ¬p.Rests program.length ∧
        Ticks program p (p.next (Program.waits program s.forwarding (p.front - 3))) s t := by
  obtain ⟨retired, hretired, ⟨hidle, rfl⟩ | ⟨hbusy, accessed, haccessed, rfl⟩⟩ := step_cases hok
  · have hr := (h.isIdle_iff hretired).1 hidle
    exact .inl ⟨hr, h.settles hretired hr⟩
  · have hr : ¬p.Rests program.length := by
      rw [← h.isIdle_iff hretired, hbusy]
      exact Bool.false_ne_true
    exact .inr ⟨hr, h.ticks hretired haccessed hr⟩

end InPhase

end State

end FiveStage
