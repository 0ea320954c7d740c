import FiveStage.Proofs.Runs

/-!
# The load-use estimate

While an instruction is in decode, the one ahead of it is in execute. With forwarding, the later one has to wait exactly
if the other one is a load that writes what it reads, and this is what the estimate looks at. Whether it does wait is
found out when it gets to execute itself, which may be a cycle later than usual because the load has had to wait, too.
By then the load is in write-back, but it is still the same load.

Main statements:
* `InPhase.stallEstimate_eq`: the estimate tells whether the instruction in decode has to wait;
* `Phase.held_next`: in which cycle it does;
* `Course.held_eq`: the cycles of a record in which an instruction that was in decode has been held up;
* `Engine.load_stallEstimate`: the estimate is their number.
-/

namespace FiveStage

/-- With a destination, what is no arithmetic is a load. -/
theorem Opcode.eq_lw_iff_of_writes {op : Opcode} (h : op.semantics.writes ≠ []) : op = .lw ↔ ¬op.isAlu = true := by
  revert h
  cases op <;> decide

theorem Instruction.eq_lw_iff_of_mem_writes {i : Instruction} {operand : String} (h : operand ∈ i.writes) :
    i.opcode = .lw ↔ ¬i.opcode.isAlu = true := by
  refine Opcode.eq_lw_iff_of_writes fun hnil => ?_
  rw [Instruction.writes, hnil] at h
  cases h

namespace Phase

/-- How often the instruction at a place has been held up in execute with forwarding: once if it has to wait and has got
beyond the first cycle that it spends there. -/
def held (p : Phase) (program : List Instruction) (i : Nat) : Nat :=
  if (i + 3 < p.front ∨ p.front = i + 3 ∧ p.bubble = .memory) ∧ Program.waits program true i = true then 1 else 0

variable {program : List Instruction} {p : Phase} {i : Nat}

/-- An instruction is held up in a cycle that leaves a bubble ahead of it. -/
theorem held_next (p : Phase) (program : List Instruction) (i : Nat) :
    (p.next (Program.waits program true (p.front - 3))).held program i = p.held program i +
      if (p.next (Program.waits program true (p.front - 3))).bubble = .memory ∧ p.front = i + 3 then 1 else 0 := by
  by_cases hb : p.bubble = .memory
  · rw [next_of_memory hb]
    simp only [held, hb]
    grind
  · cases hwaits : Program.waits program true (p.front - 3) with
    | true =>
      rw [next_true_of_ne_memory hb]
      simp only [held, hb]
      grind
    | false =>
      rw [next_false_of_ne_memory hb]
      simp only [held, hb]
      grind

theorem held_rested (hb : p.bubble ≠ .memory) (program : List Instruction) (i : Nat) :
    p.rested.held program i = p.held program i := by
  simp [held, rested, hb]

theorem held_of_front (h : p.front = i + 2) : p.held program i = 0 := by
  rw [held, if_neg]
  omega

/-- Once it is behind execute, an instruction that had to wait has waited. -/
theorem held_of_passed (hi : i + 2 ≤ p.front) (hlt : i < program.length)
    (hdecode : (p.pipeline program.length).decode ≠ some i) (hexecute : (p.pipeline program.length).execute ≠ some i) :
    p.held program i = if Program.waits program true i = true then 1 else 0 := by
  have hnotDecode : p.front ≠ i + 2 := fun hfront => hdecode (behind_eq_some_iff.2 ⟨hfront.symm, hlt⟩)
  have hnotExecute : p.front ≠ i + 3 := fun hfront => hexecute (behind_eq_some_iff.2 ⟨hfront.symm, hlt⟩)
  have hpassed : i + 3 < p.front := by omega
  simp [held, hpassed]

end Phase

namespace State

variable {program : List Instruction} {p : Phase} {s t : State} {i : Nat}

/-! ## The estimate -/

/-- The estimate for the instruction in decode tells whether it has to wait with forwarding. -/
theorem InPhase.stallEstimate_eq (h : s.InPhase program p) {i : Placed} (hi : s.placed.decode = some i) :
    Hazard.stallEstimate i s.placed = if Program.waits program true i.index = true then 1 else 0 := by
  obtain ⟨hslot, hconsumer⟩ := h.stands.of_placed .decode hi
  obtain ⟨hfront, hlt⟩ := Phase.behind_eq_some_iff.1 hslot
  unfold Hazard.stallEstimate
  cases hindex : i.index with
  | zero =>
    have hempty : s.placed.execute = none :=
      h.stands.placed_of_empty .execute (Phase.behind_eq_none_iff.2 (by omega))
    rw [hempty]
    rfl
  | succ j =>
    rw [hindex] at hconsumer
    have hexecute : (p.pipeline program.length).get .execute = some j := Phase.behind_eq_some_iff.2 (by omega)
    obtain ⟨x, -, hproducer⟩ := h.stands.exists_of_lt (by omega : j < program.length)
    obtain ⟨_, hx⟩ := h.stands.placed_of_occupied .execute hexecute hproducer
    have hx : s.placed.execute = _ := hx
    rw [hx]
    dsimp only
    refine if_congr ?_ rfl rfl
    rw [Program.waits_succ_iff]
    constructor
    · rintro ⟨-, hload, register, hread, hwritten⟩
      refine ⟨_, _, hproducer, hconsumer, ⟨register, hread, hwritten⟩, ?_⟩
      rintro ⟨-, halu⟩
      exact (Instruction.eq_lw_iff_of_mem_writes hwritten).1 hload halu
    · rintro ⟨producer, consumer, hp, hc, ⟨register, hread, hwritten⟩, hwaits⟩
      rw [hproducer, Option.some.injEq] at hp
      rw [hconsumer, Option.some.injEq] at hc
      subst hp hc
      have hload := (Instruction.eq_lw_iff_of_mem_writes hwritten).2 fun halu => hwaits ⟨rfl, halu⟩
      exact ⟨by omega, hload, register, hread, hwritten⟩

/-! ## The cycles -/

/-- The cycle is logged as one that was spent waiting, with the instruction at a place in execute. -/
def Cycle.holds (i : Nat) (c : Cycle) : Bool :=
  (c.after.log.drop c.before.log.length).any (·.stalled) && decide (c.after.pipeline.execute = some i)

theorem Settles.holds_eq_false (h : Settles program p s t) : Cycle.holds i ⟨s, t⟩ = false := by
  rw [Cycle.holds, h.log, List.drop_length]
  rfl

/-- The instruction in execute is held up in a cycle that leaves a bubble ahead of it. -/
theorem Ticks.holds_iff {waits : Bool} (h : Ticks program p (p.next waits) s t) (hlt : i < program.length) :
    Cycle.holds i ⟨s, t⟩ = true ↔ (p.next waits).bubble = .memory ∧ p.front = i + 3 := by
  have hexecute : t.pipeline.execute = (p.next waits).behind program.length 3 :=
    congrArg Pipeline.execute h.inPhase.stands.pipeline
  rw [Cycle.holds, h.log, List.drop_left, List.any_cons, List.any_nil, Bool.or_false, Bool.and_eq_true,
    decide_eq_true_eq, decide_eq_true_eq, hexecute, Phase.behind_eq_some_iff]
  have hfront := p.front_next_add waits
  constructor
  · rintro ⟨hb, hi, -⟩
    rw [if_pos hb] at hfront
    exact ⟨hb, by omega⟩
  · rintro ⟨hb, hi⟩
    rw [if_pos hb] at hfront
    exact ⟨hb, by omega, hlt⟩

/-- How often an instruction that was in decode has been held up since, with forwarding. -/
theorem Course.held_eq {cycles : List Cycle} (h : s.Course cycles t) (hs : s.InPhase program p)
    (hfront : p.front = i + 2) (hlt : i < program.length) (hforwarding : ∀ c ∈ cycles, c.before.forwarding = true) :
    ∃ q, t.InPhase program q ∧ i + 2 ≤ q.front ∧ cycles.countP (Cycle.holds i) = q.held program i := by
  induction h with
  | refl => exact ⟨p, hs, hfront.ge, (Phase.held_of_front hfront).symm⟩
  | applySettings settings _ ih =>
    obtain ⟨q, hq, hplace, hcount⟩ := ih hforwarding
    exact ⟨q, hq.applySettings settings, hplace, hcount⟩
  | @step cycles before after _ hok ih =>
    obtain ⟨hon, hrest⟩ := List.forall_mem_cons.1 hforwarding
    obtain ⟨q, hq, hplace, hcount⟩ := ih hrest
    rcases hq.step hok with ⟨hr, hsettles⟩ | ⟨-, hticks⟩
    · have hb := hq.fits.bubble_ne_memory hr
      refine ⟨q.rested, hsettles.inPhase, hplace, ?_⟩
      rw [List.countP_cons, hsettles.holds_eq_false, if_neg Bool.false_ne_true, Phase.held_rested hb]
      exact hcount
    · have hon : before.forwarding = true := hon
      rw [hon] at hticks
      have hstep := q.front_next_add (Program.waits program true (q.front - 3))
      refine ⟨_, hticks.inPhase, ?_, ?_⟩
      · split at hstep <;> omega
      · rw [List.countP_cons, Phase.held_next, hcount]
        simp only [hticks.holds_iff hlt]

end State

namespace Engine

open State

/-- **The load-use estimate.** Let a text be loaded, whatever the storage is and whatever the settings have been, and
let an instruction be in decode. As long as results are forwarded from then on, the number of cycles that are logged as
spent waiting with this instruction in execute is at most what the estimate says, which is one at most. It is what the
estimate says as soon as the instruction is behind execute, and so when the program is complete. -/
theorem load_stallEstimate {e : Engine State} {text : String} {earlier later : List State.Cycle} {s t : State}
    {i : Placed} (h : (e.load text).state.Course earlier s) (hdecode : s.placed.decode = some i)
    (hlater : s.Course later t) (hforwarding : ∀ c ∈ later, c.before.forwarding = true) :
    let held := later.countP (Cycle.holds i.index)
    held ≤ Hazard.stallEstimate i s.placed ∧ Hazard.stallEstimate i s.placed ≤ 1 ∧
      (t.pipeline.decode ≠ some i.index → t.pipeline.execute ≠ some i.index →
        held = Hazard.stallEstimate i s.placed) ∧
      (t.isComplete = true → held = Hazard.stallEstimate i s.placed) := by
  intro held
  have hproceeds : (e.state.load (Program.parse text).instructions).Proceeds s := h.proceeds
  obtain ⟨p, hp⟩ := hproceeds.inPhase
  have hestimate := hp.stallEstimate_eq hdecode
  obtain ⟨hslot, -⟩ := hp.stands.of_placed .decode hdecode
  obtain ⟨hfront, hlt⟩ := Phase.behind_eq_some_iff.1 hslot
  obtain ⟨q, hq, hplace, hcount⟩ := hlater.held_eq hp hfront.symm hlt hforwarding
  have hcount : held = q.held _ i.index := hcount
  have hpassed : t.pipeline.decode ≠ some i.index → t.pipeline.execute ≠ some i.index →
      held = Hazard.stallEstimate i s.placed := by
    rw [hq.stands.pipeline, hestimate, hcount]
    exact Phase.held_of_passed hplace hlt
  refine ⟨?_, ?_, hpassed, fun hcomplete => ?_⟩
  · rw [hestimate, hcount]
    unfold Phase.held
    grind
  · rw [hestimate]
    split <;> decide
  · have hempty := (Pipeline.isEmpty_iff _).1 (isComplete_iff.1 hcomplete).2
    have hdecode : t.pipeline.decode = none := hempty .decode
    have hexecute : t.pipeline.execute = none := hempty .execute
    exact hpassed (by rw [hdecode]; exact nofun) (by rw [hexecute]; exact nofun)

/-- A sum waits for a load that is itself held up, for the load ahead of it, after the estimate. -/
theorem load_stallEstimate_loads :
    let e : Engine State := { source := .seeded 0, state := { storage := .zero } }
    let text := "LW R1, 0(R2)\nLW R3, 0(R1)\nADD R5, R3, R4"
    ∃ earlier later s t i, (e.load text).state.Course earlier s ∧ s.placed.decode = some i ∧ s.Course later t ∧
      (∀ c ∈ later, c.before.forwarding = true) ∧ t.isComplete = true ∧
        t.log.map (·.stalled) = [false, false, false, false, true, false, true, false, false] ∧
          Hazard.stallEstimate i s.placed = 1 ∧ later.countP (Cycle.holds i.index) = 1 := by
  intro e text
  let schedule : List Settings := List.replicate 6 {}
  have hok : ((e.load text).state.run 4).toOption.any (fun s => (s.follow schedule).toOption.any fun t =>
      s.placed.decode.any (fun i => decide (Hazard.stallEstimate i s.placed = 1)) && t.isComplete &&
        decide (t.log.map (·.stalled) = [false, false, false, false, true, false, true, false, false])) = true := by
    decide +kernel
  obtain ⟨s, hs, hrest⟩ := exists_of_any_toOption hok
  obtain ⟨t, ht, hresult⟩ := exists_of_any_toOption hrest
  rw [Bool.and_eq_true, Bool.and_eq_true, decide_eq_true_eq] at hresult
  obtain ⟨⟨hestimate, hcomplete⟩, hlog⟩ := hresult
  obtain ⟨i, hdecode, hone⟩ := (Option.any_eq_true _ _).1 hestimate
  rw [decide_eq_true_eq] at hone
  obtain ⟨earlier, hearlier⟩ := Course.refl.run hs
  obtain ⟨later, hlater, hsettings⟩ := Course.refl.follow ht
  rw [List.append_nil] at hlater
  have hforwarding : ∀ c ∈ later, c.before.forwarding = true := by
    intro c hc
    have hmem : c.settings ∈ later.map Cycle.settings := List.mem_map_of_mem hc
    rw [hsettings] at hmem
    have hsame : c.settings = (true, false) := by simpa [schedule] using hmem
    exact congrArg Prod.fst hsame
  obtain ⟨-, -, -, hheld⟩ := load_stallEstimate hearlier hdecode hlater hforwarding
  exact ⟨_, later, s, t, i, hearlier, hdecode, hlater, hforwarding, hcomplete, hlog, hone,
    (hheld hcomplete).trans hone⟩

end Engine

end FiveStage
