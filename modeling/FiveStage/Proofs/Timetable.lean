import FiveStage.Proofs.Clock

/-!
# The timetable

In which cycles each instruction is in which stage. Under fixed settings that depends on nothing but the stalls of the
instructions before it: a stall holds up the instruction itself in execute, the next one in decode, the one after that
in fetch, and everything later before it is fetched at all.

Main statements:
* `get_pipeline_iff`: an instruction is in a slot at exactly the times of the timetable;
* `Scheduled.tick`: so it is in the entry that a cycle adds to the log;
* `Engine.run_timetable`: and in the whole log of a run.
-/

namespace FiveStage

namespace Program

variable (program : List Instruction) (forwarding : Bool)

/-- The first cycle in which the instruction at a place is in a stage. -/
def enters (stage : Stage) (j : Nat) : Nat :=
  match stage with
  | .fetch => j + 1 + stallsBefore program forwarding (j - 2)
  | .decode => j + 2 + stallsBefore program forwarding (j - 1)
  | .execute => j + 3 + stallsBefore program forwarding j
  | .memory => j + 4 + stallsBefore program forwarding (j + 1)
  | .writeBack => j + 5 + stallsBefore program forwarding (j + 1)

/-- The last cycle in which the instruction at a place is in a stage. -/
def leaves (stage : Stage) (j : Nat) : Nat :=
  match stage with
  | .fetch => j + 1 + stallsBefore program forwarding (j - 1)
  | .decode => j + 2 + stallsBefore program forwarding j
  | .execute => j + 3 + stallsBefore program forwarding (j + 1)
  | .memory => j + 4 + stallsBefore program forwarding (j + 1)
  | .writeBack => j + 5 + stallsBefore program forwarding (j + 1)

/-- An entry of the log is what the timetable says of its cycle. -/
structure Scheduled (entry : LogEntry) : Prop where
  /-- Each slot holds the instruction whose time it is in the stage, and shows its text. -/
  stages : ∃ slots : Pipeline Nat,
    (∀ stage j, slots.get stage = some j ↔
      j < program.length ∧ enters program forwarding stage j ≤ entry.cycle ∧
        entry.cycle ≤ leaves program forwarding stage j) ∧
    entry.stages = slots.bind fun j => program[j]?.map (·.raw)
  /-- The entry is marked in the cycles in which an instruction waits. -/
  stalled : entry.stalled = true ↔
    ∃ j, waits program forwarding j = true ∧ entry.cycle = (j + 4 + stallsBefore program forwarding j : Nat)

/-- A program has gone through the pipeline by the timetable. -/
structure Timetable (s : State) : Prop where
  codes : s.instructions.toList.map (·.code) = program
  /-- The log has one entry for each cycle. -/
  cycles : s.log.map (·.cycle) =
    (List.range' 1 (program.length + 4 + stallsBefore program forwarding program.length)).map Nat.cast
  log : ∀ entry ∈ s.log, Scheduled program forwarding entry
  /-- What is noted with each instruction is the first cycle of the timetable. -/
  fetched : ∀ (j : Nat) (x : Tracked),
    s.instructions[j]? = some x → x.fetched = (j + 1 + stallsBefore program forwarding (j - 2) : Nat)
  cycle : s.cycle = (program.length + 4 + stallsBefore program forwarding program.length : Nat)
  stalls : s.stalls = stallsBefore program forwarding program.length
  completed : s.completed = program.length

end Program

open Program

namespace Phase

variable {program : List Instruction} {forwarding : Bool} {p : Phase}

/-- The slots hold the instructions whose time it is. -/
theorem get_pipeline_iff (h : p.Follows program forwarding) (n : Nat) (stage : Stage) (j : Nat) :
    (p.pipeline n).get stage = some j ↔
      j < n ∧ enters program forwarding stage j ≤ p.clock program forwarding ∧
        p.clock program forwarding ≤ leaves program forwarding stage j := by
  cases stage with
  | fetch =>
    have htime := clock_between_iff h (j + 1)
    have hlast : j + 1 - 2 = j - 1 := by omega
    rw [hlast] at htime
    show p.behind n 1 = some j ↔ _
    rw [behind_eq_some_iff, ← htime]
    exact and_comm
  | decode =>
    have htime := clock_between_iff h (j + 2)
    show p.behind n 2 = some j ↔ _
    rw [behind_eq_some_iff, ← htime]
    exact and_comm
  | execute =>
    have htime := clock_between_iff h (j + 3)
    show p.behind n 3 = some j ↔ _
    rw [behind_eq_some_iff, ← htime]
    exact and_comm
  | memory =>
    have htime := clock_eq_iff h (j + 4)
    have hindex : j + 4 - 3 = j + 1 := by omega
    rw [hindex] at htime
    have hone : enters program forwarding .memory j ≤ p.clock program forwarding ∧
        p.clock program forwarding ≤ leaves program forwarding .memory j ↔ j + 4 = p.front ∧ p.bubble ≠ .memory := by
      rw [← htime]
      show j + 4 + _ ≤ _ ∧ _ ≤ j + 4 + _ ↔ _
      omega
    show (if p.bubble = .memory then none else p.behind n 4) = some j ↔ _
    rw [hone]
    by_cases hb : p.bubble = .memory
    · rw [if_pos hb]
      exact iff_of_false nofun fun hj => hj.2.2 hb
    · rw [if_neg hb, behind_eq_some_iff]
      exact ⟨fun hj => ⟨hj.2, hj.1, hb⟩, fun hj => ⟨hj.2.1, hj.1⟩⟩
  | writeBack =>
    have htime := clock_eq_succ_iff h (Nat.le_add_left 4 j)
    have hindex : j + 4 - 3 = j + 1 := by omega
    rw [hindex] at htime
    have hone : enters program forwarding .writeBack j ≤ p.clock program forwarding ∧
        p.clock program forwarding ≤ leaves program forwarding .writeBack j ↔
          j + 4 + 1 = p.front ∧ p.bubble = .absent ∨ j + 4 = p.front ∧ p.bubble = .memory := by
      rw [← htime]
      show j + 5 + _ ≤ _ ∧ _ ≤ j + 5 + _ ↔ _
      omega
    rw [hone]
    unfold pipeline Pipeline.get
    cases hb : p.bubble with
    | absent => simp [behind_eq_some_iff, and_comm]
    | memory => simp [behind_eq_some_iff, and_comm]
    | writeBack => simp

/-- An instruction waits in the cycles that leave a bubble in the memory stage. -/
theorem bubble_eq_memory_iff (h : p.Follows program forwarding) :
    p.bubble = .memory ↔
      ∃ j, waits program forwarding j = true ∧
        p.clock program forwarding = j + 4 + stallsBefore program forwarding j := by
  constructor
  · intro hb
    have hw := h.waits_of_memory hb
    have hfront := pos_of_waits hw
    refine ⟨p.front - 3, hw, ?_⟩
    rw [clock, delay, if_pos hb]
    omega
  · rintro ⟨j, hw, hclock⟩
    have hstalls : stallsBefore program forwarding (j + 1) = stallsBefore program forwarding j + 1 := by
      rw [stallsBefore_succ, if_pos hw]
    have hfront : j + 3 = p.front := by
      rw [← clock_between_iff h]
      show j + 3 + stallsBefore program forwarding j ≤ _ ∧ _ ≤ j + 3 + stallsBefore program forwarding (j + 1)
      omega
    have hindex : p.front - 3 = j := by omega
    rw [clock, delay, hindex] at hclock
    by_contra hb
    rw [if_neg hb] at hclock
    omega

end Phase

namespace State

/-- Up to its phase, a state has kept to the timetable. -/
structure Keeps (program : List Instruction) (forwarding : Bool) (p : Phase) (s : State) : Prop where
  cycles : s.log.map (·.cycle) = (List.range' 1 (p.clock program forwarding)).map Nat.cast
  log : ∀ entry ∈ s.log, Scheduled program forwarding entry
  fetched : ∀ j < program.length, j < p.front →
    s.fetchedAt j = (j + 1 + stallsBefore program forwarding (j - 2) : Nat)

namespace Keeps

variable {program : List Instruction} {forwarding prediction : Bool} {p : Phase} {s t : State}

theorem load (s : State) (program : List Instruction) : (s.load program).Keeps program s.forwarding {} :=
  { cycles := rfl, log := nofun, fetched := fun _ _ h => absurd h (Nat.not_lt_zero _) }

theorem settle (h : s.Keeps program forwarding p) (hb : p.bubble ≠ .memory) (hsettles : Settles program p s t) :
    t.Keeps program forwarding p.rested := by
  obtain ⟨_, _, _, _, hframe⟩ := hsettles.frame
  have hlog : t.log = s.log := by rw [hframe]
  refine { cycles := ?_, log := ?_, fetched := ?_ }
  · rw [hlog, Phase.clock_rested hb]
    exact h.cycles
  · rw [hlog]
    exact h.log
  · rw [hsettles.fetchedAt]
    exact h.fetched

/-- The entry that a cycle adds to the log is on time. -/
theorem scheduled_of_tick {q : Phase} {entry : LogEntry} (h : q.Follows program forwarding)
    (hcycle : entry.cycle = q.clock program forwarding)
    (hstages : entry.stages = (q.pipeline program.length).bind fun i => program[i]?.map (·.raw))
    (hstalled : entry.stalled = decide (q.bubble = .memory)) : Scheduled program forwarding entry := by
  refine { stages := ⟨q.pipeline program.length, ?_, hstages⟩, stalled := ?_ }
  · intro stage j
    rw [hcycle, Phase.get_pipeline_iff h, Int.ofNat_le, Int.ofNat_le]
  · rw [hstalled, decide_eq_true_eq, Phase.bubble_eq_memory_iff h, hcycle]
    simp only [Int.natCast_inj]

/-- What is noted with the instruction that is fetched in a cycle is on time. -/
theorem fetched_of_tick {q : Phase} (h : s.Keeps program forwarding p) (hticks : Ticks program p q s t)
    (hq : q.front + (if q.bubble = .memory then 1 else 0) = p.front + 1)
    (hcycle : t.cycle = q.clock program forwarding) {j : Nat} (hj : j < program.length) (hfront : j < q.front) :
    t.fetchedAt j = (j + 1 + stallsBefore program forwarding (j - 2) : Nat) := by
  rw [hticks.fetchedAt j hj]
  split
  · rename_i hnew
    obtain ⟨rfl, hne⟩ := hnew
    have hb : q.bubble ≠ .memory := by
      intro hb
      rw [if_pos hb] at hq
      omega
    rw [if_neg hb, Nat.add_zero] at hq
    have hindex : p.front + 1 - 3 = p.front - 2 := by omega
    rw [hcycle, Phase.clock, Phase.delay, if_neg hb, Nat.add_zero, hq, hindex]
  · rename_i hold
    apply h.fetched j hj
    split at hq <;> omega

theorem tick (h : s.Keeps program forwarding p) (hfollows : p.Follows program forwarding)
    (hs : s.OnTime program forwarding prediction p)
    (hticks : Ticks program p (p.next (waits program forwarding (p.front - 3))) s t) :
    t.Keeps program forwarding (p.next (waits program forwarding (p.front - 3))) := by
  have hclock := Phase.clock_next hfollows
  have hcycle : t.cycle = (p.next (waits program forwarding (p.front - 3))).clock program forwarding := by
    rw [hticks.cycle, hs.cycle, hclock]
    rfl
  refine { cycles := ?_, log := ?_, fetched := ?_ }
  · rw [hticks.log, List.map_append, h.cycles, hclock, List.range'_1_concat, List.map_append, hcycle, hclock]
    simp [Nat.add_comm]
  · intro entry hmem
    rw [hticks.log, List.mem_append, List.mem_singleton] at hmem
    rcases hmem with hmem | rfl
    · exact h.log entry hmem
    · exact scheduled_of_tick hfollows.next hcycle rfl rfl
  · intro j hj hfront
    exact h.fetched_of_tick hticks (Phase.front_next_add ..) hcycle hj hfront

end Keeps

end State

namespace State

variable {program : List Instruction} {forwarding prediction : Bool} {p : Phase} {s : State}

/-- A state that has kept to the timetable to the end has gone by all of it. -/
theorem Keeps.timetable (h : s.Keeps program forwarding p) (hs : s.OnTime program forwarding prediction p)
    (hne : program ≠ []) (hcomplete : s.isComplete = true) : Timetable program forwarding s := by
  have hfront := hs.front_of_isComplete hne hcomplete
  have hdelay := hs.delay_of_isComplete hne hcomplete
  have hclock : p.clock program forwarding = program.length + 4 + stallsBefore program forwarding program.length := by
    rw [Phase.clock, hfront, hdelay]
  have hstands := hs.inPhase.stands
  refine
    { codes := hstands.codes, cycles := ?_, log := h.log, fetched := ?_, cycle := ?_, stalls := ?_, completed := ?_ }
  · rw [← hclock]
    exact h.cycles
  · intro j x hx
    have hj := hstands.lt_of_getElem? hx
    rw [← fetchedAt_eq_of_getElem? hx]
    exact h.fetched j hj (by omega)
  · rw [hs.cycle, hclock]
  · rw [hs.stalls, hdelay]
  · rw [(isComplete_iff.1 hcomplete).1, hstands.size_eq]

end State

/-- **The timetable.** A run under fixed settings that is given enough cycles completes the program, and one that
completes it goes by the timetable from the first cycle to the last. -/
theorem Engine.run_timetable {e e' : Engine State} {text : String} {limit : Int}
    (hne : (Program.parse text).instructions ≠ []) (hok : (e.load text).run limit = .ok e') :
    let program := (Program.parse text).instructions
    (program.length + 4 + stallsBefore program e.state.forwarding program.length < limit →
        e'.state.isComplete = true) ∧
      (e'.state.isComplete = true → Timetable program e.state.forwarding e'.state) := by
  have hrun := state_of_load_run hok
  generalize (Program.parse text).instructions = program at hne hrun ⊢
  obtain ⟨p, hp, hkeeps⟩ := State.OnTime.run_induction (R := State.Keeps program e.state.forwarding)
    (fun _ _ _ hs hk hr hsettles => hk.settle (hs.inPhase.fits.bubble_ne_memory hr) hsettles)
    (fun _ _ _ hs hk hf hticks => hk.tick hf hs hticks)
    (State.OnTime.load e.state program) (State.Keeps.load e.state program) hrun
  refine ⟨?_, ?_⟩
  · intro hlimit
    have hle := hp.clock_le
    rcases (State.InPhase.load e.state program).run_stops hrun with hcomplete | hstop
    · exact hcomplete
    · rw [hp.cycle] at hstop
      omega
  · exact hkeeps.timetable hp hne

/-- A load is waited for, even with forwarding. -/
theorem Engine.run_timetable_load_use :
    let text := "LW R1, 0(R2)\nADD R3, R1, R1\nSUB R4, R3, R1"
    let e : Engine State := { source := .seeded 0, state := { storage := Storage.zero } }
    ∃ e', (e.load text).run 100 = .ok e' ∧ Timetable (Program.parse text).instructions true e'.state ∧
      e'.state.cycle = 8 := by
  intro text e
  have hne : (Program.parse text).instructions ≠ [] := by decide +kernel
  have hlimit : ((Program.parse text).instructions.length + 4 +
      stallsBefore (Program.parse text).instructions e.state.forwarding (Program.parse text).instructions.length : Int) <
        100 := by
    decide +kernel
  have hok : ((e.load text).run 100).toOption.any (fun e' => decide (e'.state.cycle = 8)) = true := by
    decide +kernel
  obtain ⟨e', hrun, hcycle⟩ := State.exists_of_any_toOption hok
  obtain ⟨hcomplete, htimetable⟩ := Engine.run_timetable hne hrun
  exact ⟨e', hrun, htimetable (hcomplete hlimit), of_decide_eq_true hcycle⟩

end FiveStage
