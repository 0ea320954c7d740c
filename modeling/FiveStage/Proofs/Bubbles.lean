import FiveStage.Proofs.Runs
import Mathlib.Data.List.Chain

/-!
# Bubbles

How often instructions wait while the settings change from one cycle to the next. Then there is no telling beforehand
which ones do. But an instruction that has waited finds the stages ahead of it empty, whatever the settings are by then;
so it waits for one cycle at most, and the next cycle is not spent waiting. The first instruction has nothing to wait
for.

Main statements:
* `Phase.stay_next`, `Phase.waited_next`: what a cycle can add to the time in execute, and to the stalls;
* `Noted.tick`: a cycle adds an entry to the log, which is not marked if the one before it is;
* `Engine.load_course_paced`: how the clock, the log and the stalls of a loaded program hang together.
-/

namespace FiveStage

namespace Phase

/-- How many cycles the instruction at a place can have spent in execute: none before it gets there, and two once it has
been held up, which does not happen to the first one. -/
def stay (p : Phase) (i : Nat) : Nat :=
  if p.front < i + 3 then 0 else if i = 0 ∨ p.front = i + 3 ∧ p.bubble ≠ .memory then 1 else 2

/-- How many instructions of a program can have waited: all but the first of those that have been in execute, without
the one that has just got there. -/
def waited (p : Phase) (length : Nat) : Nat :=
  min (if p.bubble = .memory then p.front - 3 else p.front - 4) (length - 1)

/-- A cycle that ends with an instruction in execute is one of those that it can spend there. -/
theorem stay_next {p : Phase} {waits : Bool} (hw : waits = true → 4 ≤ p.front) (i : Nat) :
    p.stay i + (if i + 3 = (p.next waits).front then 1 else 0) ≤ (p.next waits).stay i := by
  by_cases hb : p.bubble = .memory
  · -- The instruction in execute has waited, so it goes on.
    rw [next_of_memory hb]
    simp only [stay, hb]
    grind
  · cases waits with
    | true =>
      have hlow := hw rfl
      rw [next_true_of_ne_memory hb]
      simp only [stay]
      grind
    | false =>
      rw [next_false_of_ne_memory hb]
      simp only [stay]
      grind

theorem stay_rested {p : Phase} (h : p.bubble ≠ .memory) (i : Nat) : p.rested.stay i = p.stay i := by
  simp [stay, rested, h]

/-- A cycle that is spent waiting is that of an instruction that has not waited before. -/
theorem waited_next {p : Phase} {n : Nat} {waits : Bool} (hw : waits = true → 4 ≤ p.front ∧ p.front < n + 3) :
    p.waited n + (if (p.next waits).bubble = .memory then 1 else 0) ≤ (p.next waits).waited n := by
  by_cases hb : p.bubble = .memory
  · rw [next_of_memory hb]
    simp only [waited, hb]
    grind
  · cases waits with
    | true =>
      have := hw rfl
      rw [next_true_of_ne_memory hb]
      simp only [waited, hb]
      grind
    | false =>
      rw [next_false_of_ne_memory hb]
      simp only [waited, hb]
      grind

theorem waited_rested {p : Phase} (h : p.bubble ≠ .memory) (n : Nat) : p.rested.waited n = p.waited n := by
  simp [waited, rested, h]

end Phase

namespace State

/-- In how many cycles of a record the instruction at a place was in execute. -/
def executeTime (cycles : List Cycle) (i : Nat) : Nat :=
  cycles.countP fun c => c.after.pipeline.execute = some i

/-- Whatever the settings have been, the clock of a state and the record of its cycles fit its phase and its stalls. -/
structure Paced (program : List Instruction) (p : Phase) (cycles : List Cycle) (s : State) : Prop where
  /-- A cycle fetches an instruction or is spent waiting. -/
  cycle : s.cycle = p.front + s.stalls
  stalls_le : s.stalls ≤ p.waited program.length
  executeTime_le : ∀ i, executeTime cycles i ≤ p.stay i

/-- Whatever the settings have been, the log of a state fits its clock and its stalls. -/
structure Noted (p : Phase) (s : State) : Prop where
  length : s.log.length = s.cycle
  /-- The log has one entry for each cycle. -/
  cycles : s.log.map (·.cycle) = (List.range' 1 s.log.length).map Nat.cast
  stalls : s.stalls = s.log.countP (·.stalled)
  /-- No two neighbours in the log are marked. -/
  apart : s.log.IsChain fun a b => ¬(a.stalled = true ∧ b.stalled = true)
  /-- The last entry is marked only while an instruction waits. -/
  last : p.bubble ≠ .memory → ∀ entry ∈ s.log.getLast?, entry.stalled = false

variable {program : List Instruction} {p : Phase} {cycles : List Cycle} {s t : State}

/-! ## The pace -/

namespace Paced

theorem load (s : State) (program : List Instruction) : (s.load program).Paced program {} [] where
  cycle := rfl
  stalls_le := Int.natCast_nonneg _
  executeTime_le _ := Nat.zero_le _

theorem applySettings (h : s.Paced program p cycles) (settings : Settings) :
    (s.applySettings settings).Paced program p cycles :=
  ⟨h.cycle, h.stalls_le, h.executeTime_le⟩

/-- The cycle that does not count finds execute empty. -/
theorem settle (h : s.Paced program p cycles) (hb : p.bubble ≠ .memory) (hr : p.Rests program.length)
    (hsettles : Settles program p s t) : t.Paced program p.rested (⟨s, t⟩ :: cycles) := by
  have hempty : t.pipeline.execute = none := by
    rw [hsettles.inPhase.stands.pipeline]
    refine Phase.behind_eq_none_iff.2 ?_
    unfold Phase.Rests at hr
    show p.front < 3 ∨ program.length + 3 ≤ p.front
    omega
  refine { cycle := ?_, stalls_le := ?_, executeTime_le := ?_ }
  · rw [hsettles.cycle, hsettles.stalls]
    exact h.cycle
  · rw [hsettles.stalls, Phase.waited_rested hb]
    exact h.stalls_le
  · intro i
    rw [executeTime, List.countP_cons, hempty, Phase.stay_rested hb]
    exact h.executeTime_le i

theorem tick {waits : Bool} (h : s.Paced program p cycles)
    (hw : waits = true → 4 ≤ p.front ∧ p.front < program.length + 3)
    (hticks : Ticks program p (p.next waits) s t) : t.Paced program (p.next waits) (⟨s, t⟩ :: cycles) := by
  have hcycle := h.cycle
  have hstalls := h.stalls_le
  have hfront := p.front_next_add waits
  have hwaited := Phase.waited_next hw
  refine { cycle := ?_, stalls_le := ?_, executeTime_le := ?_ }
  · rw [hticks.cycle, hticks.stalls]
    by_cases hb : (p.next waits).bubble = .memory
    · rw [if_pos hb] at hfront ⊢
      omega
    · rw [if_neg hb] at hfront ⊢
      omega
  · rw [hticks.stalls]
    by_cases hb : (p.next waits).bubble = .memory
    · rw [if_pos hb] at hwaited ⊢
      omega
    · rw [if_neg hb] at hwaited ⊢
      omega
  · intro i
    have hstay := Phase.stay_next (fun hwait => (hw hwait).1) i
    refine Nat.le_trans ?_ hstay
    rw [executeTime, List.countP_cons]
    refine Nat.add_le_add (h.executeTime_le i) ?_
    rw [hticks.inPhase.stands.pipeline]
    split
    · rename_i hexecute
      have hplace := (Phase.behind_eq_some_iff.1 (of_decide_eq_true hexecute)).1
      rw [if_pos hplace]
    · exact Nat.zero_le _

end Paced

/-! ## The log -/

namespace Noted

theorem stalls_nonneg (h : s.Noted p) : 0 ≤ s.stalls := by
  rw [h.stalls]
  exact Int.natCast_nonneg _

theorem load (s : State) (program : List Instruction) : (s.load program).Noted {} where
  length := rfl
  cycles := rfl
  stalls := rfl
  apart := .nil
  last := nofun

theorem applySettings (h : s.Noted p) (settings : Settings) : (s.applySettings settings).Noted p :=
  ⟨h.length, h.cycles, h.stalls, h.apart, h.last⟩

/-- The cycle that does not count is not in the log. -/
theorem settle (h : s.Noted p) (hb : p.bubble ≠ .memory) (hsettles : Settles program p s t) : t.Noted p.rested := by
  have hlog := hsettles.log
  refine { length := ?_, cycles := ?_, stalls := ?_, apart := ?_, last := ?_ }
  · rw [hlog, hsettles.cycle]
    exact h.length
  · rw [hlog]
    exact h.cycles
  · rw [hlog, hsettles.stalls]
    exact h.stalls
  · rw [hlog]
    exact h.apart
  · rw [hlog]
    exact fun _ => h.last hb

/-- A cycle that counts adds an entry to the log, which is not marked if the one before it is. -/
theorem tick {waits : Bool} (h : s.Noted p) (hticks : Ticks program p (p.next waits) s t) : t.Noted (p.next waits) := by
  have hlength : t.log.length = s.log.length + 1 := by
    rw [hticks.log, List.length_append, List.length_singleton]
  have hcycle : t.cycle = (s.log.length + 1 : Nat) := by
    rw [hticks.cycle, ← h.length, Int.natCast_add]
    rfl
  refine { length := ?_, cycles := ?_, stalls := ?_, apart := ?_, last := ?_ }
  · rw [hlength, hcycle]
  · rw [hlength, List.range'_1_concat, List.map_append, ← h.cycles, hticks.log, List.map_append, hcycle, Nat.add_comm]
    rfl
  · rw [hticks.log, List.countP_append, List.countP_singleton, hticks.stalls, h.stalls, Int.natCast_add]
    simp only [decide_eq_true_eq]
    split <;> rfl
  · rw [hticks.log, List.isChain_append]
    refine ⟨h.apart, .singleton _, ?_⟩
    -- An instruction that waits now finds that none waited in the last cycle.
    rintro entry hentry _ hnext ⟨hbefore, hnow⟩
    obtain rfl := Option.some.inj hnext
    rw [decide_eq_true_eq, Phase.bubble_next_eq_memory_iff] at hnow
    rw [h.last hnow.1 entry hentry] at hbefore
    cases hbefore
  · intro hb entry hentry
    rw [hticks.log, List.getLast?_concat] at hentry
    obtain rfl := Option.some.inj hentry
    exact decide_eq_false hb

end Noted

/-! ## Courses -/

/-- Whatever the settings were in its cycles, a loaded program keeps its pace, and its log is kept. -/
theorem Course.paced (h : (s.load program).Course cycles t) :
    ∃ p, t.InPhase program p ∧ t.Paced program p cycles ∧ t.Noted p := by
  induction h with
  | refl => exact ⟨{}, InPhase.load s program, Paced.load s program, Noted.load s program⟩
  | applySettings settings _ ih =>
    obtain ⟨p, hp, hpaced, hnoted⟩ := ih
    exact ⟨p, hp.applySettings settings, hpaced.applySettings settings, hnoted.applySettings settings⟩
  | step _ hok ih =>
    obtain ⟨p, hp, hpaced, hnoted⟩ := ih
    obtain ⟨hr, hsettles⟩ | ⟨-, hticks⟩ := hp.step hok
    · have hb := hp.fits.bubble_ne_memory hr
      exact ⟨_, hsettles.inPhase, hpaced.settle hb hr hsettles, hnoted.settle hb hsettles⟩
    · refine ⟨_, hticks.inPhase, hpaced.tick ?_ hticks, hnoted.tick hticks⟩
      intro hwaits
      have hlow := Program.pos_of_waits hwaits
      have hhigh := Program.lt_of_waits hwaits
      omega

end State

namespace Engine

open State

/-- **Bubbles.** Whatever the settings are from cycle to cycle of a loaded program, its log has one entry for each cycle,
of which as many are marked as were spent waiting, and no two neighbours. No instruction is in execute for more than two
cycles, and the first one not for more than one. A program that is complete has taken four cycles more than it has
instructions, and one for each stall, of which there are fewer than instructions. -/
theorem load_course_paced {e : Engine State} {text : String} {cycles : List State.Cycle} {s : State}
    (h : (e.load text).state.Course cycles s) :
    let program := (Program.parse text).instructions
    (s.log.length = s.cycle ∧ s.log.map (·.cycle) = (List.range' 1 s.log.length).map Nat.cast) ∧
      s.stalls = s.log.countP (·.stalled) ∧
      (s.log.IsChain fun a b => ¬(a.stalled = true ∧ b.stalled = true)) ∧
      (∀ i, cycles.countP (fun c => c.after.pipeline.execute = some i) ≤ if i = 0 then 1 else 2) ∧
      (program ≠ [] → s.isComplete = true →
        s.cycle = program.length + 4 + s.stalls ∧ s.stalls ≤ program.length - 1) := by
  intro program
  have hcourse : (e.state.load program).Course cycles s := h
  obtain ⟨p, hp, hpaced, hnoted⟩ := hcourse.paced
  refine ⟨⟨hnoted.length, hnoted.cycles⟩, hnoted.stalls, hnoted.apart, ?_, ?_⟩
  · intro i
    refine (hpaced.executeTime_le i).trans ?_
    unfold Phase.stay
    grind
  · intro hne hc
    have hfront := hp.front_of_isComplete hne hc
    have hcycle := hpaced.cycle
    have hstalls := hpaced.stalls_le
    have hpos := List.length_pos_iff.2 hne
    unfold Phase.waited at hstalls
    omega

/-- Forwarding spares the second instruction the wait, but is off by the time the third one gets to execute. -/
theorem load_course_paced_toggled :
    let text := "ADD R1, R2, R3\nADD R4, R1, R5\nADD R6, R4, R7"
    let e : Engine State := { source := .seeded 0, state := { storage := .zero } }
    ∃ cycles s, (e.load text).state.Course cycles s ∧ s.isComplete = true ∧ s.cycle = 3 + 4 + s.stalls ∧
      s.log.map (·.stalled) = [false, false, false, false, false, true, false, false] ∧ s.stalls = 1 ∧
        cycles.countP (fun c => c.after.pipeline.execute = some 2) ≤ 2 := by
  intro text e
  have hok : ((e.load text).state.run 5).toOption.any (fun s =>
      ((s.applySettings { forwarding := false, prediction := false }).run 100).toOption.any fun t =>
        t.isComplete && decide (t.log.map (·.stalled) = [false, false, false, false, false, true, false, false])) =
      true := by
    decide +kernel
  obtain ⟨s, hs, hrest⟩ := exists_of_any_toOption hok
  obtain ⟨t, ht, hresult⟩ := exists_of_any_toOption hrest
  rw [Bool.and_eq_true, decide_eq_true_eq] at hresult
  obtain ⟨first, hfirst⟩ := Course.refl.run hs
  obtain ⟨second, hsecond⟩ := (hfirst.applySettings _).run ht
  obtain ⟨-, hstalls, -, htime, hend⟩ := load_course_paced hsecond
  have hcount : t.log.countP (·.stalled) = 1 := by
    have hmap : t.log.countP (·.stalled) = (t.log.map (·.stalled)).countP id := by
      rw [List.countP_map]
      rfl
    rw [hmap, hresult.2]
    rfl
  have hne : (Program.parse text).instructions ≠ [] := by decide +kernel
  have hlength : (Program.parse text).instructions.length = 3 := by decide +kernel
  have hcycle := (hend hne hresult.1).1
  rw [hlength] at hcycle
  refine ⟨_, t, hsecond, hresult.1, hcycle, hresult.2, ?_, htime 2⟩
  rw [hstalls, hcount]
  rfl

end Engine

end FiveStage
