import FiveStage.Proofs.Runs

/-!
# The clock of a phase

Under fixed settings, the program alone decides when it is in which phase: each instruction that is fetched takes a
cycle, and each one that waits takes one more. So the clock can be read off the phase, and off the clock, the phase.

Main statements:
* `clock_next`: the clock of the next phase is one ahead;
* `clock_between_iff`, `clock_eq_iff`, `clock_eq_retiring_iff`: which phase it is at a given time;
* `OnTime.step`, `OnTime.run_induction`: a run under fixed settings keeps to the clock of its phases.
-/

namespace FiveStage

open Program

namespace Phase

variable (program : List Instruction) (forwarding : Bool) (p : Phase)

/-- How many cycles were spent waiting. -/
def delay : Nat :=
  stallsBefore program forwarding (p.front - 3) + if p.bubble = .memory then 1 else 0

/-- How many cycles have passed. -/
def clock : Nat :=
  p.front + p.delay program forwarding

/-- The bubble is where the instructions of the program have left it: the one in execute has just waited, or the one
ahead of it waited before. -/
def Follows : Prop :=
  match p.bubble with
  | .absent => waits program forwarding (p.front - 4) = false
  | .memory => waits program forwarding (p.front - 3) = true
  | .writeBack => waits program forwarding (p.front - 4) = true

/-- One more instruction than before adds its own stall. -/
theorem stallsBefore_advance (front : Nat) :
    stallsBefore program forwarding (front - 2) =
      stallsBefore program forwarding (front - 3) + if waits program forwarding (front - 3) then 1 else 0 := by
  rcases Nat.lt_or_ge front 3 with hlt | hle
  · have hnow : front - 3 = 0 := by omega
    have hnext : front - 2 = 0 := by omega
    rw [hnow, hnext]
    rfl
  · have hnext : front - 2 = front - 3 + 1 := by omega
    rw [hnext, stallsBefore_succ]

variable {program forwarding p}

theorem Follows.waits_of_memory (h : p.Follows program forwarding) (hb : p.bubble = .memory) :
    waits program forwarding (p.front - 3) = true := by
  rw [Follows, hb] at h
  exact h

/-- Whatever the bubble, the next one is where it should be. -/
theorem Follows.next (h : p.Follows program forwarding) :
    (p.next (waits program forwarding (p.front - 3))).Follows program forwarding := by
  have hindex : p.front + 1 - 4 = p.front - 3 := by omega
  by_cases hb : p.bubble = .memory
  · rw [next_of_memory hb]
    show waits program forwarding (p.front + 1 - 4) = true
    rw [hindex]
    exact h.waits_of_memory hb
  · cases hw : waits program forwarding (p.front - 3) with
    | true =>
      rw [next_true_of_ne_memory hb]
      exact hw
    | false =>
      rw [next_false_of_ne_memory hb]
      show waits program forwarding (p.front + 1 - 4) = false
      rw [hindex]
      exact hw

/-- A cycle that leaves a bubble in the memory stage was spent waiting. -/
theorem delay_next (h : p.Follows program forwarding) :
    (p.next (waits program forwarding (p.front - 3))).delay program forwarding =
      p.delay program forwarding +
        if (p.next (waits program forwarding (p.front - 3))).bubble = .memory then 1 else 0 := by
  have hadvance := stallsBefore_advance program forwarding p.front
  have hindex : p.front + 1 - 3 = p.front - 2 := by omega
  by_cases hb : p.bubble = .memory
  · rw [if_pos (h.waits_of_memory hb)] at hadvance
    rw [next_of_memory hb, delay, delay, hindex, hadvance, hb]
    rfl
  · cases hw : waits program forwarding (p.front - 3) with
    | true =>
      rw [next_true_of_ne_memory hb, delay, delay, if_neg hb]
      rfl
    | false =>
      rw [if_neg (by rw [hw]; exact Bool.false_ne_true)] at hadvance
      rw [next_false_of_ne_memory hb, delay, delay, hindex, hadvance, if_neg hb]

/-- The clock of the next phase is one ahead. -/
theorem clock_next (h : p.Follows program forwarding) :
    (p.next (waits program forwarding (p.front - 3))).clock program forwarding = p.clock program forwarding + 1 := by
  have hdelay := delay_next h
  have hfront := front_next_add p (waits program forwarding (p.front - 3))
  unfold clock
  omega

theorem delay_rested (h : p.bubble ≠ .memory) : p.rested.delay program forwarding = p.delay program forwarding := by
  rw [delay, delay, if_neg h]
  rfl

theorem clock_rested (h : p.bubble ≠ .memory) : p.rested.clock program forwarding = p.clock program forwarding := by
  rw [clock, clock, delay_rested h]
  rfl

/-! ## When a phase is -/

/-- Only the instruction in execute can have added a stall already. -/
theorem delay_bounds (h : p.Follows program forwarding) :
    stallsBefore program forwarding (p.front - 3) ≤ p.delay program forwarding ∧
      p.delay program forwarding ≤ stallsBefore program forwarding (p.front - 2) := by
  have hadvance := stallsBefore_advance program forwarding p.front
  unfold delay
  by_cases hb : p.bubble = .memory
  · rw [if_pos (h.waits_of_memory hb)] at hadvance
    rw [if_pos hb]
    omega
  · rw [if_neg hb]
    omega

/-- Earlier counts are over. -/
theorem lt_clock_of_lt {x : Nat} (h : p.Follows program forwarding) (hx : x < p.front) :
    x + stallsBefore program forwarding (x - 2) < p.clock program forwarding := by
  have hmono : stallsBefore program forwarding (x - 2) ≤ stallsBefore program forwarding (p.front - 3) :=
    stallsBefore_mono (by omega)
  have := (delay_bounds h).1
  unfold clock
  omega

/-- Later counts are yet to come. -/
theorem clock_lt_of_lt {x : Nat} (h : p.Follows program forwarding) (hx : p.front < x) :
    p.clock program forwarding < x + stallsBefore program forwarding (x - 3) := by
  have hmono : stallsBefore program forwarding (p.front - 2) ≤ stallsBefore program forwarding (x - 3) :=
    stallsBefore_mono (by omega)
  have := (delay_bounds h).2
  unfold clock
  omega

/-- A count lasts from its first cycle, without the stall of the instruction in execute, to its last one. -/
theorem clock_between_iff (h : p.Follows program forwarding) (x : Nat) :
    x + stallsBefore program forwarding (x - 3) ≤ p.clock program forwarding ∧
        p.clock program forwarding ≤ x + stallsBefore program forwarding (x - 2) ↔ x = p.front := by
  rcases Nat.lt_trichotomy x p.front with hlt | rfl | hgt
  · have := lt_clock_of_lt h hlt
    omega
  · have := delay_bounds h
    unfold clock
    omega
  · have := clock_lt_of_lt h hgt
    omega

/-- In its first cycle there is no bubble in the memory stage. -/
theorem clock_eq_iff (h : p.Follows program forwarding) (x : Nat) :
    p.clock program forwarding = x + stallsBefore program forwarding (x - 3) ↔ x = p.front ∧ p.bubble ≠ .memory := by
  rcases Nat.lt_trichotomy x p.front with hlt | rfl | hgt
  · have hover := lt_clock_of_lt h hlt
    have hmono : stallsBefore program forwarding (x - 3) ≤ stallsBefore program forwarding (x - 2) :=
      stallsBefore_mono (by omega)
    omega
  · unfold clock delay
    by_cases hb : p.bubble = .memory
    · simp [hb]
    · simp [hb]
  · have := clock_lt_of_lt h hgt
    omega

/-- In the cycle after that, an instruction is in write-back, unless it is held up at once by the next one. -/
theorem clock_eq_succ_iff (h : p.Follows program forwarding) {x : Nat} (hx : 4 ≤ x) :
    p.clock program forwarding = x + 1 + stallsBefore program forwarding (x - 3) ↔
      x + 1 = p.front ∧ p.bubble = .absent ∨ x = p.front ∧ p.bubble = .memory := by
  rcases Nat.lt_trichotomy (x + 1) p.front with hlt | heq | hgt
  · have hover := lt_clock_of_lt h hlt
    have hmono : stallsBefore program forwarding (x - 3) ≤ stallsBefore program forwarding (x + 1 - 2) :=
      stallsBefore_mono (by omega)
    omega
  · have hindex : p.front - 4 = x - 3 := by omega
    have hnext : p.front - 3 = x - 2 := by omega
    have hstalls := stallsBefore_advance program forwarding x
    unfold Follows at h
    unfold clock delay
    rw [hindex, hnext] at h
    rw [hnext, ← heq]
    cases hb : p.bubble with
    | absent =>
      rw [hb] at h
      rw [if_neg (by rw [h]; exact Bool.false_ne_true)] at hstalls
      exact iff_of_true (by simp [hstalls]) (.inl ⟨rfl, rfl⟩)
    | memory =>
      refine iff_of_false ?_ ?_
      · rw [if_pos rfl]
        omega
      · simp
    | writeBack =>
      rw [hb] at h
      rw [if_pos h] at hstalls
      refine iff_of_false ?_ ?_
      · rw [if_neg nofun]
        omega
      · simp
  · have hone : p.front ≤ x := by omega
    have hmono : stallsBefore program forwarding (p.front - 3) ≤ stallsBefore program forwarding (x - 3) :=
      stallsBefore_mono (by omega)
    unfold clock delay
    rcases Nat.eq_or_lt_of_le hone with rfl | hlt
    · by_cases hb : p.bubble = .memory
      · rw [if_pos hb]
        exact iff_of_true (by omega) (.inr ⟨rfl, hb⟩)
      · rw [if_neg hb]
        refine iff_of_false (by omega) ?_
        rintro (⟨hx, -⟩ | ⟨-, hx⟩)
        · omega
        · exact hb hx
    · refine iff_of_false ?_ (by omega)
      split <;> omega

end Phase

namespace State

/-- Under fixed settings, the state is in a phase of a program, and its counters are those of the phase. -/
structure OnTime (program : List Instruction) (forwarding prediction : Bool) (p : Phase) (s : State) : Prop where
  inPhase : s.InPhase program p
  settings : s.forwarding = forwarding ∧ s.prediction = prediction
  /-- Once the program rests, there is no telling where its last bubble was. -/
  follows : ¬p.Rests program.length → p.Follows program forwarding
  cycle : s.cycle = p.clock program forwarding
  stalls : s.stalls = p.delay program forwarding

namespace OnTime

variable {program : List Instruction} {forwarding prediction : Bool} {p : Phase} {s t : State}

theorem load (s : State) (program : List Instruction) :
    (s.load program).OnTime program s.forwarding s.prediction {} :=
  { inPhase := InPhase.load s program, settings := ⟨rfl, rfl⟩, follows := fun _ => rfl, cycle := rfl, stalls := rfl }

theorem settle (h : s.OnTime program forwarding prediction p) (hr : p.Rests program.length)
    (hsettles : Settles program p s t) : t.OnTime program forwarding prediction p.rested := by
  have hb := h.inPhase.fits.bubble_ne_memory hr
  obtain ⟨_, _, _, _, hframe⟩ := hsettles.frame
  refine
    { inPhase := hsettles.inPhase, settings := ?_, follows := fun hn => absurd hr hn, cycle := ?_, stalls := ?_ }
  · rw [hframe]
    exact h.settings
  · rw [Phase.clock_rested hb, hframe]
    exact h.cycle
  · rw [Phase.delay_rested hb, hframe]
    exact h.stalls

theorem tick (h : s.OnTime program forwarding prediction p) (hr : ¬p.Rests program.length)
    (hticks : Ticks program p (p.next (waits program forwarding (p.front - 3))) s t) :
    t.OnTime program forwarding prediction (p.next (waits program forwarding (p.front - 3))) := by
  have hfollows := h.follows hr
  obtain ⟨hforwarding, hprediction⟩ := hticks.settings
  refine
    { inPhase := hticks.inPhase, settings := ?_, follows := fun _ => hfollows.next, cycle := ?_, stalls := ?_ }
  · exact ⟨hforwarding.trans h.settings.1, hprediction.trans h.settings.2⟩
  · rw [hticks.cycle, h.cycle, Phase.clock_next hfollows]
    rfl
  · rw [hticks.stalls, h.stalls, Phase.delay_next hfollows]
    split <;> simp

/-- A cycle leads to the next phase or to rest. -/
theorem step (h : s.OnTime program forwarding prediction p) (hok : s.step = .ok t) :
    p.Rests program.length ∧ Settles program p s t ∨
      ¬p.Rests program.length ∧ Ticks program p (p.next (waits program forwarding (p.front - 3))) s t := by
  have hstep := h.inPhase.step hok
  rw [h.settings.1] at hstep
  exact hstep

/-- What every cycle keeps of a state in its phase, a run under fixed settings keeps. -/
theorem run_induction {R : Phase → State → Prop}
    (hsettle : ∀ p s t, s.OnTime program forwarding prediction p → R p s → p.Rests program.length →
      Settles program p s t → R p.rested t)
    (htick : ∀ p s t, s.OnTime program forwarding prediction p → R p s → p.Follows program forwarding →
      Ticks program p (p.next (waits program forwarding (p.front - 3))) s t →
        R (p.next (waits program forwarding (p.front - 3))) t)
    {limit : Int} (h : s.OnTime program forwarding prediction p) (hs : R p s) (hok : s.run limit = .ok t) :
    ∃ q, t.OnTime program forwarding prediction q ∧ R q t := by
  refine State.run_induction (P := fun t => ∃ q, t.OnTime program forwarding prediction q ∧ R q t) ?_ ⟨p, h, hs⟩ hok
  rintro s t ⟨p, hp, hr⟩ hstep
  obtain ⟨hrests, hsettles⟩ | ⟨hruns, hticks⟩ := hp.step hstep
  · exact ⟨_, hp.settle hrests hsettles, hsettle p s t hp hr hrests hsettles⟩
  · exact ⟨_, hp.tick hruns hticks, htick p s t hp hr (hp.follows hruns) hticks⟩

/-- No phase is later than the last one. -/
theorem clock_le (h : s.OnTime program forwarding prediction p) :
    p.clock program forwarding ≤ program.length + 4 + stallsBefore program forwarding program.length := by
  obtain ⟨hle, hheld⟩ := h.inPhase.fits
  have hlast : stallsBefore program forwarding (p.front - 3) ≤ stallsBefore program forwarding program.length := by
    rw [← stallsBefore_of_length_le (Nat.le_succ program.length)]
    exact stallsBefore_mono (by omega)
  unfold Phase.clock Phase.delay
  by_cases hb : p.bubble = .memory
  · have := hheld hb
    rw [if_pos hb]
    omega
  · rw [if_neg hb]
    omega

/-- A program that is complete has been through all of its phases. -/
theorem front_of_isComplete (h : s.OnTime program forwarding prediction p) (hne : program ≠ [])
    (hc : s.isComplete = true) : p.front = program.length + 4 :=
  h.inPhase.front_of_isComplete hne hc

/-- By then, all of its stalls have happened. -/
theorem delay_of_isComplete (h : s.OnTime program forwarding prediction p) (hne : program ≠ [])
    (hc : s.isComplete = true) : p.delay program forwarding = stallsBefore program forwarding program.length := by
  have hfront := h.front_of_isComplete hne hc
  have hbubble : p.bubble ≠ .memory := by
    intro hb
    have := h.inPhase.fits.held hb
    omega
  rw [Phase.delay, if_neg hbubble, Nat.add_zero, hfront]
  exact stallsBefore_of_length_le (by omega)

end OnTime

end State

end FiveStage
