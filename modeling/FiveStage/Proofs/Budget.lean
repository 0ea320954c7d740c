import FiveStage.Proofs.Refinement
import FiveStage.Proofs.Termination
import Mathlib.Logic.Relation

/-!
# Cycle budgets

How far a run gets that may take only so many cycles. The clock stands still in the cycle that retires the last
instruction, but a run that has reached its limit does not begin that cycle. So a program that is complete at some time
takes a limit beyond that time: at the limit itself, a run stops with the last instruction in write-back.

Main statements:
* `Steps.exists_runFor`: a run stops somewhere on the way of the cycles;
* `InPhase.isComplete_eq_false_of_ticks`: a cycle that counts does not complete a program;
* `load_run_within`: a run that completes a program does it before its limit;
* `Engine.load_run_budget`: where a run stops, by its limit;
* `Engine.load_run_budget_short`: a limit that is one too small.
-/

namespace FiveStage

namespace Phase

/-- A cycle that counts leaves the last instruction in the pipeline. -/
theorem Fits.retired_next_lt {p : Phase} {n : Nat} (h : p.Fits n) (hr : ¬p.Rests n) (waits : Bool) :
    (p.next waits).retired < n := by
  obtain ⟨front, bubble⟩ := p
  obtain ⟨-, hheld⟩ := h
  simp only [Rests, not_or, Nat.not_le] at hr
  rw [retired_next]
  cases bubble with
  | absent =>
    show front + 1 - 5 < n
    omega
  | memory =>
    have hlast : front < n + 3 := (hheld rfl).2
    show front + 1 - 4 < n
    omega
  | writeBack =>
    show front + 1 - 5 < n
    omega

end Phase

namespace State

variable {program : List Instruction} {p : Phase} {s t u : State} {limit : Int}

/-- One state comes from another by cycles alone. -/
abbrev Steps : State → State → Prop :=
  Relation.ReflTransGen fun s t => s.step = .ok t

/-! ## The way of the cycles -/

theorem Steps.of_run (h : s.run limit = .ok t) : s.Steps t :=
  run_induction (P := s.Steps) (fun _ _ hs hok => hs.tail hok) .refl h

theorem Steps.proceeds (h : s.Steps t) : s.Proceeds t := by
  induction h with
  | refl => exact .refl
  | tail _ hok ih => exact ih.step hok

theorem cycle_le_of_step (h : s.step = .ok t) : s.cycle ≤ t.cycle := by
  obtain ⟨retired, hretired, ⟨-, rfl⟩ | ⟨-, accessed, haccessed, rfl⟩⟩ := step_cases h
  · obtain ⟨_, _, _, _, hframe, -⟩ := writeBack_frame hretired
    rw [hframe]
  · obtain ⟨_, _, _, _, hframe, -⟩ := accessed_frame hretired haccessed
    obtain ⟨_, _, _, hfront⟩ := accessed.advanceFront_frame
    rw [hfront, hframe]
    dsimp only
    omega

/-- The clock never goes back. -/
theorem Steps.cycle_le (h : s.Steps t) : s.cycle ≤ t.cycle := by
  induction h with
  | refl => exact Int.le_refl _
  | tail _ hok ih => exact ih.trans (cycle_le_of_step hok)

/-- Nothing becomes of a complete program. -/
theorem Steps.eq_of_isComplete (h : s.Steps t) (hs : s.InPhase program p) (hc : s.isComplete = true) : t = s := by
  induction h with
  | refl => rfl
  | tail _ hok ih =>
    subst ih
    have hsame := hs.step_eq_self_iff.2 hc
    rw [hok] at hsame
    exact Except.ok.inj hsame

/-- If the cycles get to a complete program, a run is not cut short, and stops somewhere on the way. -/
theorem Steps.exists_runFor (h : s.Steps t) (hc : t.isComplete = true) (bound : Nat) (limit : Int) :
    ∃ u, runFor bound limit s = .ok u ∧ u.Steps t := by
  induction bound generalizing s with
  | zero => exact ⟨s, rfl, h⟩
  | succ bound ih =>
    rw [runFor]
    split
    · exact ⟨s, rfl, h⟩
    · rename_i hgo
      rcases h.cases_head with rfl | ⟨next, hnext, (hrest : next.Steps t)⟩
      · rw [hc, Bool.true_or] at hgo
        exact absurd rfl hgo
      · rw [hnext]
        exact ih hrest

theorem Steps.exists_run (h : s.Steps t) (hc : t.isComplete = true) (limit : Int) :
    ∃ u, s.run limit = .ok u ∧ u.Steps t :=
  h.exists_runFor hc _ limit

/-! ## The end of a program -/

namespace InPhase

/-- A cycle that counts does not complete a program. -/
theorem isComplete_eq_false_of_ticks {waits : Bool} (h : s.InPhase program p) (hr : ¬p.Rests program.length)
    (hticks : Ticks program p (p.next waits) s t) : t.isComplete = false := by
  rw [← Bool.not_eq_true]
  intro hc
  have hlt := h.fits.retired_next_lt hr waits
  have hcompleted := hticks.inPhase.stands.completed
  rw [(isComplete_iff.1 hc).1, hticks.inPhase.stands.size_eq] at hcompleted
  omega

/-- Once the clock has reached the time at which a program is complete, one cycle is left at most. -/
theorem step_of_cycle_eq (h : s.InPhase program p) (hs : s.Steps t) (hc : t.isComplete = true)
    (hcycle : s.cycle = t.cycle) : s.step = .ok t := by
  rcases hs.cases_head with rfl | ⟨next, hnext, (hrest : next.Steps t)⟩
  · exact h.step_eq_self_iff.2 hc
  · obtain ⟨hr, hsettles⟩ | ⟨-, hticks⟩ := h.step hnext
    · rw [hrest.eq_of_isComplete hsettles.inPhase (isComplete_of_settles hr hsettles)]
      exact hnext
    · have hclock := hticks.cycle
      have hlater := hrest.cycle_le
      omega

theorem completed_of_isComplete (h : s.InPhase program p) (hc : s.isComplete = true) {x : Tracked}
    (hx : x ∈ s.instructions) : x.completed = true := by
  obtain ⟨i, hi⟩ := Array.mem_iff_getElem?.1 hx
  have hlt := h.stands.lt_of_getElem? hi
  have hcompleted := h.stands.completed
  rw [(isComplete_iff.1 hc).1, h.stands.size_eq] at hcompleted
  rw [h.stands.finished i x hi]
  omega

end InPhase

/-! ## Runs to a limit -/

/-- The clock has not passed the limit, and is short of it once the program is complete. -/
structure Within (limit : Int) (s : State) : Prop where
  cycle_le : s.cycle ≤ limit
  cycle_lt : s.isComplete = true → s.cycle < limit

theorem isComplete_load_eq_false (s : State) (hne : program ≠ []) : (s.load program).isComplete = false := by
  rw [← Bool.not_eq_true, isComplete_iff]
  rintro ⟨hcount, -⟩
  have hpos := List.length_pos_iff.2 hne
  simp only [load, List.size_toArray, List.length_map] at hcount
  omega

/-- A run that completes a program does it before its limit. -/
theorem load_run_within (hne : program ≠ []) (hlimit : 0 ≤ limit) (hok : (s.load program).run limit = .ok t) :
    t.Within limit := by
  have hboth : (∃ p, t.InPhase program p) ∧ t.Within limit := by
    refine runFor_induction_of_going (P := fun t => (∃ p, t.InPhase program p) ∧ t.Within limit) ?_ ?_ hok
    · rintro s t ⟨⟨p, hp⟩, -⟩ - hlt hstep
      refine ⟨hp.exists_step hstep, ?_⟩
      obtain ⟨-, hsettles⟩ | ⟨hr, hticks⟩ := hp.step hstep
      · -- The last cycle does not count, but it was begun before the limit.
        have hclock := hsettles.cycle
        exact ⟨by omega, fun _ => by omega⟩
      · have hclock := hticks.cycle
        refine ⟨by omega, fun hc => ?_⟩
        rw [hp.isComplete_eq_false_of_ticks hr hticks] at hc
        cases hc
    · refine ⟨⟨_, InPhase.load s program⟩, hlimit, fun hc => ?_⟩
      rw [isComplete_load_eq_false s hne] at hc
      cases hc
  exact hboth.2

/-- A run with time to spare goes all the way. -/
theorem eq_of_load_run (hrun : (s.load program).run limit = .ok u) (hrest : u.Steps t)
    (hspare : t.cycle < limit ∨ program = []) : u = t := by
  obtain ⟨q, hq⟩ := (Proceeds.refl.run hrun).inPhase
  refine (hrest.eq_of_isComplete hq ?_).symm
  rcases hspare with hlt | rfl
  · have hlater := hrest.cycle_le
    refine ((InPhase.load s program).run_stops hrun).resolve_right ?_
    omega
  · have hload : (s.load []).isComplete = true := rfl
    rw [State.run, runFor_of_isComplete hload] at hrun
    rw [← Except.ok.inj hrun]
    exact hload

/-- A run without time to spare stops at its limit. -/
theorem stops_of_load_run (hne : program ≠ []) (hlimit : 0 ≤ limit) (hrun : (s.load program).run limit = .ok u)
    (hrest : u.Steps t) (hle : limit ≤ t.cycle) : u.isComplete = false ∧ u.cycle = limit := by
  obtain ⟨q, hq⟩ := (Proceeds.refl.run hrun).inPhase
  have hwithin := load_run_within hne hlimit hrun
  have hu : u.isComplete = false := by
    rw [← Bool.not_eq_true]
    intro hu
    have hlt := hwithin.cycle_lt hu
    rw [← hrest.eq_of_isComplete hq hu] at hlt
    omega
  have hreached := ((InPhase.load s program).run_stops hrun).resolve_left (by rw [hu]; exact Bool.false_ne_true)
  exact ⟨hu, Int.le_antisymm hwithin.cycle_le hreached⟩

/-- With a limit that is one too small, the cycle is missing that does not count. -/
theorem step_of_load_run (hne : program ≠ []) (hlimit : 0 ≤ limit) (hrun : (s.load program).run limit = .ok u)
    (hrest : u.Steps t) (hc : t.isComplete = true) (heq : limit = t.cycle) : u.step = .ok t := by
  obtain ⟨q, hq⟩ := (Proceeds.refl.run hrun).inPhase
  obtain ⟨-, hcycle⟩ := stops_of_load_run hne hlimit hrun hrest heq.le
  exact hq.step_of_cycle_eq hrest hc (hcycle.trans heq)

end State

namespace Engine

open State

/-- **Cycle budgets.** Suppose that cycles get a loaded program to completion, with the clock at some time. A run with a
limit beyond that time ends in the same state, in which every instruction is completed and has done all it does. A run
with a limit up to that time stops incomplete at its limit; at the time itself, the one cycle is missing that does not
count. -/
theorem load_run_budget {e : Engine State} {text : String} {t : State} {limit : Int}
    (hsteps : (e.load text).state.Steps t) (hc : t.isComplete = true) (hlimit : 0 ≤ limit) :
    let program := (Program.parse text).instructions
    ∃ e', (e.load text).run limit = .ok e' ∧
      (t.cycle < limit ∨ program = [] →
        e'.state = t ∧ (∀ x ∈ t.instructions, x.completed = true) ∧
          Values.ofStorage t.storage = (Values.ofStorage e.state.storage).run program) ∧
      (limit ≤ t.cycle → program ≠ [] → e'.state.isComplete = false ∧ e'.state.cycle = limit) ∧
      (limit = t.cycle → program ≠ [] → e'.state.step = .ok t) := by
  intro program
  obtain ⟨u, hrun, hrest⟩ := hsteps.exists_run hc limit
  have hproceeds : (e.state.load program).Proceeds t := hsteps.proceeds
  obtain ⟨p, hp⟩ := hproceeds.inPhase
  refine ⟨{ e.load text with state := u }, run_state hrun, ?_, ?_, ?_⟩
  · intro hspare
    exact ⟨eq_of_load_run hrun hrest hspare, fun x hx => hp.completed_of_isComplete hc hx,
      hproceeds.values_of_isComplete hc⟩
  · intro hle hne
    exact stops_of_load_run hne hlimit hrun hrest hle
  · intro heq hne
    exact step_of_load_run hne hlimit hrun hrest hc heq

/-- A load and an instruction that waits for it are complete at time seven, and only a limit of eight gets them
there. -/
theorem load_run_budget_load_use :
    let text := "LW R1, 0(R2)\nADD R3, R1, R1"
    let e : Engine State := { source := .seeded 0, state := { storage := Storage.zero } }
    ∃ t, (e.load text).state.Steps t ∧ t.isComplete = true ∧ t.cycle = 7 ∧
      (∃ e', (e.load text).run 8 = .ok e' ∧ e'.state = t) ∧
      ∃ e', (e.load text).run 7 = .ok e' ∧ e'.state.isComplete = false ∧ e'.state.step = .ok t := by
  intro text e
  have hok : ((e.load text).state.run 100).toOption.any (fun t => t.isComplete && decide (t.cycle = 7)) = true := by
    decide +kernel
  obtain ⟨t, hrun, hfacts⟩ := exists_of_any_toOption hok
  rw [Bool.and_eq_true, decide_eq_true_eq] at hfacts
  obtain ⟨hc, hcycle⟩ := hfacts
  have hsteps : (e.load text).state.Steps t := .of_run hrun
  have hne : (Program.parse text).instructions ≠ [] := by decide +kernel
  obtain ⟨eight, height, hfull, -, -⟩ := load_run_budget hsteps hc (by decide : (0 : Int) ≤ 8)
  obtain ⟨seven, hseven, -, hshort, hlast⟩ := load_run_budget hsteps hc (by decide : (0 : Int) ≤ 7)
  refine ⟨t, hsteps, hc, hcycle, ⟨eight, height, (hfull (.inl ?_)).1⟩, seven, hseven, (hshort ?_ hne).1, hlast ?_ hne⟩
  · rw [hcycle]
    decide
  · exact hcycle.ge
  · exact hcycle.symm

/-- One instruction is complete at time five, but not after a run with a limit of five. -/
theorem load_run_budget_short :
    let text := "ADD R1, R2, R3"
    let e : Engine State := { source := .seeded 0, state := { storage := Storage.zero } }
    ∃ t, (e.load text).state.Steps t ∧ t.isComplete = true ∧ t.cycle = 5 ∧
      ∃ e', (e.load text).run 5 = .ok e' ∧ e'.state.isComplete = false := by
  intro text e
  have hlong : ((e.load text).state.run 100).toOption.any (fun t => t.isComplete && decide (t.cycle = 5)) = true := by
    decide +kernel
  have hshort : ((e.load text).run 5).toOption.any (fun e' => !e'.state.isComplete) = true := by
    decide +kernel
  obtain ⟨t, hrun, hfacts⟩ := exists_of_any_toOption hlong
  obtain ⟨e', hstopped, hc⟩ := exists_of_any_toOption hshort
  rw [Bool.and_eq_true, decide_eq_true_eq] at hfacts
  rw [Bool.not_eq_true'] at hc
  exact ⟨t, .of_run hrun, hfacts.1, hfacts.2, e', hstopped, hc⟩

end Engine

end FiveStage
