import FiveStage.Proofs.Conservation

/-!
# Termination

A run is a loop that nothing bounds: it goes on until the program is complete or the clock reaches a limit, and the
clock does not advance in every cycle. It ends all the same, since only one cycle of a program leaves the clock alone:
the one that retires its last instruction.

Main statements:
* `Loops.unique`: a loop has at most one course;
* `InPhase.exists_loops`: it has one, which is finite and ends as the bounded run does;
* `InPhase.step_eq_self_iff`, `InPhase.progress`: a cycle does something unless the program is complete;
* `Engine.Reachable.run_terminates`: all of that in every reachable engine.
-/

namespace FiveStage

namespace State

/-- The course of a run as a loop without a bound. It stops at a complete program or at the limit, after a fault, or
else does one more cycle; the number counts the cycles that were begun. -/
inductive Loops (limit : Int) :
    State → Nat → Except (Interrupted RegisterName.TooLong State) State → Prop
  | stop {s : State} : s.isComplete = true ∨ limit ≤ s.cycle → Loops limit s 0 (.ok s)
  | fault {s : State} {e : Interrupted RegisterName.TooLong State} :
    s.isComplete = false → s.cycle < limit → s.step = .error e → Loops limit s 1 (.error e)
  | cycle {s t : State} {n : Nat} {outcome : Except (Interrupted RegisterName.TooLong State) State} :
    s.isComplete = false → s.cycle < limit → s.step = .ok t → Loops limit t n outcome → Loops limit s (n + 1) outcome

/-- A loop that stops at once does not go on. -/
theorem not_stop {limit : Int} {s : State} (hc : s.isComplete = false) (hlt : s.cycle < limit) :
    ¬(s.isComplete = true ∨ limit ≤ s.cycle) := by
  rw [hc]
  rintro (h | h)
  · cases h
  · omega

/-- A loop has at most one course. -/
theorem Loops.unique {limit : Int} {s : State} {m n : Nat}
    {a b : Except (Interrupted RegisterName.TooLong State) State} (ha : Loops limit s m a) (hb : Loops limit s n b) :
    m = n ∧ a = b := by
  induction ha generalizing n b with
  | stop hstop =>
    cases hb with
    | stop => exact ⟨rfl, rfl⟩
    | fault hc hlt => exact absurd hstop (not_stop hc hlt)
    | cycle hc hlt => exact absurd hstop (not_stop hc hlt)
  | fault hc hlt herror =>
    cases hb with
    | stop hstop => exact absurd hstop (not_stop hc hlt)
    | fault _ _ herror' => exact ⟨rfl, herror.symm.trans herror'⟩
    | cycle _ _ hok =>
      rw [herror] at hok
      cases hok
  | cycle hc hlt hok _ ih =>
    cases hb with
    | stop hstop => exact absurd hstop (not_stop hc hlt)
    | fault _ _ herror =>
      rw [hok] at herror
      cases herror
    | cycle _ _ hok' hrest =>
      rw [hok, Except.ok.injEq] at hok'
      subst hok'
      obtain ⟨hcount, houtcome⟩ := ih hrest
      exact ⟨congrArg (· + 1) hcount, houtcome⟩

namespace InPhase

variable {program : List Instruction} {p : Phase} {s t : State}

/-- Within as many cycles as the clock lacks to the limit, and one more, the loop is over. -/
theorem exists_loops_runFor {bound : Nat} {limit : Int} (h : s.InPhase program p) (hbound : limit - s.cycle < bound) :
    ∃ n ≤ bound, Loops limit s n (runFor bound limit s) := by
  induction bound generalizing s p with
  | zero => exact ⟨0, Nat.le_refl 0, .stop (.inr (by omega))⟩
  | succ bound ih =>
    rw [runFor]
    split
    · rename_i hstop
      rw [Bool.or_eq_true, decide_eq_true_eq] at hstop
      exact ⟨0, Nat.zero_le _, .stop hstop⟩
    · rename_i hgo
      rw [Bool.or_eq_true, decide_eq_true_eq, not_or, Bool.not_eq_true, Int.not_le] at hgo
      obtain ⟨hc, hlt⟩ := hgo
      split
      · rename_i herror
        exact ⟨1, by omega, .fault hc hlt herror⟩
      · rename_i next hnext
        obtain ⟨hr, hsettles⟩ | ⟨-, hticks⟩ := h.step hnext
        · -- The clock stands still only in the last cycle of a program.
          have hdone := isComplete_of_settles hr hsettles
          rw [runFor_of_isComplete hdone]
          exact ⟨1, by omega, .cycle hc hlt hnext (.stop (.inl hdone))⟩
        · have hcloser : limit - next.cycle < bound := by
            rw [hticks.cycle]
            omega
          obtain ⟨n, hn, hloops⟩ := ih hticks.inPhase hcloser
          exact ⟨n + 1, by omega, .cycle hc hlt hnext hloops⟩

/-- The loop of a run is over after finitely many cycles, and ends as the run does. -/
theorem exists_loops (h : s.InPhase program p) (limit : Int) :
    ∃ n ≤ (limit - s.cycle).toNat + 1, Loops limit s n (s.run limit) :=
  h.exists_loops_runFor (by omega)

/-- A complete program has nothing left to fetch. -/
theorem isIdle_of_isComplete (h : s.InPhase program p) (hc : s.isComplete = true) : s.isIdle = true := by
  obtain ⟨hcompleted, hempty⟩ := isComplete_iff.1 hc
  have hall : program.length ≤ p.front := by
    have hretired := p.retired_le_front
    rw [h.stands.completed, h.stands.size_eq] at hcompleted
    omega
  rw [isIdle, Bool.and_eq_true, h.stands.next?_eq, if_neg (by omega)]
  exact ⟨hempty, rfl⟩

/-- Exactly the complete programs stay as they are. -/
theorem step_eq_self_iff (h : s.InPhase program p) : s.step = .ok s ↔ s.isComplete = true := by
  constructor
  · intro hok
    obtain ⟨hr, hsettles⟩ | ⟨-, hticks⟩ := h.step hok
    · exact isComplete_of_settles hr hsettles
    · have hclock := hticks.cycle
      omega
  · intro hc
    exact step_of_idle (h.isIdle_of_isComplete hc)

/-- When a program that is not complete settles, the instruction in write-back retires. -/
theorem completed_of_settles (h : s.InPhase program p) (hr : p.Rests program.length) (hok : s.step = .ok t)
    (hsettles : Settles program p s t) (hc : s.isComplete = false) : t.completed = s.completed + 1 := by
  cases hw : (p.pipeline program.length).writeBack with
  | none =>
    have hback : s.writeBack = .ok s := writeBack_of_empty (by rw [h.stands.pipeline, hw])
    have hidle := (h.isIdle_iff hback).2 hr
    have hsame : s = t := Except.ok.inj ((step_of_idle hidle).symm.trans hok)
    have hdone := isComplete_of_settles hr hsettles
    rw [← hsame, hc] at hdone
    cases hdone
  | some i =>
    obtain ⟨hi, hnext, hlt⟩ := Phase.retired_next_of_full hw
    rw [hsettles.inPhase.stands.completed, h.stands.completed,
      Phase.retired_rested (h.fits.bubble_ne_memory hr), hnext]
    omega

/-- A cycle of a program that is not complete retires an instruction or counts. -/
theorem progress (h : s.InPhase program p) (hok : s.step = .ok t) (hc : s.isComplete = false) :
    t.completed = s.completed + 1 ∨ t.cycle = s.cycle + 1 := by
  obtain ⟨hr, hsettles⟩ | ⟨-, hticks⟩ := h.step hok
  · exact .inl (h.completed_of_settles hr hok hsettles hc)
  · exact .inr hticks.cycle

end InPhase

end State

namespace Engine

/-- **Termination.** Whatever is done with an engine, the loop of a run has one course, which is finite: it ends with a
fault, or as the run does at a complete program or at the limit. And a cycle leaves the state alone exactly if the
program is complete; any other one that is not cut short retires an instruction or advances the clock. -/
theorem Reachable.run_terminates {e : Engine State} (h : Reachable e) :
    (∀ limit, (∃ n ≤ (limit - e.state.cycle).toNat + 1, ∀ m outcome,
        e.state.Loops limit m outcome ↔ m = n ∧ outcome = e.state.run limit) ∧
      ∀ t, e.state.run limit = .ok t → t.isComplete = true ∨ limit ≤ t.cycle) ∧
    (e.state.step = .ok e.state ↔ e.state.isComplete = true) ∧
      ∀ t, e.state.step = .ok t → e.state.isComplete = false →
        t.completed = e.state.completed + 1 ∨ t.cycle = e.state.cycle + 1 := by
  obtain ⟨program, p, -, hp⟩ := h.exists_inPhase
  refine ⟨fun limit => ⟨?_, fun t hok => hp.run_stops hok⟩, hp.step_eq_self_iff, fun t hok hc => hp.progress hok hc⟩
  obtain ⟨n, hn, hloops⟩ := hp.exists_loops limit
  refine ⟨n, hn, fun m outcome => ⟨fun hother => hother.unique hloops, ?_⟩⟩
  rintro ⟨rfl, rfl⟩
  exact hloops

/-- A run that has reached its limit with the last instruction in write-back: the clock stands still in the next
cycle, and the program is complete. -/
theorem Reachable.run_terminates_drain :
    ∃ e t, Reachable e ∧ e.state.step = .ok t ∧ e.state.isComplete = false ∧ t.cycle = e.state.cycle ∧
      t.completed = e.state.completed + 1 ∧ e.state.step ≠ .ok e.state ∧
      ∃ n ≤ 3, e.state.Loops 7 n (e.state.run 7) := by
  let fresh : Engine State := { source := .seeded 0, state := { storage := Storage.zero } }
  have hok : ((fresh.load "LW R1, 0(R2)").run 5).toOption.any (fun e =>
      !e.state.isComplete && decide (e.state.cycle = 5) &&
        e.state.step.toOption.any fun t => decide (t.cycle = 5)) = true := by
    decide +kernel
  obtain ⟨e, he, hfacts⟩ := State.exists_of_any_toOption hok
  rw [Bool.and_eq_true, Bool.and_eq_true, Bool.not_eq_true', decide_eq_true_eq] at hfacts
  obtain ⟨⟨hc, hclock⟩, hstepped⟩ := hfacts
  obtain ⟨t, ht, hstill⟩ := State.exists_of_any_toOption hstepped
  have hreachable : Reachable e := ((Reachable.fresh _ _).load _).run _ he
  obtain ⟨hloop, hsame, hprogress⟩ := Reachable.run_terminates hreachable
  obtain ⟨⟨n, hn, hcourse⟩, -⟩ := hloop 7
  have hcycle : t.cycle = e.state.cycle := (of_decide_eq_true hstill).trans hclock.symm
  refine ⟨e, t, hreachable, ht, hc, hcycle, ?_, ?_, n, ?_, (hcourse n _).2 ⟨rfl, rfl⟩⟩
  · refine (hprogress t ht hc).resolve_right ?_
    omega
  · rw [ne_eq, hsame, hc]
    exact Bool.false_ne_true
  · rw [hclock] at hn
    omega

end Engine

end FiveStage
