import FiveStage.Proofs.Clock

/-!
# The hazard log

Which hazards a run logs, and when. An instruction is compared with the one in front of it once, in the cycle in which
it would leave execute if it did not wait, and with no other. A branch or jump is noticed in every cycle that finds it
in decode.

Main statements:
* `hazardsIn_clock`: what a phase makes a cycle log is what the timetable says of that cycle;
* `Engine.run_hazards`: the log of a run is that of its cycles, one after the other.
-/

namespace FiveStage

namespace Program

variable (program : List Instruction) (forwarding prediction : Bool)

/-- The hazards that are logged in a cycle: those of the instructions that are compared in it with the ones in front of
them, and then those of the branches and jumps that it finds in decode. -/
def hazardsIn (cycle : Nat) : List Hazard :=
  ((List.range program.length).flatMap fun j =>
      if cycle = j + 4 + stallsBefore program forwarding j then neighbourHazards program forwarding cycle j else []) ++
    (List.range program.length).flatMap fun j =>
      if j + 3 + stallsBefore program forwarding (j - 1) ≤ cycle ∧
          cycle ≤ j + 3 + stallsBefore program forwarding j then
        branchHazards program prediction cycle j
      else []

end Program

open Program

section Ranges

variable {α : Type} {n : Nat} {P : Nat → Prop} [DecidablePred P] {f : Nat → List α}

theorem flatMap_range_of_forall_not (h : ∀ j, ¬P j) :
    ((List.range n).flatMap fun j => if P j then f j else []) = [] := by
  rw [List.flatMap_eq_nil_iff]
  intro j _
  rw [if_neg (h j)]

/-- If only one place counts, only that one contributes. -/
theorem flatMap_range_of_iff_eq {k : Nat} (h : ∀ j, P j ↔ j = k) (hf : n ≤ k → f k = []) :
    ((List.range n).flatMap fun j => if P j then f j else []) = f k := by
  induction n with
  | zero => exact (hf (Nat.zero_le k)).symm
  | succ n ih =>
    rw [List.range_succ, List.flatMap_append, List.flatMap_singleton]
    by_cases hn : n = k
    · subst hn
      have hearlier : ((List.range n).flatMap fun j => if P j then f j else []) = [] := by
        rw [List.flatMap_eq_nil_iff]
        intro j hj
        rw [if_neg]
        intro hp
        have hlt := List.mem_range.1 hj
        have heq := (h j).1 hp
        omega
      rw [hearlier, if_pos ((h n).2 rfl), List.nil_append]
    · rw [if_neg (fun hp => hn ((h n).1 hp)), List.append_nil, ih (fun hle => hf (by omega))]

end Ranges

namespace Phase

variable {program : List Instruction} {forwarding prediction : Bool} {p : Phase}

/-- An instruction is compared when nothing keeps it from entering the memory stage but the one in front of it. -/
theorem neighbours_clock (h : p.Follows program forwarding) :
    ((List.range program.length).flatMap fun j =>
      if p.clock program forwarding + 1 = j + 4 + stallsBefore program forwarding j then
        neighbourHazards program forwarding (p.clock program forwarding + 1 : Nat) j else []) =
      if p.bubble = .memory then [] else
        neighbourHazards program forwarding (p.clock program forwarding + 1 : Nat) (p.front - 3) := by
  have htime : ∀ j, p.clock program forwarding + 1 = j + 4 + stallsBefore program forwarding j ↔
      j + 3 = p.front ∧ p.bubble ≠ .memory := by
    intro j
    rw [← clock_eq_iff h, Nat.add_sub_cancel]
    omega
  by_cases hb : p.bubble = .memory
  · rw [if_pos hb]
    apply flatMap_range_of_forall_not
    intro j hj
    exact ((htime j).1 hj).2 hb
  · rw [if_neg hb]
    rcases Nat.lt_or_ge p.front 3 with hlt | hle
    · have hzero : p.front - 3 = 0 := by omega
      rw [hzero]
      apply flatMap_range_of_forall_not
      intro j hj
      have := ((htime j).1 hj).1
      omega
    · have hunique : ∀ j, p.clock program forwarding + 1 = j + 4 + stallsBefore program forwarding j ↔
          j = p.front - 3 := by
        intro j
        rw [htime]
        constructor
        · rintro ⟨hj, -⟩
          omega
        · rintro rfl
          exact ⟨by omega, hb⟩
      rw [flatMap_range_of_iff_eq hunique]
      exact neighbourHazards_of_length_le _

/-- An instruction that has been in decode is looked at in the next cycle. -/
theorem branches_clock (h : p.Follows program forwarding) :
    ((List.range program.length).flatMap fun j =>
      if j + 3 + stallsBefore program forwarding (j - 1) ≤ p.clock program forwarding + 1 ∧
          p.clock program forwarding + 1 ≤ j + 3 + stallsBefore program forwarding j then
        branchHazards program prediction (p.clock program forwarding + 1 : Nat) j else []) =
      if 2 ≤ p.front then branchHazards program prediction (p.clock program forwarding + 1 : Nat) (p.front - 2)
      else [] := by
  have htime : ∀ j, j + 3 + stallsBefore program forwarding (j - 1) ≤ p.clock program forwarding + 1 ∧
      p.clock program forwarding + 1 ≤ j + 3 + stallsBefore program forwarding j ↔ j + 2 = p.front := by
    intro j
    have hindex : j + 2 - 3 = j - 1 := by omega
    rw [← clock_between_iff h, hindex, Nat.add_sub_cancel]
    omega
  rcases Nat.lt_or_ge p.front 2 with hlt | hle
  · rw [if_neg (by omega)]
    apply flatMap_range_of_forall_not
    intro j hj
    have := (htime j).1 hj
    omega
  · rw [if_pos hle]
    have hunique : ∀ j, j + 3 + stallsBefore program forwarding (j - 1) ≤ p.clock program forwarding + 1 ∧
        p.clock program forwarding + 1 ≤ j + 3 + stallsBefore program forwarding j ↔ j = p.front - 2 := by
      intro j
      rw [htime]
      omega
    rw [flatMap_range_of_iff_eq hunique]
    exact branchHazards_of_length_le _ _

/-- The hazards of a cycle follow from the phase that it begins in. -/
theorem hazardsIn_clock (h : p.Follows program forwarding) :
    hazardsIn program forwarding prediction (p.clock program forwarding + 1) =
      (if p.bubble = .memory then [] else
        neighbourHazards program forwarding (p.clock program forwarding + 1 : Nat) (p.front - 3)) ++
      if 2 ≤ p.front then branchHazards program prediction (p.clock program forwarding + 1 : Nat) (p.front - 2)
      else [] := by
  rw [hazardsIn, neighbours_clock h, branches_clock h]

end Phase

namespace State

variable {program : List Instruction} {forwarding prediction : Bool} {p : Phase} {s t : State}

/-- Up to its phase, a state has logged the hazards of its cycles. -/
def Logs (program : List Instruction) (forwarding prediction : Bool) (p : Phase) (s : State) : Prop :=
  s.hazards = (List.range' 1 (p.clock program forwarding)).flatMap (hazardsIn program forwarding prediction)

theorem Logs.load (s : State) (program : List Instruction) :
    (s.load program).Logs program s.forwarding s.prediction {} := rfl

theorem Logs.settle (h : s.Logs program forwarding prediction p) (hb : p.bubble ≠ .memory)
    (hsettles : Settles program p s t) : t.Logs program forwarding prediction p.rested := by
  obtain ⟨_, _, _, _, hframe⟩ := hsettles.frame
  have hhazards : t.hazards = s.hazards := by rw [hframe]
  rw [Logs, hhazards, Phase.clock_rested hb]
  exact h

/-- A cycle adds its own hazards to the log. -/
theorem Logs.tick (h : s.Logs program forwarding prediction p) (hfollows : p.Follows program forwarding)
    (hs : s.OnTime program forwarding prediction p)
    (hticks : Ticks program p (p.next (waits program forwarding (p.front - 3))) s t) :
    t.Logs program forwarding prediction (p.next (waits program forwarding (p.front - 3))) := by
  obtain ⟨hforwarding, hprediction⟩ := hs.settings
  have hcycle : t.cycle = (p.clock program forwarding + 1 : Nat) := by
    rw [hticks.cycle, hs.cycle]
    rfl
  rw [Logs, Phase.clock_next hfollows, List.range'_1_concat, List.flatMap_append, List.flatMap_singleton,
    Nat.add_comm 1, Phase.hazardsIn_clock hfollows, hticks.hazards, hcycle, hforwarding, hprediction]
  exact congrArg (· ++ _) h

end State

/-- **The hazard log.** A run that completes a program under fixed settings has logged, cycle by cycle, the hazards of
each instruction against the one in front of it and the control hazards of its branches and jumps, and nothing else. -/
theorem Engine.run_hazards {e e' : Engine State} {text : String} {limit : Int}
    (hok : (e.load text).run limit = .ok e') (hcomplete : e'.state.isComplete = true) :
    let program := (Program.parse text).instructions
    e'.state.hazards =
      (List.range' 1 (program.length + 4 + stallsBefore program e.state.forwarding program.length)).flatMap
        (hazardsIn program e.state.forwarding e.state.prediction) := by
  intro program
  have hrun : (e.state.load program).run limit = .ok e'.state := state_of_load_run hok
  obtain ⟨p, hp, hlogs⟩ := State.OnTime.run_induction (R := State.Logs program e.state.forwarding e.state.prediction)
    (fun _ _ _ hs hl hr hsettles => hl.settle (hs.inPhase.fits.bubble_ne_memory hr) hsettles)
    (fun _ _ _ hs hl hf hticks => hl.tick hf hs hticks)
    (State.OnTime.load e.state program) (State.Logs.load e.state program) hrun
  by_cases hne : program = []
  · have hnone : ∀ count, (List.range' 1 count).flatMap
        (hazardsIn program e.state.forwarding e.state.prediction) = [] := by
      intro count
      rw [List.flatMap_eq_nil_iff]
      intro cycle _
      rw [hne]
      rfl
    rw [hlogs, hnone, hnone]
  · rw [hlogs, Phase.clock, hp.front_of_isComplete hne hcomplete, hp.delay_of_isComplete hne hcomplete]

/-- All kinds of hazards between neighbours, and a branch that is noticed twice, as the instruction ahead of it has to
wait. -/
theorem Engine.run_hazards_held_branch :
    let text := "ADD R2, R1, R3\nLW R1, 0(R2)\nADD R1, R1, R4\nBEQ R1, R4, 8"
    let program := (Program.parse text).instructions
    let e : Engine State := { source := .seeded 0, state := { storage := Storage.zero } }
    ∃ e', (e.load text).run 100 = .ok e' ∧ e'.state.isComplete = true ∧
      e'.state.hazards =
        (List.range' 1 (program.length + 4 + stallsBefore program e.state.forwarding program.length)).flatMap
          (hazardsIn program e.state.forwarding e.state.prediction) ∧
      e'.state.hazards.map (fun h => (h.subtype, h.instruction1, h.instruction2, h.resolved, h.cycle)) = [
        (.raw, "ADD R2, R1, R3", "LW R1, 0(R2)", true, 5),
        (.war, "ADD R2, R1, R3", "LW R1, 0(R2)", true, 5),
        (.raw, "LW R1, 0(R2)", "ADD R1, R1, R4", false, 6),
        (.waw, "LW R1, 0(R2)", "ADD R1, R1, R4", false, 6),
        (.branch, "BEQ R1, R4, 8", "", false, 6),
        (.branch, "BEQ R1, R4, 8", "", false, 7),
        (.raw, "ADD R1, R1, R4", "BEQ R1, R4, 8", true, 8)] := by
  intro text program e
  have hok : ((e.load text).run 100).toOption.any (fun e' => e'.state.isComplete &&
      decide (e'.state.hazards.map (fun h => (h.subtype, h.instruction1, h.instruction2, h.resolved, h.cycle)) = [
        (.raw, "ADD R2, R1, R3", "LW R1, 0(R2)", true, 5),
        (.war, "ADD R2, R1, R3", "LW R1, 0(R2)", true, 5),
        (.raw, "LW R1, 0(R2)", "ADD R1, R1, R4", false, 6),
        (.waw, "LW R1, 0(R2)", "ADD R1, R1, R4", false, 6),
        (.branch, "BEQ R1, R4, 8", "", false, 6),
        (.branch, "BEQ R1, R4, 8", "", false, 7),
        (.raw, "ADD R1, R1, R4", "BEQ R1, R4, 8", true, 8)])) = true := by
    decide +kernel
  obtain ⟨e', hrun, hresult⟩ := State.exists_of_any_toOption hok
  rw [Bool.and_eq_true, decide_eq_true_eq] at hresult
  exact ⟨e', hrun, hresult.1, Engine.run_hazards hrun hresult.1, hresult.2⟩

end FiveStage
