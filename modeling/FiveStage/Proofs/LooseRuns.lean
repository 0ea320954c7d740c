import FiveStage.Loose.Run
import FiveStage.Proofs.Loosening

/-!
# Plain states under loose cycles and runs

A plain state that is taken as a loose one makes the cycles and the runs of the plain state, and is cut short where the
plain state is. A loose run allows for more cycles than a plain one, which none of them needs.

Main statements:
* `isIdle_ofState`, `isComplete_ofState`: a program is complete as a loose one if it is;
* `run_cycle`: a cycle;
* `run_run`: a run.
-/

namespace FiveStage.Loose

variable {s : FiveStage.State}

theorem isEmpty_ofState (s : FiveStage.State) :
    (Stage.all.map fun stage => slotOf (s.pipeline.get stage)).all Item.isEmpty = s.pipeline.isEmpty := by
  simp only [List.all_map, Pipeline.isEmpty, Pipeline.toList]
  exact List.all_congr rfl fun stage => isEmpty_slotOf _

theorem isIdle_ofState (h : s.Seated) : (State.ofState s).isIdle = .ok s.isIdle := by
  have hoccupants : (State.ofState s).occupants =
      .ok ((Stage.all.map fun stage => slotOf (s.pipeline.get stage)).filter (!·.isEmpty)) := rfl
  have hempty : ((Stage.all.map fun stage => slotOf (s.pipeline.get stage)).filter (!·.isEmpty)).isEmpty =
      s.pipeline.isEmpty := by
    rw [← isEmpty_ofState, Bool.eq_iff_iff, List.isEmpty_iff, List.filter_eq_nil_iff, List.all_eq_true]
    exact forall₂_congr fun item _ => by rw [Bool.not_eq_true', Bool.not_eq_false]
  refine (bind_of_eq_ok hoccupants _).trans ?_
  rw [hempty, FiveStage.State.isIdle]
  cases s.pipeline.isEmpty with
  | false => rfl
  | true =>
    refine (bind_of_eq_ok (next_ofState s h) _).trans ?_
    rw [isEmpty_slotOf, Bool.true_and]
    rfl

theorem isComplete_ofState (s : FiveStage.State) : (State.ofState s).isComplete = .ok s.isComplete := by
  refine (bind_of_eq_ok (total_ofState s) _).trans ?_
  rw [FiveStage.State.isComplete, ← isEmpty_ofState, State.ofState, Json.same_int]
  cases decide (s.completed = s.instructions.size) <;> rfl

/-- A cycle that is not over with write-back goes through the other stages. -/
theorem run_cycle_of_busy {retired : FiveStage.State} (h : s.Seated) (hback : s.writeBack = .ok retired)
    (hbusy : retired.isIdle = false) :
    cycle.run (.ofState s) =
      (do memoryAccess; let stalled ← execute; decode; issue; fetch; age; record stalled : Work Unit).run
        (.ofState retired.opened) := by
  refine run_bind ((does_writeBack s).run_ok hback) ?_
  refine run_get_bind ?_
  refine run_lift_bind (isIdle_ofState (h.writeBack hback)) ?_
  rw [hbusy]
  refine run_get_bind ?_
  refine run_lift_bind (Json.increase_int ..) ?_
  exact run_bind (run_modify retired (t := retired.opened) rfl) rfl

/-- What work on a loose state comes to if this is what a plain state comes to. -/
def outcome : Except (Interrupted RegisterName.TooLong FiveStage.State) FiveStage.State →
    EStateM.Result Fault State Unit
  | .ok t => .ok () (.ofState t)
  | .error i => .error (.register i.fault) (.ofState i.state)

/-- **A cycle.** A plain state that is taken as a loose one does the cycle of the plain state, and is cut short where
that is cut short. -/
theorem run_cycle (h : s.Seated) : cycle.run (.ofState s) = outcome s.step := by
  cases hstep : s.step with
  | error i =>
    obtain ⟨hback, hsame⟩ | ⟨retired, hback, hbusy, haccess, hopened⟩ := FiveStage.State.step_error_cases hstep
    · rw [outcome, hsame]
      exact run_bind_of_error ((does_writeBack s).run_error hback)
    · rw [outcome, hopened, run_cycle_of_busy h hback hbusy]
      exact run_bind_of_error ((does_memoryAccess _).run_error haccess)
  | ok t =>
    obtain ⟨retired, hback, ⟨hidle, rfl⟩ | ⟨hbusy, accessed, haccess, rfl⟩⟩ := FiveStage.State.step_cases hstep
    · refine run_bind ((does_writeBack s).run_ok hback) ?_
      refine run_get_bind ?_
      refine run_lift_bind (isIdle_ofState (h.writeBack hback)) ?_
      rw [hidle]
      rfl
    · have haccessed := (h.writeBack hback).opened.memoryAccess haccess
      rw [run_cycle_of_busy h hback hbusy]
      refine run_bind ((does_memoryAccess _).run_ok haccess) ?_
      refine run_bind (run_execute _ haccessed) ?_
      refine run_bind (run_decode _ haccessed.execute) ?_
      refine run_bind (run_issue _) ?_
      refine run_bind (run_fetch _ haccessed.execute.decode.issue) ?_
      refine run_bind (run_age _) ?_
      exact run_record _ haccessed.execute.decode.issue.fetch.age _

/-- As many cycles as a loose state may need come to what the cycles of the plain state come to. -/
theorem run_runFor (h : s.Seated) (bound : Nat) (limit : Int) :
    (runFor bound (.int limit)).run (.ofState s) = outcome (s.runFor bound limit) := by
  induction bound generalizing s with
  | zero => rfl
  | succ bound ih =>
    refine run_get_bind ?_
    refine run_lift_bind (isComplete_ofState s) ?_
    rw [FiveStage.State.runFor]
    cases s.isComplete with
    | true => rfl
    | false =>
      refine run_get_bind ?_
      refine run_lift_bind (Json.less_int ..) ?_
      have hge : decide (limit ≤ s.cycle) = !decide (s.cycle < limit) := by
        simp only [← Int.not_lt, decide_not]
      rw [hge]
      cases decide (s.cycle < limit) with
      | false => rfl
      | true =>
        have hcycle := run_cycle h
        show EStateM.run (cycle >>= fun _ => runFor bound (.int limit)) (.ofState s) = outcome _
        cases hstep : s.step with
        | error i =>
          rw [hstep] at hcycle
          exact run_bind_of_error hcycle
        | ok t =>
          rw [hstep] at hcycle
          exact run_bind hcycle (ih (h.step hstep))

/-- **A run.** A plain state that is taken as a loose one makes the run of the plain state. -/
theorem run_run (h : s.Seated) (limit : Int) : (run (.int limit)).run (.ofState s) = outcome (s.run limit) := by
  have hbound := Number.sub_lt_steps limit s.cycle
  refine run_get_bind ?_
  refine (run_runFor h _ limit).trans ?_
  rw [FiveStage.State.runFor_eq_run]
  show limit - s.cycle < ((Number.steps (.int limit) (.int s.cycle) + (State.ofState s).cyclesLeft : Nat) : Int)
  omega

end FiveStage.Loose
