import FiveStage.Json.Items
import FiveStage.Proofs.Frame

/-!
# Slots and the program

Whatever is done with an engine, also if cycles of it are cut short, an occupied slot names an instruction of the loaded
program. A program is no longer than a list can be as long as no longer one is loaded.

Main statements:
* `Seated.step`, `Seated.step_error`: a cycle keeps this, also if it is cut short;
* `Engine.seated_attempt`: so does every call.
-/

namespace FiveStage

/-- A move brings nothing into the pipeline. -/
theorem Pipeline.exists_of_get_move {α : Type} {p : Pipeline α} {a b stage : Stage} {x : α}
    (h : (p.move a b).get stage = some x) : ∃ other, p.get other = some x := by
  rw [move, get_set, get_set] at h
  split at h
  · cases h
  · split at h
    · exact ⟨a, h⟩
    · exact ⟨stage, h⟩

namespace State

/-- Every slot that is occupied names an instruction of the program, which is no longer than a list can be. -/
structure Seated (s : State) : Prop where
  lt : ∀ (stage : Stage) (i : Nat), s.pipeline.get stage = some i → i < s.instructions.size
  size_le : s.instructions.size ≤ Json.placeLimit

variable {s t : State}

/-- What is in a slot is an instruction of the program. -/
theorem Seated.exists_placed (h : s.Seated) {stage : Stage} {index : Nat} (hs : s.pipeline.get stage = some index) :
    ∃ i, s.placed? index = some i ∧ s.placed.get stage = some i := by
  rw [placed, Pipeline.get_bind, hs, Option.bind_some, placed?, Array.getElem?_eq_getElem (h.lt stage index hs)]
  exact ⟨_, rfl, rfl⟩

/-! ## Empty slots -/

theorem execute_of_empty (h : s.pipeline.get .execute = none) : s.mustStall = false ∧ s.execute = s := by
  have hnone : s.executeHazards = [] := by
    rw [executeHazards, show s.placed.execute = none from placed_of_empty h]
  have hpass : s.mustStall = false := by
    rw [mustStall, hnone]
    rfl
  refine ⟨hpass, ?_⟩
  simp only [execute, hpass, hnone, List.append_nil]
  exact move_of_empty h .memory

theorem decode_of_empty (h : s.pipeline.get .decode = none) : s.decode = s := by
  have hnone : s.decodeHazards = [] := by
    rw [decodeHazards, show s.placed.decode = none from placed_of_empty h]
  simp only [decode, hnone, List.append_nil]
  split
  · exact move_of_empty h .execute
  · rfl

/-! ## What keeps the slots -/

theorem lt_of_next?_eq_some {i : Nat} (h : s.next? = some i) : i < s.instructions.size := by
  unfold next? at h
  dsimp only at h
  split at h
  · rename_i hin
    have hi := Option.some.inj h
    omega
  · cases h

/-- The program stays as long as it is, and what a slot holds was in a slot before, or is in the program. -/
theorem Seated.of_codes (h : s.Seated) (hcodes : t.codes = s.codes)
    (hslots : ∀ (stage : Stage) (i : Nat), t.pipeline.get stage = some i →
      (∃ other, s.pipeline.get other = some i) ∨ i < s.instructions.size) : t.Seated := by
  have hsize : t.instructions.size = s.instructions.size := by rw [← length_codes, ← length_codes, hcodes]
  refine ⟨fun stage i hi => ?_, hsize ▸ h.size_le⟩
  rw [hsize]
  rcases hslots stage i hi with ⟨other, hother⟩ | hlt
  · exact h.lt other i hother
  · exact hlt

theorem Seated.move (h : s.Seated) (a b : Stage) : (s.move a b).Seated := by
  refine h.of_codes (codes_move s a b) fun stage i hi => .inl ?_
  cases ha : s.pipeline.get a with
  | none =>
    rw [move_of_empty ha] at hi
    exact ⟨stage, hi⟩
  | some index =>
    rw [move_of_occupied ha] at hi
    exact Pipeline.exists_of_get_move hi

theorem Seated.execute (h : s.Seated) : s.execute.Seated := by
  have hlogged : Seated { s with hazards := s.hazards ++ s.executeHazards } := ⟨h.lt, h.size_le⟩
  unfold State.execute
  dsimp only
  split
  · exact ⟨h.lt, h.size_le⟩
  · exact hlogged.move .execute .memory

theorem Seated.decode (h : s.Seated) : s.decode.Seated := by
  have hlogged : Seated { s with hazards := s.hazards ++ s.decodeHazards } := ⟨h.lt, h.size_le⟩
  unfold State.decode
  dsimp only
  split
  · exact hlogged.move .decode .execute
  · exact hlogged

theorem Seated.issue (h : s.Seated) : s.issue.Seated := by
  unfold State.issue
  split
  · exact h.move .fetch .decode
  · exact h

/-- What is fetched is in the program. -/
theorem Seated.fetch (h : s.Seated) : s.fetch.Seated := by
  refine h.of_codes (codes_fetch s) fun stage i hi => ?_
  unfold State.fetch at hi
  split at hi
  · rename_i index _ hnext
    cases stage with
    | fetch => exact .inr (Option.some.inj hi ▸ lt_of_next?_eq_some hnext)
    | decode => exact .inl ⟨.decode, hi⟩
    | execute => exact .inl ⟨.execute, hi⟩
    | memory => exact .inl ⟨.memory, hi⟩
    | writeBack => exact .inl ⟨.writeBack, hi⟩
  · exact .inl ⟨stage, hi⟩

theorem Seated.age (h : s.Seated) : s.age.Seated := ⟨h.lt, h.size_le⟩

theorem Seated.advanceFront (h : s.Seated) : s.advanceFront.Seated :=
  ⟨h.execute.decode.issue.fetch.lt, h.execute.decode.issue.fetch.size_le⟩

/-- Write-back only clears its slot. -/
theorem Seated.writeBack (h : s.Seated) (hok : s.writeBack = .ok t) : t.Seated := by
  refine h.of_codes (codes_writeBack hok) fun stage i hi => .inl ?_
  unfold State.writeBack at hok
  split at hok
  · obtain ⟨storage, -, rfl⟩ := exists_of_map_eq_ok hok
    cases stage with
    | writeBack => cases hi
    | fetch => exact ⟨.fetch, hi⟩
    | decode => exact ⟨.decode, hi⟩
    | execute => exact ⟨.execute, hi⟩
    | memory => exact ⟨.memory, hi⟩
  · rw [← Except.ok.inj hok] at hi
    exact ⟨stage, hi⟩

theorem Seated.memoryAccess (h : s.Seated) (hok : s.memoryAccess = .ok t) : t.Seated := by
  unfold State.memoryAccess at hok
  split at hok
  · rwa [← Except.ok.inj hok]
  · obtain ⟨storage, -, rfl⟩ := exists_of_map_eq_ok hok
    exact Seated.move (s := { s with storage }) ⟨h.lt, h.size_le⟩ .memory .writeBack

theorem Seated.opened (h : s.Seated) : s.opened.Seated := ⟨h.lt, h.size_le⟩

theorem Seated.step (h : s.Seated) (hok : s.step = .ok t) : t.Seated := by
  obtain ⟨retired, hretired, hcases⟩ := step_cases hok
  have hback := h.writeBack hretired
  rcases hcases with ⟨-, rfl⟩ | ⟨-, accessed, haccessed, rfl⟩
  · exact hback
  · exact (hback.opened.memoryAccess haccessed).advanceFront

/-- The memory stage is reached with the slots in order. -/
theorem Seated.step_error {i : Interrupted RegisterName.TooLong State} (h : s.Seated) (hcut : s.step = .error i) :
    i.state.Seated := by
  rcases step_error_cases hcut with ⟨-, hsame⟩ | ⟨retired, hretired, -, -, hopened⟩
  · rwa [hsame]
  · rw [hopened]
    exact (h.writeBack hretired).opened

theorem Seated.fresh (storage : Storage) : ({ storage } : State).Seated := by
  refine ⟨fun stage i hi => ?_, Nat.zero_le _⟩
  cases stage <;> cases hi

theorem Seated.load (s : State) {program : List Instruction} (h : program.length ≤ Json.placeLimit) :
    (s.load program).Seated := by
  refine ⟨fun stage i hi => ?_, ?_⟩
  · cases stage <;> cases hi
  · simpa [State.load] using h

theorem Seated.applySettings (h : s.Seated) (settings : Settings) : (s.applySettings settings).Seated :=
  ⟨h.lt, h.size_le⟩

end State

namespace Engine

/-- What a call loads, if anything, is no longer than a list can be. -/
def Call.Fits : Call → Prop
  | .load text => (Program.parse text).instructions.length ≤ Json.placeLimit
  | _ => True

/-- Whatever calls do, also if they are cut short, the slots name instructions of the program. -/
theorem seated_attempt {e : Engine State} {call : Call} (he : e.state.Seated) (hfits : call.Fits) :
    (e.attempt call).state.Seated := by
  refine attempt_state_induction (fun source => .fresh _) ?_ (fun _ _ hs hok => hs.step hok)
    (fun _ _ hs hcut => hs.step_error hcut) (fun _ settings hs => hs.applySettings settings) he
  rintro s text rfl -
  exact .load s hfits

end Engine

end FiveStage
