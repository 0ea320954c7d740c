import FiveStage.Proofs.Listing
import FiveStage.Proofs.Runs

/-!
# Conservation

No instruction is lost, doubled or overtaken, whatever is done with an engine: the program falls into the instructions
that are completed, those in the pipeline in their order, and those that were not touched yet. A cycle takes none of
them further than one stage, and each move in it finds the slot empty that it leads to.

Main statements:
* `numbered_parse`: instructions stand at consecutive addresses;
* `InPhase.orderly`: a program in a phase is in order;
* `progress_next`, `InPhase.progress_eq`: how far an instruction has come follows from the phase, and it gets at most
  one stage further;
* `InPhase.movesFreely`: no move of a cycle overwrites a slot;
* `Engine.Reachable.conserves`: all of that in every reachable engine.
-/

namespace FiveStage

/-- The place of a stage among the stages, counted from one. -/
def Stage.rank : Stage → Nat
  | .fetch => 1
  | .decode => 2
  | .execute => 3
  | .memory => 4
  | .writeBack => 5

/-- How far an instruction has come: it is not fetched yet, in one of the stages, or completed. -/
def Tracked.progress (x : Tracked) : Nat :=
  if x.completed then Stage.depth + 1 else x.stage.elim 0 Stage.rank

/-- Nothing moves, or the occupant of a slot moves to another one, which is empty. -/
def Pipeline.MovesUp (a b : Stage) (p q : Pipeline Nat) : Prop :=
  q = p ∨ p.get b = none ∧ q = p.move a b

namespace Program

/-- The instructions of a program stand at consecutive addresses. -/
def Numbered (program : List Instruction) : Prop :=
  ∀ (i : Nat) (code : Instruction), program[i]? = some code → code.pc = baseAddress + i * wordSize

/-- What a text denotes is numbered. -/
theorem numbered_parse (text : String) : Numbered (parse text).instructions := by
  intro i code h
  obtain ⟨x, -, hpc, -⟩ := exists_loadedLines_of_getElem? h
  exact hpc

end Program

namespace Phase

/-- How far the instruction at a place has come: as many stages as were fetched since, and one more if it is ahead of a
bubble. -/
def progress (p : Phase) (i : Nat) : Nat :=
  match p.bubble with
  | .absent => min (p.front - i) 6
  | .memory => min (p.front - i + min (p.front - i - 3) 1) 6
  | .writeBack => min (p.front - i + min (p.front - i - 4) 1) 6

/-- A cycle takes no instruction further than one stage. -/
theorem progress_next (p : Phase) (waits : Bool) (i : Nat) :
    (p.next waits).progress i = p.progress i ∨ (p.next waits).progress i = p.progress i + 1 := by
  obtain ⟨front, bubble⟩ := p
  cases bubble <;> cases waits <;> simp only [next, progress] <;> omega

theorem progress_rested {p : Phase} (h : p.bubble ≠ .memory) (i : Nat) :
    p.rested.progress i = p.progress i ∨ p.rested.progress i = p.progress i + 1 := by
  obtain ⟨front, bubble⟩ := p
  cases bubble with
  | absent =>
    simp only [rested, progress]
    omega
  | memory => exact absurd rfl h
  | writeBack => exact .inl rfl

theorem lt_front_of_get_pipeline {p : Phase} {n i : Nat} {stage : Stage} (h : (p.pipeline n).get stage = some i) :
    i < p.front := by
  obtain ⟨front, bubble⟩ := p
  cases bubble <;> cases stage <;> simp [pipeline, Pipeline.get, behind_eq_some_iff] at h <;> simp only <;> omega

theorem progress_of_lt_retired {p : Phase} {i : Nat} (h : i < p.retired) : p.progress i = 6 := by
  obtain ⟨front, bubble⟩ := p
  cases bubble <;> simp only [retired] at h <;> simp only [progress] <;> omega

theorem progress_of_get_pipeline {p : Phase} {n i : Nat} {stage : Stage} (h : (p.pipeline n).get stage = some i) :
    p.progress i = stage.rank := by
  obtain ⟨front, bubble⟩ := p
  cases bubble <;> cases stage <;> simp [pipeline, Pipeline.get, behind_eq_some_iff] at h <;>
    simp only [progress, Stage.rank] <;> omega

theorem progress_of_front_le {p : Phase} {i : Nat} (h : p.front ≤ i) : p.progress i = 0 := by
  obtain ⟨front, bubble⟩ := p
  cases bubble <;> simp only [progress] at h ⊢ <;> omega

/-- What has not retired and is in no slot was not fetched. -/
theorem front_le_of_get_pipeline_ne {p : Phase} {n i : Nat} (hi : i < n) (hr : p.retired ≤ i)
    (h : ∀ stage, (p.pipeline n).get stage ≠ some i) : p.front ≤ i := by
  have hfetch := h .fetch
  have hdecode := h .decode
  have hexecute := h .execute
  have hmemory := h .memory
  have hwriteBack := h .writeBack
  obtain ⟨front, bubble⟩ := p
  cases bubble <;> simp [pipeline, Pipeline.get, behind_eq_some_iff] at * <;> simp only [retired] at hr <;> omega

end Phase

namespace State

/-- The program is in order: so many of its instructions are completed, and so many were fetched. -/
structure Orderly (s : State) (done fetched : Nat) : Prop where
  pc : s.pc = Program.baseAddress + fetched * Program.wordSize
  completed : s.completed = done
  done_le : done ≤ fetched
  fetched_le : fetched ≤ s.instructions.size
  /-- The first instructions, and only those, are completed, and are in no stage. -/
  finished : ∀ (i : Nat) (x : Tracked), s.instructions[i]? = some x →
    (x.completed = true ↔ i < done) ∧ (i < done → x.stage = none)
  /-- From write-back to fetch, the slots hold the next ones, each once and in order. -/
  slots : s.pipeline.occupants.reverse = List.range' done (fetched - done)
  /-- Each of these knows of its slot, and is not completed. -/
  staged : ∀ (stage : Stage) (i : Nat), s.pipeline.get stage = some i →
    ∃ x, s.instructions[i]? = some x ∧ x.stage = some stage ∧ x.completed = false
  /-- The others were not touched yet. -/
  untouched : ∀ (i : Nat) (x : Tracked), s.instructions[i]? = some x → fetched ≤ i →
    x.fetched = 0 ∧ x.stage = none ∧ x.completed = false
  addresses : ∀ (i : Nat) (x : Tracked), s.instructions[i]? = some x →
    x.code.pc = Program.baseAddress + i * Program.wordSize

/-- A cycle goes through the stages from the last to the first. After write-back has been cleared, each of them makes at
most one move, and none into a slot that is still occupied. -/
structure MovesFreely (s t : State) (retired : State) : Prop where
  writeBack : s.writeBack = .ok retired ∧ retired.pipeline = { s.pipeline with writeBack := none }
  rest : t = retired ∨ ∃ accessed, retired.opened.memoryAccess = .ok accessed ∧ t = accessed.advanceFront ∧
    retired.pipeline.MovesUp .memory .writeBack accessed.pipeline ∧
    accessed.pipeline.MovesUp .execute .memory accessed.execute.pipeline ∧
    accessed.execute.pipeline.MovesUp .decode .execute accessed.execute.decode.pipeline ∧
    accessed.execute.decode.pipeline.MovesUp .fetch .decode accessed.execute.decode.issue.pipeline ∧
    (t.pipeline = accessed.execute.decode.issue.pipeline ∨
      accessed.execute.decode.issue.pipeline.fetch = none ∧
        ∃ i, t.pipeline = { accessed.execute.decode.issue.pipeline with fetch := some i })

/-- No instruction gets further than one stage from one state to the other. -/
def Progresses (s t : State) : Prop :=
  ∀ (i : Nat) (x y : Tracked), s.instructions[i]? = some x → t.instructions[i]? = some y →
    y.progress = x.progress ∨ y.progress = x.progress + 1

/-! ## Moves -/

theorem pipeline_move (s : State) (a b : Stage) :
    (s.move a b).pipeline = s.pipeline ∨ (s.move a b).pipeline = s.pipeline.move a b := by
  cases ha : s.pipeline.get a with
  | none => exact .inl (by rw [move_of_empty ha])
  | some i => exact .inr (by rw [move_of_occupied ha]; rfl)

theorem movesUp_move {s : State} {b : Stage} (h : s.pipeline.get b = none) (a : Stage) :
    s.pipeline.MovesUp a b (s.move a b).pipeline := by
  rcases s.pipeline_move a b with hsame | hmoved
  · exact .inl hsame
  · exact .inr ⟨h, hmoved⟩

/-- The instruction in decode moves only if execute is empty. -/
theorem movesUp_decode (s : State) : s.pipeline.MovesUp .decode .execute s.decode.pipeline := by
  unfold decode
  split
  · rename_i hfree
    have hempty : ({ s with hazards := s.hazards ++ s.decodeHazards } : State).pipeline.get .execute = none :=
      Option.isNone_iff_eq_none.1 hfree
    exact movesUp_move hempty .decode
  · exact .inl rfl

/-- The fetched instruction moves only if decode is empty. -/
theorem movesUp_issue (s : State) : s.pipeline.MovesUp .fetch .decode s.issue.pipeline := by
  unfold issue
  split
  · rename_i hfree
    have hempty : s.pipeline.get .decode = none := Option.isNone_iff_eq_none.1 hfree
    exact movesUp_move hempty .fetch
  · exact .inl rfl

/-- An instruction is fetched only if the slot is empty. -/
theorem pipeline_fetch (s : State) :
    s.fetch.pipeline = s.pipeline ∨
      s.pipeline.fetch = none ∧ ∃ i, s.fetch.pipeline = { s.pipeline with fetch := some i } := by
  unfold fetch
  split
  · rename_i i hempty _
    exact .inr ⟨hempty, i, rfl⟩
  · exact .inl rfl

namespace InPhase

variable {program : List Instruction} {p q : Phase} {s t retired accessed : State}

/-- The memory stage finds write-back empty. -/
theorem movesUp_memoryAccess (h : s.InPhase program p) (hretired : s.writeBack = .ok retired)
    (haccessed : retired.opened.memoryAccess = .ok accessed) :
    retired.pipeline.MovesUp .memory .writeBack accessed.pipeline := by
  have hcleared := (h.writeBack hretired).pipeline
  have hmoved := (h.memoryAccess hretired haccessed).pipeline
  refine .inr ⟨?_, ?_⟩
  · rw [hcleared]
    rfl
  · rw [hmoved, hcleared]
    rfl

/-- The instruction in execute finds the memory stage empty. -/
theorem movesUp_execute (h : s.InPhase program p) (hretired : s.writeBack = .ok retired)
    (haccessed : retired.opened.memoryAccess = .ok accessed) :
    accessed.pipeline.MovesUp .execute .memory accessed.execute.pipeline := by
  have hstands := h.memoryAccess hretired haccessed
  have hempty : accessed.pipeline.get .memory = none := by
    rw [hstands.pipeline]
    rfl
  cases hstall : accessed.mustStall with
  | true =>
    refine .inl ?_
    rw [(hstands.execute_of_stall hstall).pipeline, hstands.pipeline]
  | false =>
    refine .inr ⟨hempty, ?_⟩
    rw [(hstands.execute_of_pass rfl hstall).pipeline, hstands.pipeline]

/-- No move of a cycle overwrites a slot. -/
theorem movesFreely (h : s.InPhase program p) (hok : s.step = .ok t) : ∃ retired, s.MovesFreely t retired := by
  obtain ⟨retired, hretired, hrest⟩ := step_cases hok
  refine ⟨retired, { writeBack := ⟨hretired, ?_⟩, rest := ?_ }⟩
  · rw [(h.writeBack hretired).pipeline, h.stands.pipeline]
    rfl
  · obtain ⟨-, rfl⟩ | ⟨-, accessed, haccessed, rfl⟩ := hrest
    · exact .inl rfl
    · exact .inr ⟨accessed, haccessed, rfl, h.movesUp_memoryAccess hretired haccessed,
        h.movesUp_execute hretired haccessed, movesUp_decode _, movesUp_issue _, pipeline_fetch _⟩

/-! ## Order -/

/-- The instruction at a place is in a stage only while it is in a slot. -/
theorem stage_eq_none (h : s.InPhase program p) {i : Nat} {x : Tracked} (hx : s.instructions[i]? = some x)
    (hi : i < p.retired ∨ p.front ≤ i) : x.stage = none := by
  rw [Option.eq_none_iff_forall_ne_some]
  intro stage hs
  have hget := (h.stands.tracks i x hx stage).1 hs
  have hretired := Phase.retired_le_of_get_pipeline hget
  have hfront := Phase.lt_front_of_get_pipeline hget
  omega

theorem completed_eq_false (h : s.InPhase program p) {i : Nat} {x : Tracked} (hx : s.instructions[i]? = some x)
    (hi : p.retired ≤ i) : x.completed = false := by
  rw [← Bool.not_eq_true, h.stands.finished i x hx]
  omega

/-- A program in a phase is in order. -/
theorem orderly (h : s.InPhase program p) (hnumbered : Program.Numbered program) :
    s.Orderly (min p.retired program.length) (min p.front program.length) := by
  have hstands := h.stands
  have hretired := p.retired_le_front
  refine
    { pc := hstands.pc, completed := hstands.completed, done_le := by omega, fetched_le := ?_, finished := ?_,
      slots := ?_, staged := ?_, untouched := ?_, addresses := ?_ }
  · rw [hstands.size_eq]
    exact Nat.min_le_right ..
  · intro i x hx
    have hi := hstands.lt_of_getElem? hx
    refine ⟨?_, fun hdone => h.stage_eq_none hx (.inl (by omega))⟩
    rw [hstands.finished i x hx]
    omega
  · rw [hstands.pipeline]
    exact p.reverse_occupants_pipeline _
  · intro stage i hs
    rw [hstands.pipeline] at hs
    obtain ⟨x, hx, -⟩ := hstands.exists_of_lt (Phase.lt_of_get_pipeline hs)
    have hstage := (hstands.tracks i x hx stage).2 hs
    exact ⟨x, hx, hstage, h.completed_eq_false hx (Phase.retired_le_of_get_pipeline hs)⟩
  · intro i x hx hfetched
    have hi := hstands.lt_of_getElem? hx
    have hfront : p.front ≤ i := by omega
    refine ⟨?_, h.stage_eq_none hx (.inr hfront), h.completed_eq_false hx (by omega)⟩
    rw [← fetchedAt_eq_of_getElem? hx]
    exact hstands.unfetched i hfront
  · intro i x hx
    apply hnumbered i x.code
    rw [← hstands.codes, getElem?_codes, hx]
    rfl

/-- How far an instruction has come follows from the phase. -/
theorem progress_eq (h : s.InPhase program p) {i : Nat} {x : Tracked} (hx : s.instructions[i]? = some x) :
    x.progress = p.progress i := by
  have hfinished := h.stands.finished i x hx
  have htracks := h.stands.tracks i x hx
  have hi := h.stands.lt_of_getElem? hx
  unfold Tracked.progress
  cases hc : x.completed with
  | true =>
    rw [Phase.progress_of_lt_retired (hfinished.1 hc)]
    rfl
  | false =>
    have hretired : p.retired ≤ i := by
      rw [← Nat.not_lt, ← hfinished, hc]
      exact Bool.false_ne_true
    cases hs : x.stage with
    | some stage =>
      rw [Phase.progress_of_get_pipeline ((htracks stage).1 hs)]
      rfl
    | none =>
      have hnone : ∀ stage, (p.pipeline program.length).get stage ≠ some i := by
        intro stage hget
        rw [← htracks, hs] at hget
        cases hget
      rw [Phase.progress_of_front_le (Phase.front_le_of_get_pipeline_ne hi hretired hnone)]
      rfl

/-- A cycle takes no instruction further than one stage. -/
theorem progresses (h : s.InPhase program p) (hok : s.step = .ok t) : s.Progresses t := by
  intro i x y hx hy
  obtain ⟨hr, hsettles⟩ | ⟨-, hticks⟩ := h.step hok
  · rw [h.progress_eq hx, hsettles.inPhase.progress_eq hy]
    exact Phase.progress_rested (h.fits.bubble_ne_memory hr) i
  · rw [h.progress_eq hx, hticks.inPhase.progress_eq hy]
    exact Phase.progress_next p _ i

end InPhase

end State

namespace Engine

/-- Whatever is done with an engine, its program is numbered and in a phase. -/
theorem Reachable.exists_inPhase {e : Engine State} (h : Reachable e) :
    ∃ program p, Program.Numbered program ∧ e.state.InPhase program p := by
  refine h.induction (P := fun s => ∃ program p, Program.Numbered program ∧ s.InPhase program p) ?_ ?_ ?_ ?_
  · intro storage
    exact ⟨[], {}, nofun, State.InPhase.fresh storage⟩
  · intro s text _
    exact ⟨_, {}, Program.numbered_parse text, State.InPhase.load s _⟩
  · rintro s t ⟨program, p, hnumbered, hp⟩ hok
    obtain ⟨q, hq⟩ := hp.exists_step hok
    exact ⟨program, q, hnumbered, hq⟩
  · rintro s settings ⟨program, p, hnumbered, hp⟩
    exact ⟨program, p, hnumbered, hp.applySettings settings⟩

/-- **Conservation.** Whatever is done with an engine, its program is in order, and a cycle moves no instruction into a
slot that is still occupied, or further than one stage. -/
theorem Reachable.conserves {e : Engine State} (h : Reachable e) :
    (∃ done fetched, e.state.Orderly done fetched) ∧
      ∀ t, e.state.step = .ok t → (∃ retired, e.state.MovesFreely t retired) ∧ e.state.Progresses t := by
  obtain ⟨program, p, hnumbered, hp⟩ := h.exists_inPhase
  refine ⟨⟨_, _, hp.orderly hnumbered⟩, ?_⟩
  intro t hok
  exact ⟨hp.movesFreely hok, hp.progresses hok⟩

/-- A program is loaded while another one is under way, with other settings. -/
theorem Reachable.conserves_reload :
    ∃ e t, Reachable e ∧ e.state.step = .ok t ∧ t.cycle = 4 ∧ (∃ done fetched, e.state.Orderly done fetched) ∧
      (∃ retired, e.state.MovesFreely t retired) ∧ e.state.Progresses t := by
  let fresh : Engine State := { source := .seeded 0, state := { storage := Storage.zero } }
  have hok : ((fresh.load "ADD R1, R2, R3\nSUB R4, R1, R5").run 4).toOption.any (fun e =>
      (((e.applySettings { forwarding := false }).load "LW R1, 0(R2)\nADD R3, R1, R1").run 3).toOption.any fun e' =>
        e'.state.step.toOption.any fun t => decide (t.cycle = 4)) = true := by
    decide +kernel
  obtain ⟨e, he, hreloaded⟩ := State.exists_of_any_toOption hok
  obtain ⟨e', he', hstepped⟩ := State.exists_of_any_toOption hreloaded
  obtain ⟨t, ht, hcycle⟩ := State.exists_of_any_toOption hstepped
  have hfirst : Reachable e := ((Reachable.fresh _ _).load _).run _ he
  have hsecond : Reachable e' := ((hfirst.applySettings _).load _).run _ he'
  obtain ⟨horderly, hmoves⟩ := Reachable.conserves hsecond
  exact ⟨e', t, hsecond, ht, of_decide_eq_true hcycle, horderly, hmoves t ht⟩

end Engine

end FiveStage
