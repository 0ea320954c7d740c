import FiveStage.Proofs.Calls
import FiveStage.Proofs.Conservation
import FiveStage.Proofs.Sequential

/-!
# Marks of change

A cell that is written is marked with the cycle of the change, and loses the mark when the change is too long ago. The
clock begins anew with every program, but the cells keep what they are marked with. So a mark always goes within its
window of the clock, but after a program has been loaded it may lie ahead of the clock, and then it stays as long as
the clock takes to catch up.

Main statements:
* `State.InPhase.rel_step`: what a cycle can do to a cell, for relations of cells to what they were;
* `State.Proceeds.marks`: each cell was written since the program was loaded, or has only aged since;
* `Engine.performAll_marks`: all of that for every engine that calls make of a new one;
* `Engine.performAll_marks_ahead`: a mark of the program before, ahead of the clock and older than its window.
-/

namespace FiveStage

namespace Cell

/-- The cell counts as modified only as long as the change is within the window of the clock. -/
def InWindow (clock : Int) (c : Cell) : Prop :=
  c.modified = true → clock - c.lastModified ≤ modifiedWindow

/-- In addition, the change is not ahead of the clock. -/
structure Timely (clock : Int) (c : Cell) : Prop where
  lastModified_le : c.lastModified ≤ clock
  inWindow : c.InWindow clock

/-- The cell was never written. -/
structure Untouched (c : Cell) : Prop where
  modified : c.modified = false
  lastModified : c.lastModified = 0

variable {c : Cell} {clock : Int}

theorem timely_write (value clock : Int) : (write value clock).Timely clock where
  lastModified_le := Int.le_refl clock
  inWindow _ := by
    show clock - clock ≤ modifiedWindow
    rw [Int.sub_self]
    decide

@[simp]
theorem lastModified_age (clock : Int) (c : Cell) : (c.age clock).lastModified = c.lastModified := by
  unfold age
  split <;> rfl

/-- A cell whose mark is within the window does not change as it ages. -/
theorem age_eq_self (h : c.InWindow clock) : c.age clock = c := by
  unfold age
  split
  · rename_i hold
    rw [Bool.and_eq_true, decide_eq_true_eq] at hold
    have := h hold.1
    omega
  · rfl

/-- Age takes away the marks that are not within the window. -/
theorem inWindow_age (clock : Int) (c : Cell) : (c.age clock).InWindow clock := by
  intro hmodified
  rw [lastModified_age]
  unfold age at hmodified
  split at hmodified
  · cases hmodified
  · rename_i hyoung
    rw [Bool.and_eq_true, decide_eq_true_eq, not_and] at hyoung
    exact Int.not_lt.1 (hyoung hmodified)

/-- What is too old at one time is too old later on. -/
theorem age_age {later : Int} (h : clock ≤ later) (c : Cell) : (c.age clock).age later = c.age later := by
  by_cases hold : c.modified && decide (modifiedWindow < clock - c.lastModified)
  · rw [Bool.and_eq_true, decide_eq_true_eq] at hold
    have hlater : modifiedWindow < later - c.lastModified := by omega
    simp [age, hold.1, hold.2, hlater]
  · have hsame : c.age clock = c := by rw [age, if_neg hold]
    rw [hsame]

theorem Timely.age {later : Int} (h : c.Timely clock) (hlater : clock ≤ later) : (c.age later).Timely later where
  lastModified_le := by
    rw [lastModified_age]
    exact h.lastModified_le.trans hlater
  inWindow := inWindow_age later c

theorem untouched (value : Int) : Untouched { value } :=
  ⟨rfl, rfl⟩

theorem Untouched.inWindow (h : c.Untouched) : c.InWindow clock := by
  intro hmodified
  rw [h.modified] at hmodified
  cases hmodified

end Cell

namespace Storage

/-- Each register and each word is related to what it was before. -/
structure Rel (R : Cell → Cell → Prop) (before now : Storage) : Prop where
  registers : ∀ (r : Nat) (_ : r < registerCount), R before.registers[r] now.registers[r]
  memory : ∀ (w : Nat) (_ : w < wordCount), R before.memory[w] now.memory[w]

/-- Each register and each word has a property. -/
def All (P : Cell → Prop) (st : Storage) : Prop :=
  st.Rel (fun _ now => P now) st

variable {R S T : Cell → Cell → Prop} {P Q : Cell → Prop} {before st st' : Storage} {cycle : Int}

theorem Rel.mono (h : before.Rel R st) (hRS : ∀ b c, R b c → S b c) : before.Rel S st where
  registers r hr := hRS _ _ (h.registers r hr)
  memory w hw := hRS _ _ (h.memory w hw)

theorem Rel.trans (hR : before.Rel R st) (hS : st.Rel S st') (hRS : ∀ b c d, R b c → S c d → T b d) :
    before.Rel T st' where
  registers r hr := hRS _ _ _ (hR.registers r hr) (hS.registers r hr)
  memory w hw := hRS _ _ _ (hR.memory w hw) (hS.memory w hw)

theorem Rel.all (h : before.Rel (fun _ now => P now) st) : st.All P :=
  ⟨h.registers, h.memory⟩

theorem All.mono (h : st.All P) (hPQ : ∀ c, P c → Q c) : st.All Q :=
  Rel.mono h fun _ => hPQ

/-- What is done in a cycle to a cell at most: it is written. -/
def Written (cycle : Int) (b c : Cell) : Prop :=
  c = b ∨ ∃ value, c = Cell.write value cycle

theorem written_set {n : Nat} (cells : Vector Cell n) (k : Fin n) (value cycle : Int) (q : Nat) (hq : q < n) :
    Written cycle cells[q] (cells.set k (Cell.write value cycle) k.isLt)[q] := by
  by_cases hk : k.val = q
  · subst hk
    exact .inr ⟨value, Vector.getElem_set_self _⟩
  · exact .inl (Vector.getElem_set_ne _ _ hk)

theorem rel_written_refl (st : Storage) (cycle : Int) : st.Rel (Written cycle) st :=
  ⟨fun _ _ => .inl rfl, fun _ _ => .inl rfl⟩

theorem rel_retireSlot {slot : Option Instruction} (h : st.retireSlot slot cycle = .ok st') :
    st.Rel (Written cycle) st' := by
  cases slot with
  | none =>
    rw [← Except.ok.inj h]
    exact st.rel_written_refl cycle
  | some i =>
    obtain ⟨-, rfl⟩ | ⟨r, value, -, -, rfl⟩ := retire_cases h
    · exact st'.rel_written_refl cycle
    · exact ⟨written_set st.registers r value cycle, fun _ _ => .inl rfl⟩

theorem rel_accessSlot {slot : Option Instruction} (h : st.accessSlot slot cycle = .ok st') :
    st.Rel (Written cycle) st' := by
  cases slot with
  | none =>
    rw [← Except.ok.inj h]
    exact st.rel_written_refl cycle
  | some i =>
    obtain ⟨-, rfl⟩ | ⟨-, a, -, ⟨-, rfl⟩ | ⟨w, value, -, -, rfl⟩⟩ := access_cases h
    · exact st'.rel_written_refl cycle
    · exact st'.rel_written_refl cycle
    · exact ⟨fun _ _ => .inl rfl, written_set st.memory w value cycle⟩

theorem untouched_zero : zero.All Cell.Untouched where
  registers r hr := by
    simp only [zero, Vector.getElem_replicate]
    exact Cell.untouched 0
  memory w hw := by
    simp only [zero, Vector.getElem_replicate]
    exact Cell.untouched 0

theorem untouched_ofNumbers (registers words : List Nat) : (ofNumbers registers words).All Cell.Untouched where
  registers r hr := by
    simp only [ofNumbers, Vector.getElem_ofFn]
    exact Cell.untouched _
  memory w hw := by
    simp only [ofNumbers, Vector.getElem_ofFn]
    exact Cell.untouched _

theorem untouched_storage (source : Source) : source.storage.All Cell.Untouched := by
  cases source with
  | seeded seed => exact untouched_ofNumbers _ _
  | chance number => exact untouched_ofNumbers _ _

theorem rel_age (st : Storage) (cycle : Int) : st.Rel (fun b c => c = b.age cycle) (st.age cycle) :=
  ⟨fun r hr => by simp [age], fun w hw => by simp [age]⟩

end Storage

/-! ## Cycles -/

namespace State

/-- A relation of a cell to what it was before, which a cell gets into when it is written, and in which it stays as it
ages. -/
structure Lasts (R : Int → Cell → Cell → Prop) : Prop where
  write : ∀ cycle before value, 0 ≤ cycle → R cycle before (Cell.write value cycle)
  age : ∀ cycle before c, R cycle before c → R (cycle + 1) before (c.age (cycle + 1))

/-- The marks of the cells are from cycles that the clock has counted, and within the window. -/
structure Marked (s : State) : Prop where
  cycle_nonneg : 0 ≤ s.cycle
  cells : s.storage.All fun c => 0 ≤ c.lastModified ∧ c.InWindow s.cycle

variable {R : Int → Cell → Cell → Prop} {program : List Instruction} {p : Phase} {s t : State} {before st st' : Storage}

theorem Lasts.written (h : Lasts R) {cycle : Int} (hcycle : 0 ≤ cycle) (hs : before.Rel (R cycle) st)
    (hw : st.Rel (Storage.Written cycle) st') : before.Rel (R cycle) st' := by
  refine hs.trans hw ?_
  rintro b c d hbc (rfl | ⟨value, rfl⟩)
  · exact hbc
  · exact h.write cycle b value hcycle

/-- A cell that is written in a cycle does not age in it. -/
theorem Lasts.aged (h : Lasts R) {cycle : Int} (hcycle : 0 ≤ cycle) (hs : before.Rel (R cycle) st)
    (hw : st.Rel (Storage.Written (cycle + 1)) st') : before.Rel (R (cycle + 1)) (st'.age (cycle + 1)) := by
  have hlatest : before.Rel (fun b c => R cycle b c ∨ ∃ value, c = Cell.write value (cycle + 1)) st' := by
    refine hs.trans hw ?_
    rintro b c d hbc (rfl | hwritten)
    · exact .inl hbc
    · exact .inr hwritten
  refine hlatest.trans (st'.rel_age (cycle + 1)) ?_
  rintro b c d (hbc | ⟨value, rfl⟩) rfl
  · exact h.age cycle b c hbc
  · rw [Cell.age_eq_self (Cell.timely_write value (cycle + 1)).inWindow]
    exact h.write (cycle + 1) b value (by omega)

/-- What a cycle can do to the cells. -/
theorem InPhase.rel_step (h : s.InPhase program p) (hR : Lasts R) (hcycle : 0 ≤ s.cycle)
    (hs : before.Rel (R s.cycle) s.storage) (hok : s.step = .ok t) :
    0 ≤ t.cycle ∧ before.Rel (R t.cycle) t.storage := by
  obtain ⟨-, hsettles⟩ | ⟨-, hticks⟩ := h.step hok
  · have hclock : t.cycle = s.cycle := by
      obtain ⟨_, _, _, _, hframe⟩ := hsettles.frame
      rw [hframe]
    rw [hclock]
    exact ⟨hcycle, hR.written hcycle hs (Storage.rel_retireSlot hsettles.storage)⟩
  · obtain ⟨retired, accessed, hretired, haccessed, hage⟩ := hticks.storage
    rw [hage, hticks.cycle]
    rw [hticks.cycle] at haccessed
    exact ⟨by omega, hR.aged hcycle (hR.written hcycle hs (Storage.rel_retireSlot hretired))
      (Storage.rel_accessSlot haccessed)⟩

/-! ## Marks in the window -/

theorem lasts_inWindow : Lasts fun cycle _ c => 0 ≤ c.lastModified ∧ c.InWindow cycle where
  write cycle _ value hcycle := ⟨hcycle, (Cell.timely_write value cycle).inWindow⟩
  age cycle _ c h := ⟨by rw [Cell.lastModified_age]; exact h.1, Cell.inWindow_age (cycle + 1) c⟩

namespace Marked

theorem fresh {storage : Storage} (h : storage.All Cell.Untouched) : ({ storage } : State).Marked where
  cycle_nonneg := Int.le_refl 0
  cells := h.mono fun _ hc => ⟨hc.lastModified.ge, hc.inWindow⟩

/-- The clock begins anew, and is behind the marks of the program before. -/
theorem load (h : s.Marked) (program : List Instruction) : (s.load program).Marked where
  cycle_nonneg := Int.le_refl 0
  cells := by
    refine Storage.All.mono h.cells fun c hc => ⟨hc.1, fun _ => ?_⟩
    show 0 - c.lastModified ≤ modifiedWindow
    have := hc.1
    unfold modifiedWindow
    omega

theorem applySettings (h : s.Marked) (settings : Settings) : (s.applySettings settings).Marked :=
  ⟨h.cycle_nonneg, h.cells⟩

theorem step (h : s.Marked) (hp : s.InPhase program p) (hok : s.step = .ok t) : t.Marked := by
  obtain ⟨hcycle, hcells⟩ := hp.rel_step lasts_inWindow h.cycle_nonneg h.cells hok
  exact ⟨hcycle, hcells.all⟩

end Marked

/-! ## Marks of one program -/

/-- The cell was written since, and is timely, or it has only aged. -/
def SinceLoad (cycle : Int) (before c : Cell) : Prop :=
  c.Timely cycle ∨ c = before.age cycle

theorem SinceLoad.timely {cycle : Int} {b c : Cell} (h : SinceLoad cycle b c) (hcycle : 0 ≤ cycle)
    (hb : b.lastModified = 0) : c.Timely cycle := by
  rcases h with htimely | rfl
  · exact htimely
  · refine ⟨?_, Cell.inWindow_age cycle b⟩
    rw [Cell.lastModified_age, hb]
    exact hcycle

theorem lasts_sinceLoad : Lasts SinceLoad where
  write cycle _ value _ := .inl (Cell.timely_write value cycle)
  age cycle b c h := by
    rcases h with htimely | rfl
    · exact .inl (htimely.age (by omega))
    · exact .inr (Cell.age_age (by omega) b)

/-- Each cell was written since the program was loaded, or has only aged since. -/
theorem Proceeds.marks (hs : s.Marked) (h : (s.load program).Proceeds t) :
    0 ≤ t.cycle ∧ s.storage.Rel (SinceLoad t.cycle) t.storage := by
  induction h with
  | refl =>
    have hcells := (hs.load program).cells
    exact ⟨Int.le_refl 0, fun r hr => .inr (Cell.age_eq_self (hcells.registers r hr).2).symm,
      fun w hw => .inr (Cell.age_eq_self (hcells.memory w hw).2).symm⟩
  | step hproceeds hok ih =>
    obtain ⟨p, hp⟩ := Proceeds.inPhase hproceeds
    exact hp.rel_step lasts_sinceLoad ih.1 ih.2 hok
  | applySettings settings _ ih => exact ih

end State

/-! ## Marks of several programs -/

namespace Engine

open State

/-- Calls keep the marks of a new engine in order. -/
theorem marked_of_performAll {source : Storage.Source} {storage : Storage} {calls : List Call} {e : Engine State}
    (hnew : storage.All Cell.Untouched) (h : performAll calls { source, state := { storage } } = .ok e) :
    e.state.Marked := by
  have hboth : (∃ program p, e.state.InPhase program p) ∧ e.state.Marked := by
    refine performAll_state_induction (P := fun s => (∃ program p, s.InPhase program p) ∧ s.Marked) ?_ ?_ ?_ ?_ ?_ h
    · intro source
      exact ⟨⟨[], {}, InPhase.fresh _⟩, Marked.fresh (Storage.untouched_storage source)⟩
    · rintro s text ⟨-, hs⟩
      exact ⟨⟨_, {}, InPhase.load s _⟩, hs.load _⟩
    · rintro s t ⟨⟨program, p, hp⟩, hs⟩ hok
      obtain ⟨q, hq⟩ := hp.exists_step hok
      exact ⟨⟨program, q, hq⟩, hs.step hp hok⟩
    · rintro s settings ⟨⟨program, p, hp⟩, hs⟩
      exact ⟨⟨program, p, hp.applySettings settings⟩, hs.applySettings settings⟩
    · exact ⟨⟨[], {}, InPhase.fresh storage⟩, Marked.fresh hnew⟩
  exact hboth.2

/-- **Marks of change.** Whatever calls make of a new engine, no mark goes further back than its window. While a program
is under way, each cell was either written since it was loaded, and its mark is not ahead of the clock, or has only
aged since. So no mark is ever ahead of the clock if nothing was written before the program was loaded. -/
theorem performAll_marks {source : Storage.Source} {storage : Storage} {calls : List Call} {e : Engine State}
    (hnew : storage.All Cell.Untouched) (h : performAll calls { source, state := { storage } } = .ok e) :
    e.state.storage.All (Cell.InWindow e.state.cycle) ∧
      ∀ text s, (e.load text).state.Proceeds s →
        e.state.storage.Rel (fun before c => c.Timely s.cycle ∨ c = before.age s.cycle) s.storage ∧
          (e.state.storage.All (·.lastModified = 0) → s.storage.All (Cell.Timely s.cycle)) := by
  have hmarked := marked_of_performAll hnew h
  refine ⟨hmarked.cells.mono fun c hc => hc.2, fun text s hs => ?_⟩
  obtain ⟨hcycle, hsince⟩ := Proceeds.marks hmarked hs
  exact ⟨hsince, fun hzero => ⟨fun r hr => (hsince.registers r hr).timely hcycle (hzero.registers r hr),
    fun w hw => (hsince.memory w hw).timely hcycle (hzero.memory w hw)⟩⟩

/-- A register that the program before has written is ahead of the clock of the next one, and only ages. The first
program has no such register. -/
theorem performAll_marks_reload :
    let new : Engine State := { source := .seeded 0, state := { storage := Storage.zero } }
    (∀ s, (new.load "ADD R1, R2, R3").state.Proceeds s → s.storage.All (Cell.Timely s.cycle)) ∧
    ∃ e s, performAll [.load "ADD R1, R2, R3", .run 100] new = .ok e ∧
      (e.load "SW R2, 0(R3)\nADD R4, R2, R3").state.Proceeds s ∧ s.cycle = 4 ∧
      s.storage.registers[1] = e.state.storage.registers[1].age 4 ∧ s.storage.registers[1].lastModified = 5 := by
  intro new
  have hok : (performAll [.load "ADD R1, R2, R3", .run 100] new).toOption.any (fun e =>
      ((e.load "SW R2, 0(R3)\nADD R4, R2, R3").state.run 4).toOption.any fun s =>
        decide (s.cycle = 4) && decide (s.storage.registers[1].lastModified = 5)) = true := by
    decide +kernel
  obtain ⟨e, he, hrun⟩ := exists_of_any_toOption hok
  obtain ⟨s, hs, hfacts⟩ := exists_of_any_toOption hrun
  rw [Bool.and_eq_true, decide_eq_true_eq, decide_eq_true_eq] at hfacts
  obtain ⟨hcycle, hlast⟩ := hfacts
  have hproceeds : (e.load "SW R2, 0(R3)\nADD R4, R2, R3").state.Proceeds s := Proceeds.refl.run hs
  have hnew : new.state.storage.All Cell.Untouched := Storage.untouched_zero
  have hzero : new.state.storage.All (·.lastModified = 0) := hnew.mono fun c hc => hc.lastModified
  obtain ⟨-, hfirst⟩ := performAll_marks hnew (rfl : performAll [] new = .ok new)
  obtain ⟨-, hmarks⟩ := performAll_marks hnew he
  refine ⟨fun s hs => (hfirst _ s hs).2 hzero, e, s, he, hproceeds, hcycle, ?_, hlast⟩
  rcases (hmarks _ s hproceeds).1.registers 1 (by decide) with htimely | haged
  · -- The change lies ahead of the clock.
    have := htimely.lastModified_le
    rw [hcycle] at this
    exact absurd (hlast ▸ this) (by decide)
  · rw [hcycle] at haged
    exact haged

/-- Four cycles into a program that writes nothing, a register still shows a change of the program before, and the cycle
of the change is yet to come. -/
theorem performAll_marks_ahead :
    let new : Engine State := { source := .seeded 0, state := { storage := Storage.zero } }
    ∃ e, performAll [.load "ADD R1, R2, R3", .run 100, .load "NOP\nNOP\nNOP\nNOP", .run 4] new = .ok e ∧
      e.state.cycle = 4 ∧ e.state.storage.registers[1].modified = true ∧
      ¬e.state.storage.registers[1].lastModified ≤ e.state.cycle := by
  intro new
  have hok : (performAll [.load "ADD R1, R2, R3", .run 100, .load "NOP\nNOP\nNOP\nNOP", .run 4] new).toOption.any
      (fun e => decide (e.state.cycle = 4) && e.state.storage.registers[1].modified &&
        decide (¬e.state.storage.registers[1].lastModified ≤ e.state.cycle)) = true := by
    decide +kernel
  obtain ⟨e, he, hfacts⟩ := exists_of_any_toOption hok
  rw [Bool.and_eq_true, Bool.and_eq_true, decide_eq_true_eq] at hfacts
  obtain ⟨⟨hcycle, hmodified⟩, hahead⟩ := hfacts
  exact ⟨e, he, hcycle, hmodified, of_decide_eq_true hahead⟩

end Engine

end FiveStage
