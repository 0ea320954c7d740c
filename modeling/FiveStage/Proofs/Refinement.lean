import FiveStage.Proofs.Runs
import FiveStage.Proofs.Sequential

/-!
# Refinement of sequential execution

Loads and arithmetic write their results when they leave write-back, stores are done one stage earlier. So the registers
are those of sequential execution up to the last retired instruction, and the memory is one instruction ahead of them if
there is one in write-back. It makes no difference that the result of that instruction is computed only when it retires:
what it has done to the memory it does not read.

Main statements:
* `Agrees.retireSlot`, `Agrees.accessSlot`: write-back makes the registers catch up, and the memory stage goes ahead;
* `Agrees.step`: a cycle keeps the storage in agreement with sequential execution;
* `Proceeds.values_eq`: so the values are those that the completed instructions and the one in write-back give.
-/

namespace FiveStage

namespace Phase

/-- Whoever is in the memory stage goes on to write-back. -/
theorem writeBack_pipeline_next (p : Phase) (waits : Bool) (n : Nat) :
    ((p.next waits).pipeline n).writeBack = (p.pipeline n).memory := by
  obtain ⟨front, bubble⟩ := p
  cases waits with
  | true => cases bubble <;> rfl
  | false => cases bubble <;> simp [next, pipeline, behind]

/-- With the instruction in write-back, the retired instructions are those that are retired after the next cycle. -/
theorem take_retired_append (p : Phase) {program : List Instruction} (h : p.Fits program.length) :
    program.take p.retired ++ ((p.pipeline program.length).writeBack.bind (program[·]?)).toList =
      program.take (p.next false).retired := by
  cases hw : (p.pipeline program.length).writeBack with
  | none =>
    rw [Option.bind_none, Option.toList_none, List.append_nil, List.take_eq_take_iff]
    exact (retired_next_of_empty h hw).symm
  | some i =>
    obtain ⟨rfl, hnext, -⟩ := retired_next_of_full hw
    rw [hnext, List.take_add_one, Option.bind_some]

end Phase

namespace State

/-- The instructions that are completed, in the order of the program. -/
def completedCodes (s : State) : List Instruction :=
  (s.instructions.toList.filter (·.completed)).map (·.code)

/-- The instruction in write-back, if there is one. -/
def retiringCode (s : State) : List Instruction :=
  (s.placed.writeBack.map (·.code)).toList

/-- The storage holds what sequential execution computes: in the registers, the results of the instructions that have
retired, and in the memory, also what the one in write-back has stored. -/
structure Agrees (program : List Instruction) (initial : Values) (p : Phase) (st : Storage) : Prop where
  registers : st.register = (initial.run (program.take p.retired)).registers
  words : st.word = (initial.run (program.take (p.next false).retired)).words

namespace Agrees

variable {program : List Instruction} {initial : Values} {p q : Phase} {st st' : Storage} {cycle : Int}

open Storage Values

/-- Write-back makes the registers catch up with the memory. -/
theorem retireSlot (h : Agrees program initial p st) (hfits : p.Fits program.length)
    (hok : st.retireSlot ((p.pipeline program.length).writeBack.bind (program[·]?)) cycle = .ok st') :
    ofStorage st' = initial.run (program.take (p.next false).retired) := by
  have htake := p.take_retired_append hfits
  cases hw : (p.pipeline program.length).writeBack.bind (program[·]?) with
  | none =>
    rw [hw] at hok htake
    rw [Option.toList_none, List.append_nil] at htake
    rw [← Except.ok.inj hok, ofStorage, h.registers, h.words, htake]
  | some i =>
    rw [hw] at hok htake
    have hrun : (initial.run (program.take p.retired)).execute i =
        initial.run (program.take (p.next false).retired) := by
      rw [← htake, run_append]
      rfl
    have hahead : ofStorage st =
        ⟨(initial.run (program.take p.retired)).registers,
          ((initial.run (program.take p.retired)).execute i).words⟩ := by
      rw [ofStorage, h.registers, h.words, hrun]
    rw [values_of_retire hok, hahead, registers_execute_after_access, hrun]

/-- The memory stage lets the memory go ahead of the registers. -/
theorem accessSlot (h : ofStorage st = initial.run (program.take q.retired)) (hfits : q.Fits program.length)
    (hok : st.accessSlot ((q.pipeline program.length).writeBack.bind (program[·]?)) cycle = .ok st') :
    Agrees program initial q st' := by
  have htake := q.take_retired_append hfits
  cases hw : (q.pipeline program.length).writeBack.bind (program[·]?) with
  | none =>
    rw [hw] at hok htake
    rw [Option.toList_none, List.append_nil] at htake
    rw [Except.ok.inj hok] at h
    refine ⟨?_, ?_⟩
    · rw [← h]
      rfl
    · rw [← htake, ← h]
      rfl
  | some i =>
    rw [hw] at hok htake
    have haccessed := values_of_access hok
    refine ⟨?_, ?_⟩
    · show (ofStorage st').registers = _
      rw [haccessed, h]
    · show (ofStorage st').words = _
      rw [haccessed, ← htake, run_append, h]
      rfl

theorem age (h : Agrees program initial p st) (cycle : Int) : Agrees program initial p (st.age cycle) := by
  have hvalues := values_of_age st cycle
  refine ⟨?_, ?_⟩
  · rw [← h.registers]
    exact congrArg Values.registers hvalues
  · rw [← h.words]
    exact congrArg Values.words hvalues

theorem load (s : State) (program : List Instruction) :
    Agrees program (ofStorage s.storage) {} (s.load program).storage :=
  ⟨rfl, rfl⟩

/-- A program that rests has nothing in the memory stage. -/
theorem settles {s t : State} (h : Agrees program initial p s.storage) (hfits : p.Fits program.length)
    (hb : p.bubble ≠ .memory) (hsettles : Settles program p s t) : Agrees program initial p.rested t.storage := by
  have hvalues := h.retireSlot hfits hsettles.storage
  have hrested : (p.rested.next false).retired = (p.next false).retired := by
    rw [← Phase.retired_rested hb]
    simp [Phase.next, Phase.retired, Phase.rested]
  refine ⟨?_, ?_⟩
  · rw [Phase.retired_rested hb, ← hvalues]
    rfl
  · rw [hrested, ← hvalues]
    rfl

/-- A cycle begins with write-back, and goes on with the memory stage. -/
theorem ticks {s t : State} {waits : Bool} (h : Agrees program initial p s.storage) (hfits : p.Fits program.length)
    (hticks : Ticks program p (p.next waits) s t) : Agrees program initial (p.next waits) t.storage := by
  obtain ⟨retired, accessed, hretired, haccessed, ht⟩ := hticks.storage
  have hvalues := h.retireSlot hfits hretired
  rw [← Phase.retired_next p waits] at hvalues
  rw [← Phase.writeBack_pipeline_next p waits] at haccessed
  rw [ht]
  exact (accessSlot hvalues hticks.inPhase.fits haccessed).age _

/-- A cycle keeps the storage in agreement with sequential execution. -/
theorem step {s t : State} (h : Agrees program initial p s.storage) (hs : s.InPhase program p)
    (hok : s.step = .ok t) : ∃ q, t.InPhase program q ∧ Agrees program initial q t.storage := by
  obtain ⟨hr, hsettles⟩ | ⟨-, hticks⟩ := hs.step hok
  · exact ⟨_, hsettles.inPhase, h.settles hs.fits (hs.fits.bubble_ne_memory hr) hsettles⟩
  · exact ⟨_, hticks.inPhase, h.ticks hs.fits hticks⟩

end Agrees

/-- What becomes of a loaded program agrees with sequential execution from the storage that it was loaded with. -/
theorem Proceeds.agrees {s t : State} {program : List Instruction} (h : (s.load program).Proceeds t) :
    ∃ p, t.InPhase program p ∧ Agrees program (Values.ofStorage s.storage) p t.storage := by
  induction h with
  | refl => exact ⟨_, InPhase.load s program, Agrees.load s program⟩
  | step _ hok ih =>
    obtain ⟨p, hp, hagrees⟩ := ih
    exact hagrees.step hp hok
  | applySettings settings _ ih =>
    obtain ⟨p, hp, hagrees⟩ := ih
    exact ⟨p, hp.applySettings settings, hagrees⟩

/-! ## What can be seen of a state -/

theorem filter_eq_take {α : Type} {xs : List α} {f : α → Bool} {k : Nat}
    (h : ∀ i x, xs[i]? = some x → (f x = true ↔ i < k)) : xs.filter f = xs.take k := by
  induction xs generalizing k with
  | nil => simp
  | cons x xs ih =>
    have hhead := h 0 x rfl
    cases k with
    | zero =>
      have htail : xs.filter f = xs.take 0 := ih fun i y hy => by simpa using h (i + 1) y hy
      rw [List.filter_cons_of_neg (by simpa using hhead), htail, List.take_zero, List.take_zero]
    | succ k =>
      have htail : xs.filter f = xs.take k := ih fun i y hy => by simpa using h (i + 1) y hy
      rw [List.filter_cons_of_pos (hhead.2 (Nat.zero_lt_succ k)), htail, List.take_succ_cons]

namespace InPhase

variable {program : List Instruction} {p : Phase} {s : State}

/-- The completed instructions are the first ones of the program. -/
theorem completedCodes_eq (h : s.InPhase program p) : s.completedCodes = program.take p.retired := by
  have hfinished : s.instructions.toList.filter (·.completed) = s.instructions.toList.take p.retired := by
    apply filter_eq_take
    intro i x hx
    exact h.stands.finished i x (by simpa using hx)
  rw [completedCodes, hfinished, List.map_take]
  exact congrArg (List.take p.retired) h.stands.codes

/-- With the one in write-back, they are the first ones of the program as well. -/
theorem completedCodes_append_retiringCode (h : s.InPhase program p) :
    s.completedCodes ++ s.retiringCode = program.take (p.next false).retired := by
  have hretiring : s.placed.writeBack.map (·.code) =
      (p.pipeline program.length).writeBack.bind (program[·]?) := by
    cases hw : (p.pipeline program.length).writeBack with
    | none =>
      have hempty : s.placed.writeBack = none := h.stands.placed_of_empty .writeBack hw
      rw [hempty]
      rfl
    | some i =>
      have hlt : i < program.length := (Phase.retired_next_of_full hw).2.2
      have hi : program[i]? = some program[i] := List.getElem?_eq_getElem hlt
      obtain ⟨fetched, hplaced⟩ := h.stands.placed_of_occupied .writeBack hw hi
      have hoccupied : s.placed.writeBack = some ⟨i, program[i], fetched⟩ := hplaced
      rw [hoccupied, Option.bind_some, hi]
      rfl
  rw [h.completedCodes_eq, retiringCode, hretiring, p.take_retired_append h.fits]

theorem completedCodes_of_isComplete (h : s.InPhase program p) (hc : s.isComplete = true) :
    s.completedCodes = program := by
  have hcount := (isComplete_iff.1 hc).1
  have hle : program.length ≤ p.retired := by
    have := h.stands.completed
    rw [hcount, h.stands.size_eq] at this
    omega
  rw [h.completedCodes_eq, List.take_of_length_le hle]

end InPhase

theorem retiringCode_of_isComplete {s : State} (hc : s.isComplete = true) : s.retiringCode = [] := by
  have hempty : s.pipeline.writeBack = none :=
    (Pipeline.isEmpty_iff _).1 (isComplete_iff.1 hc).2 .writeBack
  rw [retiringCode, placed, Pipeline.bind, hempty]
  rfl

namespace Proceeds

variable {program : List Instruction} {s t : State}

/-- The values follow from those before the program, from the completed instructions and from the one in write-back. -/
theorem values_eq (h : (s.load program).Proceeds t) :
    Values.ofStorage t.storage =
      ⟨((Values.ofStorage s.storage).run t.completedCodes).registers,
        ((Values.ofStorage s.storage).run (t.completedCodes ++ t.retiringCode)).words⟩ := by
  obtain ⟨p, hp, hagrees⟩ := h.agrees
  rw [hp.completedCodes_append_retiringCode, hp.completedCodes_eq]
  exact congrArg₂ Values.mk hagrees.registers hagrees.words

/-- A complete program has done what all of it does. -/
theorem values_of_isComplete (h : (s.load program).Proceeds t) (hc : t.isComplete = true) :
    Values.ofStorage t.storage = (Values.ofStorage s.storage).run program := by
  obtain ⟨p, hp⟩ := h.inPhase
  rw [h.values_eq, retiringCode_of_isComplete hc, List.append_nil, hp.completedCodes_of_isComplete hc]

end Proceeds

end State

open State

/-- **Pipelined execution refines sequential execution.** However the settings change between the cycles of a loaded
program, its registers are those after the completed instructions, and its memory is that after these and the one in
write-back, executed one at a time in the order of the program; and a complete program has done what all of it does. -/
theorem Engine.load_refines {e : Engine State} {text : String} {s : State} (h : (e.load text).state.Proceeds s) :
    s.completedCodes ++ s.retiringCode <+: (Program.parse text).instructions ∧
      s.completed = s.completedCodes.length ∧
      s.storage.register = ((Values.ofStorage e.state.storage).run s.completedCodes).registers ∧
      s.storage.word = ((Values.ofStorage e.state.storage).run (s.completedCodes ++ s.retiringCode)).words ∧
      (s.isComplete = true →
        Values.ofStorage s.storage = (Values.ofStorage e.state.storage).run (Program.parse text).instructions) := by
  obtain ⟨p, hp, hagrees⟩ := Proceeds.agrees h
  have hboth := hp.completedCodes_append_retiringCode
  have hregisters : s.storage.register = ((Values.ofStorage e.state.storage).run s.completedCodes).registers := by
    rw [hp.completedCodes_eq]
    exact hagrees.registers
  have hwords : s.storage.word =
      ((Values.ofStorage e.state.storage).run (s.completedCodes ++ s.retiringCode)).words := by
    rw [hboth]
    exact hagrees.words
  refine ⟨?_, ?_, hregisters, hwords, ?_⟩
  · rw [hboth]
    exact List.take_prefix ..
  · rw [hp.completedCodes_eq, hp.stands.completed, List.length_take]
  · intro hc
    rw [retiringCode_of_isComplete hc, List.append_nil] at hwords
    rw [← hp.completedCodes_of_isComplete hc]
    exact congrArg₂ Values.mk hregisters hwords

/-- A word that was stored is loaded by the next instruction, and its bits are combined with those of a negative number,
though the settings change while all of this is under way. -/
theorem Engine.load_refines_store_load :
    let storage := ((Storage.zero.setRegister 1 12).setRegister 2 memoryBase).setRegister 5 (-7)
    let text := "SW R1, 4(R2)\nLW R3, 4(R2)\nAND R4, R3, R5\nOR R6, R3, R5\nSUB R7, R4, R6"
    let e : Engine State := { source := .seeded 0, state := { storage } }
    ∃ s, (e.load text).state.Proceeds s ∧ s.isComplete = true ∧
      Values.ofStorage s.storage = (Values.ofStorage storage).run (Program.parse text).instructions ∧
      s.storage.register 3 = 12 ∧ s.storage.register 4 = 8 ∧ s.storage.register 6 = -3 ∧
      s.storage.register 7 = 11 := by
  intro storage text e
  have hok : ((e.load text).state.run 3).toOption.any (fun s =>
      ((s.applySettings { forwarding := false, prediction := true }).run 100).toOption.any fun t =>
        t.isComplete && decide (t.storage.register 3 = 12 ∧ t.storage.register 4 = 8 ∧ t.storage.register 6 = -3 ∧
          t.storage.register 7 = 11)) = true := by
    decide +kernel
  obtain ⟨s, hs, hrest⟩ := exists_of_any_toOption hok
  obtain ⟨t, ht, hresult⟩ := exists_of_any_toOption hrest
  rw [Bool.and_eq_true, decide_eq_true_eq] at hresult
  have hproceeds : (e.load text).state.Proceeds t := ((Proceeds.refl.run hs).applySettings _).run ht
  exact ⟨t, hproceeds, hresult.1, (Engine.load_refines hproceeds).2.2.2.2 hresult.1, hresult.2⟩

end FiveStage
