import FiveStage.Proofs.Runs

/-!
# What an instruction waits for

An instruction that waits in execute has the one that it waits for in write-back: an operand that it reads is, as a
text, the destination of that one. So it waits for a new value of a register that both name, provided that a register is
written at all. If the destination is R0, or if it names no register, nothing will be written, and the instruction waits
in vain.

Main statements:
* `exists_pair_of_stalled`: what is in execute and in write-back when a cycle is logged as one that had to wait;
* `feeds_iff_of_writes`: when the destination of an instruction gives a new value to one that reads it;
* `Engine.load_stalled`: an instruction waits for a new value exactly if there will be one.
-/

namespace FiveStage

namespace Instruction

/-- An instruction reads a register other than R0 that another one writes. -/
def Feeds (producer consumer : Instruction) : Prop :=
  ∃ written ∈ producer.writes, ∃ read ∈ consumer.reads, ∃ r : Fin registerCount,
    0 < r.val ∧ registerOf written = .ok (some r) ∧ registerOf read = .ok (some r)

instance (producer consumer : Instruction) : Decidable (producer.Feeds consumer) :=
  inferInstanceAs (Decidable (∃ written ∈ producer.writes, ∃ read ∈ consumer.reads, ∃ r : Fin registerCount,
    0 < r.val ∧ registerOf written = .ok (some r) ∧ registerOf read = .ok (some r)))

variable {producer consumer : Instruction} {operand : String} {r : Fin registerCount}

/-- An instruction that names its destination has no other one. -/
theorem writes_eq_of_mem (h : operand ∈ producer.writes) : producer.writes = [operand] := by
  have hlength := producer.writes_length_le
  cases hwrites : producer.writes with
  | nil =>
    rw [hwrites] at h
    cases h
  | cons first rest =>
    rw [hwrites] at h hlength
    obtain rfl : rest = [] := List.length_eq_zero_iff.1 (by simpa using hlength)
    rw [List.mem_singleton.1 h]

/-- A register is written if the destination denotes one other than R0. -/
theorem destination_eq_some_iff (h : producer.writes = [operand]) :
    Storage.destination producer = .ok (some r) ↔ 0 < r.val ∧ registerOf operand = .ok (some r) := by
  rw [Storage.destination, h]
  dsimp only
  cases registerOf operand with
  | error cause => simp [Except.map]
  | ok r? => simp [Except.map, Option.filter_eq_some_iff, and_comm]

/-- Where the destination is read, as a text, it gives a new value exactly if a register is written. -/
theorem feeds_iff_of_writes (hread : operand ∈ consumer.reads) (hwritten : operand ∈ producer.writes) :
    producer.Feeds consumer ↔ ∃ r, Storage.destination producer = .ok (some r) := by
  have hwrites := writes_eq_of_mem hwritten
  simp only [destination_eq_some_iff hwrites]
  constructor
  · rintro ⟨written, hmem, read, -, r, hpos, hr, -⟩
    rw [hwrites] at hmem
    obtain rfl := List.mem_singleton.1 hmem
    exact ⟨r, hpos, hr⟩
  · rintro ⟨r, hpos, hr⟩
    exact ⟨operand, hwritten, operand, hread, r, hpos, hr, hr⟩

end Instruction

namespace State

namespace InPhase

variable {program : List Instruction} {p : Phase} {s t : State} {entry : LogEntry}

/-- When an instruction has to wait, it stays in execute, and the one in front of it has gone on to write-back. The
destination of that one is an operand that it reads. -/
theorem exists_pair_of_stalled (h : s.InPhase program p) (hok : s.step = .ok t) (hlog : t.log = s.log ++ [entry])
    (hstalled : entry.stalled = true) :
    ∃ consumer producer, t.placed.execute = some consumer ∧ t.placed.writeBack = some producer ∧
      ∃ operand ∈ consumer.code.reads, operand ∈ producer.code.writes := by
  obtain ⟨-, hsettles⟩ | ⟨-, hticks⟩ := h.step hok
  · -- The cycle that only retires an instruction is not logged.
    rw [hsettles.log] at hlog
    exact absurd (congrArg List.length hlog) (by simp)
  · obtain rfl : _ = entry := List.singleton_inj.1 (List.append_cancel_left (hticks.log.symm.trans hlog))
    obtain ⟨hbubble, hwaits⟩ := (Phase.bubble_next_eq_memory_iff p _).1 (of_decide_eq_true hstalled)
    have hlow := Program.pos_of_waits hwaits
    obtain ⟨j, hj⟩ : ∃ j, p.front - 3 = j + 1 := ⟨p.front - 4, by omega⟩
    have hstands := hticks.inPhase.stands
    rw [hwaits, Phase.next_true_of_ne_memory hbubble] at hstands
    rw [hj] at hwaits
    obtain ⟨producer, consumer, hproducer, hconsumer, hoperand, -⟩ := Program.waits_succ_iff.1 hwaits
    have hlt : j + 1 < program.length := (List.getElem?_eq_some_iff.1 hconsumer).1
    have hexecute : ((⟨p.front, .memory⟩ : Phase).pipeline program.length).get .execute = some (j + 1) :=
      Phase.behind_eq_some_iff.2 ⟨by dsimp only; omega, hlt⟩
    have hwriteBack : ((⟨p.front, .memory⟩ : Phase).pipeline program.length).get .writeBack = some j :=
      Phase.behind_eq_some_iff.2 ⟨by dsimp only; omega, by omega⟩
    obtain ⟨_, hx⟩ := hstands.placed_of_occupied .execute hexecute hconsumer
    obtain ⟨_, hw⟩ := hstands.placed_of_occupied .writeBack hwriteBack hproducer
    exact ⟨_, _, hx, hw, hoperand⟩

end InPhase

end State

namespace Engine

open State

/-- **Stalls.** Whatever the storage is that a program is loaded on, and whatever the settings are, let a cycle be
logged in which an instruction had to wait. This instruction is in execute, and it reads a register other than R0 that
the instruction in write-back is going to write, exactly if that instruction is going to write a register at all. -/
theorem load_stalled {e : Engine State} {text : String} {s t : State} {entry : LogEntry}
    (h : (e.load text).state.Proceeds s) (hok : s.step = .ok t) (hlog : t.log = s.log ++ [entry])
    (hstalled : entry.stalled = true) :
    ∃ consumer producer, t.placed.execute = some consumer ∧ t.placed.writeBack = some producer ∧
      (producer.code.Feeds consumer.code ↔ ∃ r, Storage.destination producer.code = .ok (some r)) := by
  obtain ⟨p, hp⟩ := Proceeds.inPhase h
  obtain ⟨consumer, producer, hx, hw, operand, hread, hwritten⟩ := hp.exists_pair_of_stalled hok hlog hstalled
  exact ⟨consumer, producer, hx, hw, Instruction.feeds_iff_of_writes hread hwritten⟩

/-- A sum waits for a word that is loaded. -/
theorem load_stalled_load_use :
    let e : Engine State := { source := .seeded 0, state := { storage := .zero } }
    let text := "LW R1, 0(R2)\nADD R3, R1, R4"
    ∃ s t entry consumer producer, (e.load text).state.Proceeds s ∧ s.step = .ok t ∧ t.log = s.log ++ [entry] ∧
      entry.stalled = true ∧ t.placed.execute = some consumer ∧ t.placed.writeBack = some producer ∧
        producer.code.Feeds consumer.code := by
  intro e text
  let entry : LogEntry :=
    { cycle := 5, pc := 0x400008, stalled := true
      stages := { execute := some "ADD R3, R1, R4", writeBack := some "LW R1, 0(R2)" } }
  have hrun : ((e.load text).state.run 4).toOption.any (fun s => s.step.toOption.any fun t =>
      decide (t.log = s.log ++ [entry]) &&
        t.placed.writeBack.any fun producer => decide (Storage.destination producer.code = .ok (some 1))) = true := by
    decide +kernel
  obtain ⟨s, hs, hrest⟩ := exists_of_any_toOption hrun
  obtain ⟨t, ht, hrest⟩ := exists_of_any_toOption hrest
  rw [Bool.and_eq_true, decide_eq_true_eq] at hrest
  obtain ⟨hlog, hdestination⟩ := hrest
  have hproceeds : (e.load text).state.Proceeds s := .run .refl hs
  obtain ⟨consumer, producer, hx, hw, hfeeds⟩ := load_stalled hproceeds ht hlog rfl
  rw [hw] at hdestination
  exact ⟨s, t, entry, consumer, producer, hproceeds, ht, hlog, rfl, hx, hw,
    hfeeds.2 ⟨1, of_decide_eq_true hdestination⟩⟩

/-- A sum waits for a word that is loaded into R0, and is then lost. -/
theorem load_stalled_zero :
    let e : Engine State := { source := .seeded 0, state := { storage := .zero } }
    let text := "LW R0, 0(R1)\nADD R3, R0, R4"
    ∃ s t entry consumer producer, (e.load text).state.Proceeds s ∧ s.step = .ok t ∧ t.log = s.log ++ [entry] ∧
      entry.stalled = true ∧ t.placed.execute = some consumer ∧ t.placed.writeBack = some producer ∧
        ¬producer.code.Feeds consumer.code := by
  intro e text
  let entry : LogEntry :=
    { cycle := 5, pc := 0x400008, stalled := true
      stages := { execute := some "ADD R3, R0, R4", writeBack := some "LW R0, 0(R1)" } }
  have hrun : ((e.load text).state.run 4).toOption.any (fun s => s.step.toOption.any fun t =>
      decide (t.log = s.log ++ [entry]) && t.placed.execute.any fun consumer =>
        t.placed.writeBack.any fun producer => decide ¬producer.code.Feeds consumer.code) = true := by
    decide +kernel
  obtain ⟨s, hs, hrest⟩ := exists_of_any_toOption hrun
  obtain ⟨t, ht, hrest⟩ := exists_of_any_toOption hrest
  rw [Bool.and_eq_true, decide_eq_true_eq] at hrest
  obtain ⟨hlog, hpair⟩ := hrest
  obtain ⟨consumer, hx, hpair⟩ := (Option.any_eq_true _ _).1 hpair
  obtain ⟨producer, hw, hfeeds⟩ := (Option.any_eq_true _ _).1 hpair
  exact ⟨s, t, entry, consumer, producer, .run .refl hs, ht, hlog, rfl, hx, hw, of_decide_eq_true hfeeds⟩

end Engine

end FiveStage
