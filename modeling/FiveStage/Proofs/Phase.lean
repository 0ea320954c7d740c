import FiveStage.Pipeline

/-!
# Phases

How a program stands in the pipeline. Its instructions take the slots in order and without gaps, but for at most one
bubble, which an instruction that waits in execute leaves ahead of it. So two things tell what the slots hold: how many
instructions have been fetched, and where the bubble is. The count goes on behind the end of the program, as if
instructions were fetched that leave their slots empty; in this way one rule covers filling, flowing and draining.

Main statements:
* `reverse_occupants_pipeline`: from write-back to fetch, the slots hold the next places of the program in order;
* `Fits.next`: from phase to phase, the count does not pass the end, and no bubble is left without a follower.
-/

namespace FiveStage

/-- Where the bubble is that an instruction leaves ahead of it when it waits. -/
inductive Bubble
  | absent
  | memory
  | writeBack
  deriving DecidableEq, Repr

/-- How a program stands in the pipeline: how many instructions have been fetched, with those behind the end of the
program, and where the bubble is. -/
structure Phase where
  front : Nat := 0
  bubble : Bubble := .absent
  deriving DecidableEq, Repr

namespace Phase

/-- The place that is so many places behind the next one to be fetched, if a program of a length has it. -/
def behind (p : Phase) (length distance : Nat) : Option Nat :=
  if distance ≤ p.front ∧ p.front - distance < length then some (p.front - distance) else none

/-- What the slots hold of a program of a length. -/
def pipeline (p : Phase) (length : Nat) : Pipeline Nat where
  fetch := p.behind length 1
  decode := p.behind length 2
  execute := p.behind length 3
  memory := if p.bubble = .memory then none else p.behind length 4
  writeBack :=
    match p.bubble with
    | .absent => p.behind length 5
    | .memory => p.behind length 4
    | .writeBack => none

/-- How many instructions have left the pipeline, with those behind the end of the program. -/
def retired (p : Phase) : Nat :=
  match p.bubble with
  | .absent => p.front - 5
  | .memory | .writeBack => p.front - 4

/-- The phase after a cycle, which tells whether the instruction in execute has to wait for the one ahead of it. An
instruction that has waited goes on. -/
def next (p : Phase) (waits : Bool) : Phase :=
  match p.bubble, waits with
  | .memory, _ => ⟨p.front + 1, .writeBack⟩
  | _, true => ⟨p.front, .memory⟩
  | _, false => ⟨p.front + 1, .absent⟩

/-- The phase after everything has left the pipeline. -/
def rested (p : Phase) : Phase :=
  ⟨p.front, .writeBack⟩

/-- Nothing is left of a program of a length but, at most, the last instruction in write-back. -/
def Rests (p : Phase) (length : Nat) : Prop :=
  length + 4 ≤ p.front ∨ length = 0

/-- The phases that a program of a length goes through: the count stops when everything has been through the memory
stage, and a bubble in the memory stage has an instruction in execute behind it. -/
structure Fits (p : Phase) (length : Nat) : Prop where
  front_le : p.front ≤ length + 4
  held : p.bubble = .memory → 3 ≤ p.front ∧ p.front < length + 3

/-! ## Places -/

/-- At the beginning, the slots are empty. -/
theorem pipeline_fresh (n : Nat) : ({} : Phase).pipeline n = {} := rfl

theorem behind_eq_some_iff {p : Phase} {n d i : Nat} : p.behind n d = some i ↔ i + d = p.front ∧ i < n := by
  unfold behind
  split
  · rename_i h
    rw [Option.some.injEq]
    constructor
    · rintro rfl
      exact ⟨by omega, h.2⟩
    · intro hi
      omega
  · rename_i h
    refine ⟨nofun, fun hi => absurd ?_ h⟩
    exact ⟨by omega, by omega⟩

theorem behind_eq_none_iff {p : Phase} {n d : Nat} : p.behind n d = none ↔ p.front < d ∨ n + d ≤ p.front := by
  unfold behind
  split
  · rename_i h
    refine ⟨nofun, fun hi => ?_⟩
    omega
  · rename_i h
    refine ⟨fun _ => ?_, fun _ => rfl⟩
    omega

theorem lt_of_get_pipeline {p : Phase} {n i : Nat} {s : Stage} (h : (p.pipeline n).get s = some i) : i < n := by
  obtain ⟨front, bubble⟩ := p
  cases bubble <;> cases s <;> simp [pipeline, Pipeline.get, behind_eq_some_iff] at h <;> omega

/-- What is in a slot has not retired. -/
theorem retired_le_of_get_pipeline {p : Phase} {n i : Nat} {stage : Stage} (h : (p.pipeline n).get stage = some i) :
    p.retired ≤ i := by
  obtain ⟨front, bubble⟩ := p
  cases bubble <;> cases stage <;> simp [pipeline, Pipeline.get, behind_eq_some_iff] at h <;> simp only [retired] <;>
    omega

/-- What is in a slot was fetched. -/
theorem get_pipeline_ne_front (p : Phase) {n : Nat} (s : Stage) : (p.pipeline n).get s ≠ some p.front := by
  intro h
  obtain ⟨front, bubble⟩ := p
  cases bubble <;> cases s <;> simp [pipeline, Pipeline.get, behind_eq_some_iff] at h

/-! ## The order in the slots -/

/-- The places at most so many places behind the next one to be fetched, in the order of the program. -/
def window (p : Phase) (length : Nat) : Nat → List Nat
  | 0 => []
  | d + 1 => (p.behind length (d + 1)).toList ++ p.window length d

theorem window_eq_range' (p : Phase) (n d : Nat) :
    p.window n d = List.range' (min (p.front - d) n) (min p.front n - min (p.front - d) n) := by
  induction d with
  | zero => simp [window]
  | succ d ih =>
    rw [window, ih]
    cases h : p.behind n (d + 1) with
    | none =>
      have hout := behind_eq_none_iff.1 h
      have hmin : min (p.front - (d + 1)) n = min (p.front - d) n := by omega
      rw [hmin, Option.toList_none, List.nil_append]
    | some i =>
      obtain ⟨hi, hn⟩ := behind_eq_some_iff.1 h
      have hstart : min (p.front - (d + 1)) n = i := by omega
      have hnext : min (p.front - d) n = i + 1 := by omega
      have hcount : min p.front n - i = (min p.front n - (i + 1)) + 1 := by omega
      rw [hstart, hnext, hcount, List.range'_succ, Option.toList_some, List.singleton_append]

theorem reverse_occupants {α : Type} (p : Pipeline α) :
    p.occupants.reverse =
      p.writeBack.toList ++ (p.memory.toList ++ (p.execute.toList ++ (p.decode.toList ++ p.fetch.toList))) := by
  obtain ⟨f, d, x, m, w⟩ := p
  cases f <;> cases d <;> cases x <;> cases m <;> cases w <;> rfl

/-- The slots hold the places from the number of retired instructions up to the number of fetched ones. -/
theorem reverse_occupants_pipeline (p : Phase) (n : Nat) :
    (p.pipeline n).occupants.reverse = List.range' (min p.retired n) (min p.front n - min p.retired n) := by
  obtain ⟨front, bubble⟩ := p
  rw [reverse_occupants]
  cases bubble with
  | absent =>
    have h := window_eq_range' ⟨front, .absent⟩ n 5
    simpa [window, pipeline, retired] using h
  | memory =>
    have h := window_eq_range' ⟨front, .memory⟩ n 4
    simpa [window, pipeline, retired] using h
  | writeBack =>
    have h := window_eq_range' ⟨front, .writeBack⟩ n 4
    simpa [window, pipeline, retired] using h

theorem retired_le_front (p : Phase) : p.retired ≤ p.front := by
  obtain ⟨front, bubble⟩ := p
  cases bubble <;> simp only [retired] <;> omega

/-! ## From phase to phase -/

theorem Fits.rested {p : Phase} {n : Nat} (h : p.Fits n) : p.rested.Fits n :=
  ⟨h.front_le, nofun⟩

/-- In a program that rests, no instruction has just waited. -/
theorem Fits.bubble_ne_memory {p : Phase} {n : Nat} (h : p.Fits n) (hr : p.Rests n) : p.bubble ≠ .memory := by
  intro he
  have := h.held he
  unfold Rests at hr
  omega

/-- Once everything has retired, the count is at its end. -/
theorem Fits.front_of_length_le_retired {p : Phase} {n : Nat} (h : p.Fits n) (hn : 0 < n) (hr : n ≤ p.retired) :
    p.front = n + 4 := by
  obtain ⟨front, bubble⟩ := p
  obtain ⟨hle, hheld⟩ := h
  cases bubble <;> simp only [retired] at hr <;> simp at hle hheld <;> simp <;> omega

theorem next_of_memory {p : Phase} (h : p.bubble = .memory) (waits : Bool) :
    p.next waits = ⟨p.front + 1, .writeBack⟩ := by
  obtain ⟨front, bubble⟩ := p
  subst h
  rfl

theorem next_true_of_ne_memory {p : Phase} (h : p.bubble ≠ .memory) : p.next true = ⟨p.front, .memory⟩ := by
  obtain ⟨front, bubble⟩ := p
  cases bubble with
  | absent => rfl
  | memory => exact absurd rfl h
  | writeBack => rfl

theorem next_false_of_ne_memory {p : Phase} (h : p.bubble ≠ .memory) : p.next false = ⟨p.front + 1, .absent⟩ := by
  obtain ⟨front, bubble⟩ := p
  cases bubble with
  | absent => rfl
  | memory => exact absurd rfl h
  | writeBack => rfl

theorem Fits.next {p : Phase} {n : Nat} (h : p.Fits n) (hr : ¬p.Rests n) {waits : Bool}
    (hw : waits = true → 3 ≤ p.front ∧ p.front < n + 3) : (p.next waits).Fits n := by
  have hroom : p.front < n + 4 := by
    unfold Rests at hr
    omega
  by_cases hb : p.bubble = .memory
  · rw [next_of_memory hb]
    exact ⟨hroom, nofun⟩
  · cases waits with
    | true =>
      rw [next_true_of_ne_memory hb]
      exact ⟨h.front_le, fun _ => hw rfl⟩
    | false =>
      rw [next_false_of_ne_memory hb]
      exact ⟨hroom, nofun⟩

theorem front_next_false (p : Phase) : (p.next false).front = p.front + 1 := by
  obtain ⟨front, bubble⟩ := p
  cases bubble <;> rfl

/-- A cycle either fetches one more instruction or leaves a bubble in the memory stage. -/
theorem front_next_add (p : Phase) (waits : Bool) :
    (p.next waits).front + (if (p.next waits).bubble = .memory then 1 else 0) = p.front + 1 := by
  obtain ⟨front, bubble⟩ := p
  cases bubble <;> cases waits <;> rfl

/-- A cycle leaves a bubble in the memory stage exactly if an instruction waits in it. -/
theorem bubble_next_eq_memory_iff (p : Phase) (waits : Bool) :
    (p.next waits).bubble = .memory ↔ p.bubble ≠ .memory ∧ waits = true := by
  obtain ⟨front, bubble⟩ := p
  cases bubble <;> cases waits <;> simp [next]

/-- How many instructions have left the pipeline after a cycle does not depend on what happens in it. -/
theorem retired_next (p : Phase) (waits : Bool) : (p.next waits).retired = (p.next false).retired := by
  obtain ⟨front, bubble⟩ := p
  cases bubble <;> cases waits <;> simp [next, retired]

theorem retired_rested {p : Phase} (h : p.bubble ≠ .memory) : p.rested.retired = (p.next false).retired := by
  obtain ⟨front, bubble⟩ := p
  cases bubble with
  | absent => rfl
  | memory => exact absurd rfl h
  | writeBack => simp [next, rested, retired]

end Phase

end FiveStage
