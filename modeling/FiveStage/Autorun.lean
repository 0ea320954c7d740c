import FiveStage.Engine

/-!
# Running by itself

An engine that a timer drives: while it runs, one alarm is set, and each time the alarm goes off the engine does a cycle
and the alarm is set again. The run ends by itself when the program is complete. Whoever watches is told of every cycle
and of the end.

Main statements:
* `cancel_after`: an alarm that is set and cancelled leaves the alarms as they were;
* `start_of_running`: what runs is not started again.
-/

namespace FiveStage

/-! ## Alarms -/

/-- An alarm that is set: its number and its delay in milliseconds as it was asked for. -/
structure Alarm where
  id : Nat
  delay : Json
  deriving Repr

/-- The alarms that are set, the oldest first, how many were ever set, and all their delays. -/
structure Scheduler where
  issued : Nat := 0
  pending : List Alarm := []
  delays : List Json := []
  deriving Repr

namespace Scheduler

/-- The number of the next alarm. -/
def nextId (s : Scheduler) : Nat := s.issued + 1

/-- Sets an alarm. -/
def after (s : Scheduler) (delay : Json) : Scheduler :=
  { issued := s.nextId, pending := s.pending ++ [⟨s.nextId, delay⟩], delays := s.delays ++ [delay] }

/-- Cancels an alarm. -/
def cancel (s : Scheduler) (id : Nat) : Scheduler :=
  { s with pending := s.pending.filter (·.id ≠ id) }

/-- The oldest alarm goes off. -/
def pop? (s : Scheduler) : Option (Alarm × Scheduler) :=
  match s.pending with
  | [] => none
  | alarm :: rest => some (alarm, { s with pending := rest })

theorem cancel_after (s : Scheduler) (delay : Json) (h : ∀ a ∈ s.pending, a.id ≤ s.issued) :
    ((s.after delay).cancel s.nextId).pending = s.pending := by
  have hne : ∀ a ∈ s.pending, ¬a.id = s.nextId := by
    intro a ha he
    have := h a ha
    rw [he] at this
    exact Nat.not_succ_le_self _ this
  simpa [cancel, after, List.filter_append] using hne

end Scheduler

/-! ## Watching -/

/-- What a watcher makes of a cycle, which may fail, and of the end of a run if that is of interest. -/
structure Watcher (μ σ : Type) where
  onStep : μ → σ → Except Fault σ
  onFinish : Option (μ → σ → σ)

/-- Nobody watches. -/
def Watcher.nobody {μ σ : Type} : Watcher μ σ where
  onStep _ seen := .ok seen
  onFinish := none

/-- An engine under a timer: the alarms, the milliseconds between two cycles, the alarm that drives the engine, and
what the watcher has made of it. -/
structure Autorun (μ σ : Type) where
  engine : Engine μ
  scheduler : Scheduler := {}
  interval : Json := .int 600
  alarm : Option Nat := none
  seen : σ

namespace Autorun

variable {μ σ : Type}

/-- The outcome of something that may be interrupted. -/
abbrev Outcome (μ σ : Type) := Except (Interrupted Fault (Autorun μ σ)) (Autorun μ σ)

/-- The engine runs by itself. -/
def isRunning (a : Autorun μ σ) : Bool :=
  a.alarm.isSome

/-- Sets the alarm. -/
def schedule (a : Autorun μ σ) : Autorun μ σ :=
  { a with scheduler := a.scheduler.after a.interval, alarm := some a.scheduler.nextId }

/-- Cancels the alarm. -/
def cancel (a : Autorun μ σ) : Autorun μ σ :=
  match a.alarm with
  | none => a
  | some id => { a with scheduler := a.scheduler.cancel id, alarm := none }

variable [Machine μ]

/-- Lets the engine run by itself. -/
def start (a : Autorun μ σ) : Autorun μ σ :=
  if a.isRunning then a else { a with engine := a.engine.mark true false }.schedule

/-- Ends the run. -/
def stop (a : Autorun μ σ) : Autorun μ σ :=
  { a.cancel with engine := a.engine.mark false false }

/-- Interrupts the run. -/
def pause (a : Autorun μ σ) : Autorun μ σ :=
  { a.cancel with engine := a.engine.mark false true }

/-- Changes the time between two cycles; a running engine waits for the new time from now on. -/
def setInterval (a : Autorun μ σ) (interval : Json) : Autorun μ σ :=
  let a := { a with interval }
  if a.isRunning then a.cancel.schedule else a

/-- One cycle, unless the program is complete, which can be unknown. -/
def stepOnce (w : Watcher μ σ) (a : Autorun μ σ) : Outcome μ σ :=
  match Machine.isComplete a.engine.state with
  | .error fault => .error ⟨fault, a⟩
  | .ok true => .ok a
  | .ok false =>
    match a.engine.step with
    | .error ⟨fault, engine⟩ => .error ⟨fault, { a with engine }⟩
    | .ok engine =>
      match w.onStep engine.state a.seen with
      | .error fault => .error ⟨fault, { a with engine }⟩
      | .ok seen => .ok { a with engine, seen }

/-- The line that reports the end of a run, if the clock is a number. -/
def finishLine (clock : Json) : Except Misuse LogLine :=
  match Number.ofJson? clock with
  | none => .error (.notReal clock.kindName)
  | some n => n.whole.map fun cycle => ⟨.info, "runner", "Run finished at cycle " ++ String.ofList (Decimal.text cycle)⟩

/-- The watcher is told of the end of a run, if the state can be handed out. -/
def tellEnd (w : Watcher μ σ) (a : Autorun μ σ) : Outcome μ σ :=
  match w.onFinish, a.engine.handOut with
  | none, _ => .ok a
  | some finish, .ok engine => .ok { a with seen := finish engine.state a.seen }
  | some _, .error e => .error ⟨e.fault, a⟩

/-- The run of a complete program ends. -/
def finish (w : Watcher μ σ) (a : Autorun μ σ) : Outcome μ σ :=
  match finishLine (Machine.clock a.engine.state) with
  | .error misuse => .error ⟨.misuse misuse, a⟩
  | .ok line => { a with engine := a.engine.report line }.stop.tellEnd w

/-- What happens when the alarm goes off. -/
def tick (w : Watcher μ σ) (a : Autorun μ σ) : Outcome μ σ :=
  let a := { a with alarm := none }
  match Machine.isComplete a.engine.state with
  | .error fault => .error ⟨fault, a⟩
  | .ok true => a.finish w
  | .ok false =>
    match a.stepOnce w with
    | .error e => .error e
    | .ok a => .ok a.schedule

/-- The oldest alarm goes off, if one is set. -/
def fire (w : Watcher μ σ) (a : Autorun μ σ) : Outcome μ σ :=
  match a.scheduler.pop? with
  | none => .ok a
  | some (_, scheduler) => { a with scheduler }.tick w

theorem start_of_running {a : Autorun μ σ} (h : a.isRunning = true) : a.start = a := by
  simp [start, h]

end Autorun

end FiveStage
