import FiveStage.Autorun
import FiveStage.Proofs.Calls

/-!
# The timer

What a user and a timer do with an engine that runs by itself, in any order. An alarm is set exactly while the engine is
marked as running, and it is the one that is remembered. Whoever ends the run cancels it, and whoever sets one either
finds none or cancels it before. So there are never two, and none is left behind when the run ends.

Main statements:
* `stepOnce_eq_ok`, `tick_eq_ok`: what becomes of an engine by a cycle, and by an alarm;
* `fire_of_pending`: the oldest alarm is the only one, so it makes no difference which one goes off;
* `Armed.perform`: whatever is done, the alarm that is remembered is the one that is set;
* `Timed.perform`, `Timed.performAll`: whatever is done, the alarms, the marks and the interval fit each other;
* `performAll_alarm`: when an alarm is set, which one, and for how long.
-/

namespace FiveStage

namespace State

/-- A state has the marks of another one: it runs by itself or pauses as that does. -/
def MarkedAs (t s : State) : Prop :=
  t.running = s.running ∧ t.paused = s.paused

theorem marks_of_step {s t : State} (h : s.step = .ok t) : t.MarkedAs s := by
  obtain ⟨retired, hretired, ⟨-, rfl⟩ | ⟨-, accessed, haccessed, rfl⟩⟩ := step_cases h
  · obtain ⟨_, _, _, _, hframe, -⟩ := writeBack_frame hretired
    rw [hframe]
    exact ⟨rfl, rfl⟩
  · obtain ⟨_, _, _, _, hframe, -⟩ := accessed_frame hretired haccessed
    obtain ⟨_, _, _, hfront⟩ := accessed.advanceFront_frame
    rw [hfront, hframe]
    exact ⟨rfl, rfl⟩

theorem marks_of_run {s t : State} {limit : Int} (h : s.run limit = .ok t) : t.MarkedAs s := by
  refine run_induction (P := fun t => t.MarkedAs s) ?_ ⟨rfl, rfl⟩ h
  intro t next ht hstep
  have hnext := marks_of_step hstep
  exact ⟨hnext.1.trans ht.1, hnext.2.trans ht.2⟩

end State

/-- No call but for a new storage changes how an engine is marked. -/
theorem Engine.marks_of_perform {e e' : Engine State} {call : Engine.Call} (hcall : call ≠ .reset)
    (h : e.perform call = .ok e') : e'.state.MarkedAs e.state := by
  cases call with
  | load text =>
    rw [← Except.ok.inj h]
    exact ⟨rfl, rfl⟩
  | step => exact State.marks_of_step (Engine.state_of_step h)
  | run limit => exact State.marks_of_run (Engine.state_of_run h)
  | applySettings settings =>
    rw [← Except.ok.inj h]
    exact ⟨rfl, rfl⟩
  | reset => exact absurd rfl hcall

/-- What a watcher makes of the end of a run. -/
def Watcher.atEnd {μ σ : Type} (w : Watcher μ σ) (s : μ) (seen : σ) : σ :=
  match w.onFinish with
  | none => seen
  | some finish => finish s seen

namespace Autorun

variable {σ : Type}

/-! ## What is done -/

/-- Something that is done with an engine that runs by itself: by its user, by its timer, or with the engine alone. -/
inductive Command
  | start
  | stop
  | pause
  | setInterval (interval : Json)
  | stepOnce
  /-- The alarm of a number goes off. -/
  | goOff (id : Nat)
  /-- A call of the engine, which may be any but for a new storage. -/
  | call (call : Engine.Call) (keeps : call ≠ .reset)

/-- The alarm of a number goes off, if it is set. -/
def goOff (w : Watcher State σ) (a : Autorun State σ) (id : Nat) : Outcome State σ :=
  if id ∈ a.scheduler.pending.map (·.id) then { a with scheduler := a.scheduler.cancel id }.tick w else .ok a

/-- The engine is called. -/
def call (a : Autorun State σ) (call : Engine.Call) : Outcome State σ :=
  match a.engine.perform call with
  | .ok engine => .ok { a with engine }
  | .error ⟨fault, engine⟩ => .error ⟨fault, { a with engine }⟩

/-- What becomes of it by one command. -/
def perform (w : Watcher State σ) (a : Autorun State σ) : Command → Outcome State σ
  | .start => .ok a.start
  | .stop => .ok a.stop
  | .pause => .ok a.pause
  | .setInterval interval => .ok (a.setInterval interval)
  | .stepOnce => a.stepOnce w
  | .goOff id => a.goOff w id
  | .call call _ => a.call call

/-- What becomes of it by a list of commands, the first of which that is cut short ends the list. -/
def performAll (w : Watcher State σ) : List Command → Autorun State σ → Outcome State σ
  | [], a => .ok a
  | c :: commands, a =>
    match a.perform w c with
    | .ok next => performAll w commands next
    | .error e => .error e

variable {w : Watcher State σ} {a b : Autorun State σ} {c : Command} {commands : List Command}

theorem performAll_cons_eq_ok (h : performAll w (c :: commands) a = .ok b) :
    ∃ next, a.perform w c = .ok next ∧ performAll w commands next = .ok b := by
  rw [performAll] at h
  split at h
  · rename_i next hnext
    exact ⟨next, hnext, h⟩
  · cases h

/-- What every command of a kind keeps, a list of commands of that kind keeps. -/
theorem performAll_induction {P : Autorun State σ → Prop} {kind : Command → Prop}
    (hperform : ∀ a c b, P a → kind c → a.perform w c = .ok b → P b) (hkind : ∀ c ∈ commands, kind c) (ha : P a)
    (h : performAll w commands a = .ok b) : P b := by
  induction commands generalizing a with
  | nil => rwa [← Except.ok.inj h]
  | cons c commands ih =>
    obtain ⟨next, hnext, hrest⟩ := performAll_cons_eq_ok h
    obtain ⟨hc, hcommands⟩ := List.forall_mem_cons.1 hkind
    exact ih hcommands (hperform a c next ha hc hnext) hrest

/-! ## What comes of it -/

theorem call_eq_ok {call : Engine.Call} (h : a.call call = .ok b) :
    ∃ engine, a.engine.perform call = .ok engine ∧ b = { a with engine } := by
  unfold Autorun.call at h
  split at h
  · rename_i engine hcall
    exact ⟨engine, hcall, (Except.ok.inj h).symm⟩
  · cases h

/-- By a single step, a cycle is done and watched unless the program is complete. -/
theorem stepOnce_eq_ok (h : a.stepOnce w = .ok b) :
    a.engine.state.isComplete = true ∧ b = a ∨
      a.engine.state.isComplete = false ∧ ∃ engine seen, a.engine.step = .ok engine ∧
        w.onStep engine.state a.seen = .ok seen ∧ b = { a with engine, seen } := by
  unfold stepOnce at h
  split at h
  · cases h
  · rename_i hcomplete
    exact .inl ⟨Except.ok.inj hcomplete, (Except.ok.inj h).symm⟩
  · rename_i hcomplete
    split at h
    · cases h
    · rename_i engine hstep
      split at h
      · cases h
      · rename_i seen hseen
        exact .inr ⟨Except.ok.inj hcomplete, engine, seen, hstep, hseen, (Except.ok.inj h).symm⟩

/-- The end of a run is watched as well, if it is of interest. -/
theorem tellEnd_eq_ok (h : a.tellEnd w = .ok b) : b = { a with seen := w.atEnd a.engine.state a.seen } := by
  unfold tellEnd at h
  unfold Watcher.atEnd
  split at h
  · rename_i hnone
    rw [hnone]
    exact (Except.ok.inj h).symm
  · rename_i finish engine hsome hout
    have hengine : engine = a.engine := (Except.ok.inj hout).symm
    rw [hsome, ← Except.ok.inj h, hengine]
  · cases h

/-- By an alarm, the run of a complete program ends; otherwise a cycle is done and the alarm is set again. -/
theorem tick_eq_ok (h : a.tick w = .ok b) :
    (a.engine.state.isComplete = true ∧ ∃ line, b =
      { { a with engine := a.engine.report line, alarm := none }.stop with
        seen := w.atEnd (a.engine.state.mark false false) a.seen }) ∨
      a.engine.state.isComplete = false ∧ ∃ engine seen, a.engine.step = .ok engine ∧
        w.onStep engine.state a.seen = .ok seen ∧ b = { a with engine, alarm := none, seen }.schedule := by
  unfold tick at h
  dsimp only at h
  split at h
  · cases h
  · rename_i hcomplete
    unfold finish at h
    split at h
    · cases h
    · exact .inl ⟨Except.ok.inj hcomplete, _, tellEnd_eq_ok h⟩
  · rename_i hcomplete
    split at h
    · cases h
    · rename_i next hnext
      -- The single step asks once more whether the program is complete.
      obtain ⟨hcomplete', -⟩ | ⟨hgoing, engine, seen, hstep, hseen, rfl⟩ := stepOnce_eq_ok hnext
      · rw [Except.ok.inj hcomplete] at hcomplete'
        cases hcomplete'
      · exact .inr ⟨hgoing, engine, seen, hstep, hseen, (Except.ok.inj h).symm⟩

/-- If one alarm is set, it is the oldest. -/
theorem fire_of_pending {alarm : Alarm} (h : a.scheduler.pending = [alarm]) : a.fire w = a.goOff w alarm.id := by
  have hpop : a.scheduler.pop? = some (alarm, a.scheduler.cancel alarm.id) := by
    simp [Scheduler.pop?, Scheduler.cancel, h]
  rw [fire, hpop, goOff, if_pos (by simp [h])]

/-! ## Cancelling -/

theorem alarm_cancel (a : Autorun State σ) : a.cancel.alarm = none := by
  unfold cancel
  split
  · assumption
  · rfl

theorem engine_cancel (a : Autorun State σ) : a.cancel.engine = a.engine := by
  unfold cancel
  split <;> rfl

theorem interval_cancel (a : Autorun State σ) : a.cancel.interval = a.interval := by
  unfold cancel
  split <;> rfl

theorem seen_cancel (a : Autorun State σ) : a.cancel.seen = a.seen := by
  unfold cancel
  split <;> rfl

theorem alarm_eq_none (h : ¬a.isRunning = true) : a.alarm = none := by
  simpa [isRunning] using h

theorem engine_setInterval (a : Autorun State σ) (interval : Json) : (a.setInterval interval).engine = a.engine := by
  unfold setInterval
  dsimp only
  split
  · exact engine_cancel _
  · rfl

theorem seen_setInterval (a : Autorun State σ) (interval : Json) : (a.setInterval interval).seen = a.seen := by
  unfold setInterval
  dsimp only
  split
  · exact seen_cancel _
  · rfl

/-- A new interval neither begins nor ends a run. -/
theorem isRunning_setInterval (a : Autorun State σ) (interval : Json) :
    (a.setInterval interval).isRunning = a.isRunning := by
  unfold setInterval
  dsimp only
  split
  · rename_i hrunning
    exact hrunning.symm
  · rfl

/-- It makes no difference to the alarms how long the next one will be. -/
theorem scheduler_cancel_of_interval (a : Autorun State σ) (interval : Json) :
    ({ a with interval } : Autorun State σ).cancel.scheduler = a.cancel.scheduler := by
  unfold cancel
  cases a.alarm <;> rfl

/-! ## The alarm -/

/-- The alarm that is remembered is the one that is set, for the interval. -/
def Armed (a : Autorun State σ) : Prop :=
  a.scheduler.pending = (a.alarm.map fun id => ⟨id, a.interval⟩).toList

namespace Armed

/-- An alarm is set where there was none. -/
theorem schedule (hpending : a.scheduler.pending = []) : a.schedule.Armed := by
  show a.scheduler.pending ++ _ = _
  rw [hpending]
  rfl

theorem idle (hpending : a.scheduler.pending = []) (halarm : a.alarm = none) : a.Armed := by
  rw [Armed, hpending, halarm]
  rfl

/-- Without an alarm to be remembered, none is set. -/
theorem pending_eq_nil (h : a.Armed) (hnone : a.alarm = none) : a.scheduler.pending = [] := by
  rw [h, hnone]
  rfl

theorem pending_of_alarm (h : a.Armed) {id : Nat} (hsome : a.alarm = some id) :
    a.scheduler.pending = [⟨id, a.interval⟩] := by
  rw [h, hsome]
  rfl

/-- An alarm that is set is the only one, and it is remembered. -/
theorem of_mem_pending (h : a.Armed) {alarm : Alarm} (hmem : alarm ∈ a.scheduler.pending) :
    a.alarm = some alarm.id ∧ alarm.delay = a.interval := by
  cases halarm : a.alarm with
  | none =>
    rw [h.pending_eq_nil halarm] at hmem
    cases hmem
  | some id =>
    rw [h.pending_of_alarm halarm] at hmem
    obtain rfl := List.mem_singleton.1 hmem
    exact ⟨rfl, rfl⟩

/-- Once it goes off, none is set. -/
theorem pending_cancel_of_alarm (h : a.Armed) {id : Nat} (hsome : a.alarm = some id) :
    (a.scheduler.cancel id).pending = [] := by
  simp [Scheduler.cancel, h.pending_of_alarm hsome]

/-- What is remembered is all that has to be cancelled. -/
theorem pending_cancel (h : a.Armed) : a.cancel.scheduler.pending = [] := by
  unfold cancel
  split
  · rename_i hnone
    exact h.pending_eq_nil hnone
  · rename_i id hsome
    exact h.pending_cancel_of_alarm hsome

theorem start (h : a.Armed) : a.start.Armed := by
  unfold Autorun.start
  split
  · exact h
  · rename_i hidle
    exact schedule (h.pending_eq_nil (alarm_eq_none hidle))

/-- Whoever ends a run leaves no alarm. -/
theorem mark_cancel (h : a.Armed) (paused : Bool) : Armed { a.cancel with engine := a.engine.mark false paused } :=
  idle h.pending_cancel (alarm_cancel a)

theorem setInterval (h : a.Armed) (interval : Json) : (a.setInterval interval).Armed := by
  unfold Autorun.setInterval
  dsimp only
  split
  · -- The alarm for the old interval is cancelled before the one for the new interval is set.
    apply schedule
    rw [scheduler_cancel_of_interval]
    exact h.pending_cancel
  · rename_i hidle
    have hnone : a.alarm = none := alarm_eq_none hidle
    exact idle (h.pending_eq_nil hnone) hnone

theorem stepOnce (h : a.Armed) (hok : a.stepOnce w = .ok b) : b.Armed := by
  obtain ⟨-, rfl⟩ | ⟨-, _, _, -, -, rfl⟩ := stepOnce_eq_ok hok
  · exact h
  · exact h

/-- The alarm that goes off is the one that is remembered. -/
theorem alarm_of_mem (h : a.Armed) {id : Nat} (hmem : id ∈ a.scheduler.pending.map (·.id)) : a.alarm = some id := by
  obtain ⟨alarm, halarm, rfl⟩ := List.mem_map.1 hmem
  exact (h.of_mem_pending halarm).1

/-- After an alarm, none is set, or one is set when there is none. -/
theorem tick (hpending : a.scheduler.pending = []) (hok : a.tick w = .ok b) : b.Armed := by
  obtain ⟨-, line, rfl⟩ | ⟨-, engine, seen, -, -, rfl⟩ := tick_eq_ok hok
  · exact idle hpending rfl
  · exact schedule hpending

theorem goOff (h : a.Armed) {id : Nat} (hok : a.goOff w id = .ok b) : b.Armed := by
  unfold Autorun.goOff at hok
  split at hok
  · rename_i hmem
    exact tick (h.pending_cancel_of_alarm (h.alarm_of_mem hmem)) hok
  · rwa [← Except.ok.inj hok]

/-- Whatever is done, the alarm that is remembered is the one that is set. -/
theorem perform (h : a.Armed) (hok : a.perform w c = .ok b) : b.Armed := by
  cases c with
  | start =>
    rw [← Except.ok.inj hok]
    exact h.start
  | stop =>
    rw [← Except.ok.inj hok]
    exact h.mark_cancel false
  | pause =>
    rw [← Except.ok.inj hok]
    exact h.mark_cancel true
  | setInterval interval =>
    rw [← Except.ok.inj hok]
    exact h.setInterval interval
  | stepOnce => exact h.stepOnce hok
  | goOff id => exact h.goOff hok
  | call call keeps =>
    obtain ⟨engine, -, rfl⟩ := call_eq_ok hok
    exact h

end Armed

/-! ## The alarm and the marks -/

/-- The alarms, the interval and the marks of the state fit each other. -/
structure Timed (a : Autorun State σ) : Prop where
  /-- The alarm that is remembered is the one that is set, for the interval. -/
  pending : a.scheduler.pending = (a.alarm.map fun id => ⟨id, a.interval⟩).toList
  running : a.engine.state.running = a.isRunning
  apart : a.engine.state.running = true → a.engine.state.paused = false

namespace Timed

theorem fresh (source : Storage.Source) (storage : Storage) (interval : Json) (seen : σ) :
    Timed { engine := { source, state := { storage } }, interval, seen } :=
  ⟨rfl, rfl, nofun⟩

theorem armed (h : a.Timed) : a.Armed := h.pending

/-- An alarm is set where there was none. -/
theorem schedule (hpending : a.scheduler.pending = []) (hrunning : a.engine.state.running = true)
    (hpaused : a.engine.state.paused = false) : a.schedule.Timed where
  pending := Armed.schedule hpending
  running := hrunning
  apart _ := hpaused

/-- No alarm is set, and the engine does not run. -/
theorem idle (hpending : a.scheduler.pending = []) (halarm : a.alarm = none)
    (hrunning : a.engine.state.running = false) : a.Timed where
  pending := Armed.idle hpending halarm
  running := by rw [hrunning, isRunning, halarm]; rfl
  apart h := by rw [hrunning] at h; cases h

theorem pending_eq_nil (h : a.Timed) (hnone : a.alarm = none) : a.scheduler.pending = [] :=
  h.armed.pending_eq_nil hnone

theorem of_mem_pending (h : a.Timed) {alarm : Alarm} (hmem : alarm ∈ a.scheduler.pending) :
    a.alarm = some alarm.id ∧ alarm.delay = a.interval :=
  h.armed.of_mem_pending hmem

theorem running_of_alarm (h : a.Timed) {id : Nat} (hsome : a.alarm = some id) : a.engine.state.running = true := by
  rw [h.running, isRunning, hsome]
  rfl

/-- The engine may change as long as its marks do not. -/
theorem of_marks (h : a.Timed) {engine : Engine State} (hmarks : engine.state.MarkedAs a.engine.state) (seen : σ) :
    Timed { a with engine, seen } where
  pending := h.pending
  running := hmarks.1.trans h.running
  apart hrunning := by
    rw [hmarks.1] at hrunning
    exact hmarks.2.trans (h.apart hrunning)

/-! ## Each command -/

theorem start (h : a.Timed) : a.start.Timed := by
  unfold Autorun.start
  split
  · exact h
  · rename_i hidle
    exact schedule (h.pending_eq_nil (alarm_eq_none hidle)) rfl rfl

theorem mark_cancel (h : a.Timed) (paused : Bool) :
    Timed { a.cancel with engine := a.engine.mark false paused } :=
  idle h.armed.pending_cancel (alarm_cancel a) rfl

theorem setInterval (h : a.Timed) (interval : Json) : (a.setInterval interval).Timed where
  pending := h.armed.setInterval interval
  running := by
    rw [engine_setInterval, isRunning_setInterval]
    exact h.running
  apart := by
    rw [engine_setInterval]
    exact h.apart

theorem stepOnce (h : a.Timed) (hok : a.stepOnce w = .ok b) : b.Timed := by
  obtain ⟨-, rfl⟩ | ⟨-, engine, seen, hstep, -, rfl⟩ := stepOnce_eq_ok hok
  · exact h
  · exact h.of_marks (State.marks_of_step (Engine.state_of_step hstep)) seen

/-- An alarm that goes off ends the run, or is set again when it is no longer set. -/
theorem goOff (h : a.Timed) {id : Nat} (hok : a.goOff w id = .ok b) : b.Timed := by
  unfold Autorun.goOff at hok
  split at hok
  · rename_i hmem
    have hsome := h.armed.alarm_of_mem hmem
    have hpending := h.armed.pending_cancel_of_alarm hsome
    have hrunning := h.running_of_alarm hsome
    obtain ⟨-, line, rfl⟩ | ⟨-, engine, seen, hstep, -, rfl⟩ := tick_eq_ok hok
    · exact idle hpending rfl rfl
    · obtain ⟨hrunning', hpaused'⟩ := State.marks_of_step (Engine.state_of_step hstep)
      exact schedule hpending (hrunning'.trans hrunning) (hpaused'.trans (h.apart hrunning))
  · rwa [← Except.ok.inj hok]

theorem call (h : a.Timed) {call : Engine.Call} (hcall : call ≠ .reset) (hok : a.call call = .ok b) : b.Timed := by
  obtain ⟨engine, hengine, rfl⟩ := call_eq_ok hok
  exact h.of_marks (Engine.marks_of_perform hcall hengine) a.seen

/-- Whatever is done, the alarms, the interval and the marks fit each other. -/
theorem perform (h : a.Timed) (hok : a.perform w c = .ok b) : b.Timed := by
  cases c with
  | start =>
    rw [← Except.ok.inj hok]
    exact h.start
  | stop =>
    rw [← Except.ok.inj hok]
    exact h.mark_cancel false
  | pause =>
    rw [← Except.ok.inj hok]
    exact h.mark_cancel true
  | setInterval interval =>
    rw [← Except.ok.inj hok]
    exact h.setInterval interval
  | stepOnce => exact h.stepOnce hok
  | goOff id => exact h.goOff hok
  | call call keeps => exact h.call keeps hok

theorem performAll (h : a.Timed) (hok : performAll w commands a = .ok b) : b.Timed :=
  performAll_induction (fun _ _ _ ha (_ : True) hb => ha.perform hb) (fun _ _ => trivial) h hok

/-! ## After the end of a run -/

/-- While no alarm is set, none goes off. -/
theorem goOff_of_idle (h : a.Timed) (hnone : a.alarm = none) (id : Nat) : a.goOff w id = .ok a := by
  rw [Autorun.goOff, h.pending_eq_nil hnone]
  rfl

/-- Nothing but a start sets an alarm when none is set. -/
theorem alarm_perform (h : a.Timed) (hnone : a.alarm = none) (hc : c ≠ .start) (hok : a.perform w c = .ok b) :
    b.alarm = none := by
  cases c with
  | start => exact absurd rfl hc
  | stop =>
    rw [← Except.ok.inj hok]
    exact alarm_cancel a
  | pause =>
    rw [← Except.ok.inj hok]
    exact alarm_cancel a
  | setInterval interval =>
    have hidle : isRunning { a with interval } = false := by
      rw [isRunning, hnone]
      rfl
    rw [← Except.ok.inj hok, Autorun.setInterval, hidle]
    exact hnone
  | stepOnce =>
    obtain ⟨-, rfl⟩ | ⟨-, _, _, -, -, rfl⟩ := stepOnce_eq_ok hok
    · exact hnone
    · exact hnone
  | goOff id =>
    have hsame := h.goOff_of_idle hnone (w := w) id
    rw [Autorun.perform, hsame] at hok
    rw [← Except.ok.inj hok]
    exact hnone
  | call call keeps =>
    obtain ⟨_, -, rfl⟩ := call_eq_ok hok
    exact hnone

/-- Until the next start, no alarm is set. -/
theorem alarm_performAll (h : a.Timed) (hnone : a.alarm = none) (hcommands : ∀ c ∈ commands, c ≠ .start)
    (hok : Autorun.performAll w commands a = .ok b) : b.Timed ∧ b.alarm = none := by
  refine performAll_induction (P := fun b => b.Timed ∧ b.alarm = none) ?_ hcommands ⟨h, hnone⟩ hok
  rintro a c b ⟨ha, hidle⟩ hc hb
  exact ⟨ha.perform hb, ha.alarm_perform hidle hc hb⟩

end Timed

/-! ## The interval -/

theorem interval_setInterval (a : Autorun State σ) (interval : Json) : (a.setInterval interval).interval = interval := by
  unfold setInterval
  dsimp only
  split
  · exact interval_cancel _
  · rfl

/-- Nothing but setting it changes the interval. -/
theorem interval_perform (hc : ∀ interval, c ≠ .setInterval interval) (hok : a.perform w c = .ok b) :
    b.interval = a.interval := by
  cases c with
  | start =>
    rw [← Except.ok.inj hok, start]
    split <;> rfl
  | stop =>
    rw [← Except.ok.inj hok]
    exact interval_cancel a
  | pause =>
    rw [← Except.ok.inj hok]
    exact interval_cancel a
  | setInterval interval => exact absurd rfl (hc interval)
  | stepOnce =>
    obtain ⟨-, rfl⟩ | ⟨-, _, _, -, -, rfl⟩ := stepOnce_eq_ok hok
    · rfl
    · rfl
  | goOff id =>
    have hgoOff : a.goOff w id = .ok b := hok
    unfold goOff at hgoOff
    split at hgoOff
    · obtain ⟨-, _, rfl⟩ | ⟨-, _, _, -, -, rfl⟩ := tick_eq_ok hgoOff
      · rfl
      · rfl
    · rw [← Except.ok.inj hgoOff]
  | call call keeps =>
    obtain ⟨_, -, rfl⟩ := call_eq_ok hok
    rfl

/-! ## Whatever is done -/

/-- **The timer.** Whatever is done with a new engine, at most one alarm is set, which is the case exactly while it runs
by itself; it is the one that is remembered, and the marks of the state tell the same. After a stop or a pause, no alarm
goes off until the next start. An alarm is set for the interval that was asked for last. -/
theorem performAll_alarm {source : Storage.Source} {storage : Storage} {interval : Json} {seen : σ}
    (h : performAll w commands { engine := { source, state := { storage } }, interval, seen } = .ok a) :
    a.scheduler.pending.length ≤ 1 ∧
      (a.isRunning = true ↔ a.scheduler.pending.length = 1) ∧
      (∀ alarm ∈ a.scheduler.pending, a.alarm = some alarm.id) ∧
      a.engine.state.running = a.isRunning ∧
      ¬(a.engine.state.running = true ∧ a.engine.state.paused = true) ∧
      (∀ halt rest b, halt = .stop ∨ halt = .pause → (∀ c ∈ rest, c ≠ .start) →
        performAll w (halt :: rest) a = .ok b → b.scheduler.pending = [] ∧ ∀ id, b.goOff w id = .ok b) ∧
      ∀ interval rest b, (∀ c ∈ rest, ∀ other, c ≠ .setInterval other) →
        performAll w (.setInterval interval :: rest) a = .ok b →
          ∀ alarm ∈ b.scheduler.pending, alarm.delay = interval := by
  have ha : a.Timed := (Timed.fresh source storage interval seen).performAll h
  refine ⟨?_, ?_, fun alarm hmem => (ha.of_mem_pending hmem).1, ha.running, ?_, ?_, ?_⟩
  · rw [ha.pending]
    cases a.alarm <;> simp
  · rw [ha.pending, isRunning]
    cases a.alarm <;> simp
  · rintro ⟨hrunning, hpaused⟩
    rw [ha.apart hrunning] at hpaused
    cases hpaused
  · rintro halt rest b hhalt hrest hok
    obtain ⟨next, hnext, hok⟩ := performAll_cons_eq_ok hok
    have hidle : next.alarm = none := by
      obtain rfl | rfl := hhalt
      · rw [← Except.ok.inj hnext]
        exact alarm_cancel a
      · rw [← Except.ok.inj hnext]
        exact alarm_cancel a
    obtain ⟨hb, hnone⟩ := (ha.perform hnext).alarm_performAll hidle hrest hok
    exact ⟨hb.pending_eq_nil hnone, hb.goOff_of_idle hnone⟩
  · intro interval rest b hrest hok alarm hmem
    obtain ⟨next, hnext, hok⟩ := performAll_cons_eq_ok hok
    have hset : next.interval = interval := by
      rw [← Except.ok.inj hnext]
      exact interval_setInterval a interval
    have hkept : b.interval = next.interval :=
      performAll_induction (P := fun b => b.interval = next.interval)
        (fun _ _ _ hc hkind hstep => (interval_perform hkind hstep).trans hc) hrest rfl hok
    have hb := (ha.perform hnext).performAll hok
    rw [(hb.of_mem_pending hmem).2, hkept, hset]

/-- The interval is changed after one cycle, and then the engine pauses while its user does another one. -/
theorem performAll_alarm_pause :
    let w : Watcher State Nat := { onStep := fun _ seen => .ok (seen + 1), onFinish := none }
    let fresh : Autorun State Nat :=
      { engine := { source := .seeded 0, state := { storage := .zero } }, interval := .int 300, seen := 0 }
    let commands : List Command :=
      [.call (.load "ADD R1, R2, R3\nSUB R4, R1, R5") nofun, .start, .goOff 1, .setInterval (.int 100)]
    let rest : List Command := [.stepOnce, .setInterval (.int 50), .goOff 3]
    ∃ a b, performAll w commands fresh = .ok a ∧ a.isRunning = true ∧ a.scheduler.pending.map (·.id) = [3] ∧
      a.seen = 1 ∧ performAll w (.pause :: rest) a = .ok b ∧ b.scheduler.pending = [] ∧ b.seen = 2 := by
  intro w fresh commands rest
  have hok : (performAll w commands fresh).toOption.any (fun a =>
      decide (a.isRunning = true ∧ a.scheduler.pending.map (·.id) = [3] ∧ a.seen = 1) &&
        (performAll w (.pause :: rest) a).toOption.any fun b => decide (b.seen = 2)) = true := by
    decide +kernel
  obtain ⟨a, ha, hresult⟩ := State.exists_of_any_toOption hok
  rw [Bool.and_eq_true, decide_eq_true_eq] at hresult
  obtain ⟨⟨hrunning, hpending, hseen⟩, hrest⟩ := hresult
  obtain ⟨b, hb, hseen'⟩ := State.exists_of_any_toOption hrest
  obtain ⟨-, -, -, -, -, hhalt, -⟩ := performAll_alarm ha
  have hidle := hhalt .pause rest b (.inr rfl) (by simp [rest]) hb
  exact ⟨a, b, ha, hrunning, hpending, hseen, hb, hidle.1, of_decide_eq_true hseen'⟩

end Autorun

end FiveStage
