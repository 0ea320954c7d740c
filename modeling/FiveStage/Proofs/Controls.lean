import FiveStage.Proofs.Opening

/-!
# The settings of a window

A setting is kept in several places. A switch of the window has a position, the settings record it, and the engine goes
by a copy of its own. The speed is recorded as well, and the timer has the interval that follows from it. A program that
is loaded leaves the copies alone, a new engine is given the settings before anything else is done with it, and a new
interval replaces the alarm that was set for the old one. So the places never differ.

Main statements:
* `setAs_of_not_sets`: most actions leave all the settings alone;
* `InStep.act`: whatever is done, the places where a setting is kept agree;
* `Session.settings_eq`: in every session, they agree.
-/

namespace FiveStage

namespace State

/-- A state has the settings of another one. -/
def SetAs (t s : State) : Prop :=
  t.forwarding = s.forwarding ∧ t.prediction = s.prediction

theorem setAs_of_step {s t : State} (h : s.step = .ok t) : t.SetAs s := by
  obtain ⟨retired, hretired, ⟨-, rfl⟩ | ⟨-, accessed, haccessed, rfl⟩⟩ := step_cases h
  · obtain ⟨_, _, _, _, hframe, -⟩ := writeBack_frame hretired
    rw [hframe]
    exact ⟨rfl, rfl⟩
  · obtain ⟨_, _, _, _, hframe, -⟩ := accessed_frame hretired haccessed
    obtain ⟨_, _, _, hfront⟩ := accessed.advanceFront_frame
    rw [hfront, hframe]
    exact ⟨rfl, rfl⟩

end State

namespace Autorun

variable {σ : Type} {watcher : Watcher State σ} {a b : Autorun State σ}

/-- An engine under a timer has the settings and the interval of another one. -/
structure SetAs (b a : Autorun State σ) : Prop where
  state : b.engine.state.SetAs a.engine.state
  interval : b.interval = a.interval

namespace SetAs

theorem refl (a : Autorun State σ) : a.SetAs a := ⟨⟨rfl, rfl⟩, rfl⟩

theorem start (a : Autorun State σ) : a.start.SetAs a := by
  unfold Autorun.start
  split
  · exact refl a
  · exact ⟨⟨rfl, rfl⟩, rfl⟩

theorem stepOnce (h : a.stepOnce watcher = .ok b) : b.SetAs a := by
  obtain ⟨-, rfl⟩ | ⟨-, engine, seen, hstep, -, rfl⟩ := stepOnce_eq_ok h
  · exact refl b
  · exact ⟨State.setAs_of_step (Engine.state_of_step hstep), rfl⟩

theorem tick (h : a.tick watcher = .ok b) : b.SetAs a := by
  obtain ⟨-, line, rfl⟩ | ⟨-, engine, seen, hstep, -, rfl⟩ := tick_eq_ok h
  · exact ⟨⟨rfl, rfl⟩, rfl⟩
  · exact ⟨State.setAs_of_step (Engine.state_of_step hstep), rfl⟩

theorem fire (harmed : a.Armed) (h : a.fire watcher = .ok b) : b.SetAs a := by
  obtain ⟨-, rfl⟩ | ⟨id, -, htick⟩ := harmed.fire_cases h
  · exact refl b
  · obtain ⟨hstate, hinterval⟩ := tick htick
    exact ⟨hstate, hinterval⟩

end SetAs

end Autorun

namespace Window

variable {files : Files} {w next new : Window} {action : Action} {past : List (Window × Action)}
  {source : Storage.Source} {settings : Settings}

/-! ## Actions that leave the settings alone -/

/-- The action is to change a setting, or to make the engine new. -/
def Action.sets : Action → Bool
  | reset | switchForwarding | switchPrediction | slide _ => true
  | _ => false

/-- A window has the settings of another one, in all places where they are kept. -/
structure SetAs (next w : Window) : Prop where
  run : next.run.SetAs w.run
  settings : next.settings = w.settings
  forwarding : next.forwarding = w.forwarding
  prediction : next.prediction = w.prediction

theorem setAs_of_load (h : w.load = .ok next) : next.SetAs w := by
  unfold load at h
  dsimp only at h
  split at h
  · rw [← Except.ok.inj h]
    exact ⟨⟨⟨rfl, rfl⟩, Autorun.interval_cancel w.run⟩, rfl, rfl, rfl⟩
  · obtain ⟨shown, -, rfl⟩ := refresh_eq_ok h
    exact ⟨⟨⟨rfl, rfl⟩, Autorun.interval_cancel w.run⟩, rfl, rfl, rfl⟩

theorem setAs_of_not_sets (harmed : w.run.Armed) (hsets : action.sets = false) (h : act files w action = .ok next) :
    next.SetAs w := by
  cases action with
  | reset | switchForwarding | switchPrediction | slide _ => cases hsets
  | load => exact setAs_of_load h
  | toggle =>
    unfold act at h
    dsimp only at h
    split at h
    · rw [← Except.ok.inj h]
      exact ⟨⟨⟨rfl, rfl⟩, Autorun.interval_cancel w.run⟩, rfl, rfl, rfl⟩
    · rw [← Except.ok.inj h]
      obtain ⟨hstate, hinterval⟩ := Autorun.SetAs.start w.run
      exact ⟨⟨hstate, hinterval⟩, rfl, rfl, rfl⟩
  | step =>
    unfold act at h
    dsimp only at h
    split at h
    · rw [← Except.ok.inj h]
      exact ⟨⟨⟨rfl, rfl⟩, rfl⟩, rfl, rfl, rfl⟩
    · obtain ⟨run, hrun, rfl⟩ := ofRun_eq_ok h
      exact ⟨.stepOnce hrun, rfl, rfl, rfl⟩
  | fire =>
    obtain ⟨run, hrun, rfl⟩ := ofRun_eq_ok h
    exact ⟨.fire harmed hrun, rfl, rfl, rfl⟩
  | type text =>
    rw [← Except.ok.inj h]
    exact ⟨.refl _, rfl, rfl, rfl⟩
  | choose sample =>
    unfold act at h
    dsimp only at h
    split at h
    · rw [← Except.ok.inj h]
      exact ⟨.refl _, rfl, rfl, rfl⟩
    · cases h
  | «export» path =>
    unfold act at h
    dsimp only at h
    split at h
    · rw [← Except.ok.inj h]
      exact ⟨.refl _, rfl, rfl, rfl⟩
    · split at h
      · cases h
      · cases h
      · rw [← Except.ok.inj h]
        exact ⟨⟨⟨rfl, rfl⟩, rfl⟩, rfl, rfl, rfl⟩
  | showCharts =>
    obtain ⟨charts, rfl⟩ := ofFigures_eq_ok h
    exact ⟨.refl _, rfl, rfl, rfl⟩

/-! ## Actions that change them -/

/-- The switches, the engine and the timer are set as the settings say. -/
structure InStep (w : Window) : Prop where
  forwarding : w.state.forwarding = w.settings.forwarding ∧ w.forwarding = w.settings.forwarding
  prediction : w.state.prediction = w.settings.prediction ∧ w.prediction = w.settings.prediction
  interval : ∃ interval, w.settings.interval = .ok interval ∧ w.run.interval = .int interval

namespace InStep

theorem setAs (h : w.InStep) (hset : next.SetAs w) : next.InStep := by
  obtain ⟨⟨⟨hforwarding, hprediction⟩, hinterval⟩, hsettings, hswitch, hswitch'⟩ := hset
  constructor
  · rw [hsettings, hswitch]
    exact ⟨hforwarding.trans h.forwarding.1, h.forwarding.2⟩
  · rw [hsettings, hswitch']
    exact ⟨hprediction.trans h.prediction.1, h.prediction.2⟩
  · rw [hsettings, hinterval]
    exact h.interval

/-- The interval does not depend on the switches. -/
theorem followSwitches (h : w.InStep) (forwarding prediction : Bool) :
    ({ w with forwarding, prediction } : Window).followSwitches.InStep :=
  ⟨⟨rfl, rfl⟩, ⟨rfl, rfl⟩, h.interval⟩

theorem slide (h : w.InStep) {value : Json} (hact : Window.act files w (.slide value) = .ok next) : next.InStep := by
  unfold Window.act at hact
  dsimp only at hact
  split at hact
  · obtain ⟨interval, hinterval, rfl⟩ := followSpeed_eq_ok hact
    refine ⟨?_, ?_, interval, hinterval, Autorun.interval_setInterval _ _⟩
    · rw [state, Autorun.engine_setInterval]
      exact h.forwarding
    · rw [state, Autorun.engine_setInterval]
      exact h.prediction
  · cases hact

/-- A new engine is set as the old one was. -/
theorem reset (h : w.InStep) (hact : Window.act files w .reset = .ok next) : next.InStep := by
  let renewed : Window := (({ w with run := w.run.stop } : Window).setEngine w.run.stop.engine.reset).applySettings
  have hrenewed : renewed.InStep := by
    obtain ⟨interval, hinterval, hrun⟩ := h.interval
    have hkept : renewed.run.interval = w.run.interval := Autorun.interval_cancel w.run
    exact ⟨⟨rfl, h.forwarding.2⟩, ⟨rfl, h.prediction.2⟩, interval, hinterval, hkept.trans hrun⟩
  have hload : renewed.load = .ok next := hact
  exact hrenewed.setAs (setAs_of_load hload)

/-- Whatever is done, the places where a setting is kept agree. -/
theorem act (h : w.InStep) (harmed : w.run.Armed) (hact : Window.act files w action = .ok next) : next.InStep := by
  cases hsets : action.sets with
  | false => exact h.setAs (setAs_of_not_sets harmed hsets hact)
  | true =>
    cases action with
    | reset => exact h.reset hact
    | switchForwarding | switchPrediction =>
      rw [← Except.ok.inj hact]
      exact h.followSwitches _ _
    | slide value => exact h.slide hact
    | load | toggle | step | fire | type _ | choose _ | «export» _ | showCharts => cases hsets

end InStep

/-! ## A session -/

theorem inStep_of_create (h : create source settings = .ok new) : new.InStep := by
  obtain ⟨interval, hinterval, hload⟩ := create_eq_ok h
  have hopened : (opened source settings interval).InStep := ⟨⟨rfl, rfl⟩, ⟨rfl, rfl⟩, interval, hinterval, rfl⟩
  exact hopened.setAs (setAs_of_load hload)

theorem Session.inStep (h : new.Session past w) (hnew : create source settings = .ok new) : w.InStep := by
  induction h with
  | refl => exact inStep_of_create hnew
  | act files hsession hok ih => exact ih.act (hsession.armed (of_create hnew).1) hok

/-- **The settings.** Whatever the settings are that a window is opened with, and whatever happens to it, the engine and
the switches are set as the settings say, the time between two cycles is the one for the speed in the settings, and so
is the delay of every alarm that is set. -/
theorem Session.settings_eq (hnew : create source settings = .ok new) (h : new.Session past w) :
    (w.state.forwarding = w.settings.forwarding ∧ w.forwarding = w.settings.forwarding) ∧
      (w.state.prediction = w.settings.prediction ∧ w.prediction = w.settings.prediction) ∧
        ∃ interval, w.settings.interval = .ok interval ∧ w.run.interval = .int interval ∧
          ∀ alarm ∈ w.run.scheduler.pending, alarm.delay = .int interval := by
  obtain ⟨hforwarding, hprediction, interval, hinterval, hrun⟩ := h.inStep hnew
  refine ⟨hforwarding, hprediction, interval, hinterval, hrun, fun alarm hmem => ?_⟩
  rw [((h.armed (of_create hnew).1).of_mem_pending hmem).2, hrun]

/-- While the first program runs, forwarding is switched off and the speed is raised. -/
theorem settings_eq_slide : ∃ new w past, create (.seeded 0) {} = .ok new ∧ new.Session past w ∧
    past.map (·.2) = [.slide (.int 8), .switchForwarding, .toggle] ∧ w.state.forwarding = false ∧
      w.settings.forwarding = false ∧ ∃ alarm ∈ w.run.scheduler.pending, alarm.delay = .int 300 := by
  let files : Files := ⟨fun _ => .error .missing, fun _ => none⟩
  obtain ⟨new, hnew, -⟩ := exists_create (.seeded 0) interval_default
  obtain ⟨harmed, hidle, -, -⟩ := of_create hnew
  obtain ⟨running, htoggle⟩ := exists_toggle files new
  let switched : Window := { running with forwarding := !running.forwarding }.followSwitches
  let faster : Window := { switched with slider := .int 8, settings := { switched.settings with speed := .int 8 } }
  have hslide : act files switched (.slide (.int 8)) =
      .ok { faster with run := switched.run.setInterval (.int 300) } := followSpeed_of_interval (w := faster) rfl
  have hact : act files running .switchForwarding = .ok switched := rfl
  have hsession := ((Session.refl.act files htoggle).act files hact).act files hslide
  obtain ⟨⟨hforwarding, hswitch⟩, -, interval, -, hinterval, hpending⟩ := Session.settings_eq hnew hsession
  have hoff : switched.forwarding = false := by
    obtain ⟨_, -, hload⟩ := create_eq_ok hnew
    show (!running.forwarding) = false
    rw [(setAs_of_not_sets harmed rfl htoggle).forwarding, (setAs_of_load hload).forwarding]
    rfl
  obtain ⟨id, halarm⟩ : ∃ id, (switched.run.setInterval (.int 300)).alarm = some id := by
    apply Option.isSome_iff_exists.1
    show (switched.run.setInterval (.int 300)).isRunning = true
    rw [Autorun.isRunning_setInterval]
    exact (isRunning_toggle htoggle).trans (by rw [hidle]; rfl)
  have hmem := ((hsession.armed harmed).pending_of_alarm halarm) ▸ List.mem_singleton_self _
  have hsettings := hswitch.symm.trans hoff
  refine ⟨new, _, _, hnew, hsession, rfl, hforwarding.trans hsettings, hsettings, _, hmem, ?_⟩
  rw [hpending _ hmem, ← hinterval, Autorun.interval_setInterval]

end Window

end FiveStage
