import FiveStage.Proofs.Timer
import FiveStage.Window

/-!
# Sessions

What happens to a window, action after action. Few of the actions touch the engine, and each of those comes to one of a
few things: a cycle that is shown, a run that begins or ends, a program that is loaded and shown, or one that is
refused. That is all that the properties of a session have to be checked for.

Main statements:
* `act_turn`: what an action comes to;
* `armed_act`: after every action, the alarm that is remembered is the one that is set;
* `of_create`: a new window shows its engine, which waits to be run;
* `Session.induction`: what every turn keeps, a session keeps.
-/

namespace FiveStage

namespace State

/-- The state without the marks of a timer and without the settings: all that a window shows something of. -/
def content (s : State) : State :=
  { s with running := false, paused := false, forwarding := false, prediction := false }

variable {s t : State}

theorem isComplete_of_content_eq (h : t.content = s.content) : t.isComplete = s.isComplete := by
  have hcomplete : t.content.isComplete = s.content.isComplete := congrArg isComplete h
  exact hcomplete

theorem shown_of_content_eq (h : t.content = s.content) : Shown.ofState t = Shown.ofState s := by
  have hshown : Shown.ofState t.content = Shown.ofState s.content := congrArg Shown.ofState h
  exact hshown

end State

namespace Autorun

variable {σ : Type} {watcher : Watcher State σ} {a b : Autorun State σ}

namespace Armed

/-- If no alarm is remembered, none goes off; otherwise that one does. -/
theorem fire_cases (h : a.Armed) (hok : a.fire watcher = .ok b) :
    a.alarm = none ∧ b = a ∨
      ∃ id, a.alarm = some id ∧ { a with scheduler := a.scheduler.cancel id }.tick watcher = .ok b := by
  cases halarm : a.alarm with
  | none =>
    have hpop : a.scheduler.pop? = none := by
      rw [Scheduler.pop?, h.pending_eq_nil halarm]
    rw [fire, hpop] at hok
    exact .inl ⟨rfl, (Except.ok.inj hok).symm⟩
  | some id =>
    have hpending := h.pending_of_alarm halarm
    rw [fire_of_pending hpending, Autorun.goOff, if_pos (by rw [hpending]; exact List.mem_singleton_self _)] at hok
    exact .inr ⟨id, rfl, hok⟩

theorem fire (h : a.Armed) (hok : a.fire watcher = .ok b) : b.Armed := by
  obtain ⟨-, rfl⟩ | ⟨id, halarm, htick⟩ := h.fire_cases hok
  · exact h
  · exact tick (h.pending_cancel_of_alarm halarm) htick

end Armed

end Autorun

namespace Window

/-- A line of the editor has no opcode, so its program is not loaded. -/
def refuses (w : Window) : Bool :=
  !(Program.check w.programText).isEmpty

/-- The action is to load the program of the editor, into the engine or into a new one. -/
def Action.loads : Action → Bool
  | load | reset => true
  | _ => false

/-- The action is to let the engine run, or to interrupt it. -/
def Action.toggles : Action → Bool
  | toggle => true
  | _ => false

/-- The action concerns neither the program nor the timer. -/
def Action.isQuiet : Action → Bool
  | load | toggle | step | reset | slide _ | fire => false
  | _ => true

/-- What has happened to a window: each action with the window in which it found it, the latest first. -/
inductive Session (new : Window) : List (Window × Action) → Window → Prop
  | refl : Session new [] new
  | act {past : List (Window × Action)} {w next : Window} {action : Action} (files : Files) :
    Session new past w → Window.act files w action = .ok next → Session new ((w, action) :: past) next

/-- Neither what is shown has changed, nor what it is shown of. -/
structure Unmoved (w next : Window) : Prop where
  shown : next.run.seen.shown = w.run.seen.shown
  content : next.state.content = w.state.content

/-- What is shown is what there is to be shown. -/
def Truthful (w : Window) : Prop :=
  Shown.ofState w.state = .ok w.run.seen.shown

/-- The state that an action finds, or makes, to load a program into. -/
def ground (w : Window) : Action → State
  | .reset => w.run.engine.reset.state
  | _ => w.state

/-- What an action comes to. -/
inductive Turn (w next : Window) : Action → Prop
  /-- Nothing has become of what is shown of the engine. -/
  | still {action : Action} (hloads : action.loads = false) (htoggle : action.toggles = false)
    (running : next.run.isRunning = w.run.isRunning) (play : next.run.seen.play = w.run.seen.play)
    (unmoved : w.Unmoved next) : Turn w next action
  /-- A cycle is done and shown. -/
  | cycle {action : Action} (hloads : action.loads = false) (htoggle : action.toggles = false)
    (going : w.state.isComplete = false) (running : next.run.isRunning = w.run.isRunning)
    (play : next.run.seen.play = w.run.seen.play) (truthful : next.Truthful) : Turn w next action
  /-- The run of a complete program ends. -/
  | finish (running : w.run.isRunning = true) (idle : next.run.isRunning = false)
    (play : next.run.seen.play = runLabel) (unmoved : w.Unmoved next) : Turn w next .fire
  /-- The run begins or is interrupted. -/
  | toggle (running : next.run.isRunning = !w.run.isRunning)
    (play : next.run.seen.play = if w.run.isRunning then runLabel else pauseLabel) (unmoved : w.Unmoved next) :
    Turn w next .toggle
  /-- The run ends, and nothing more is done but to say why. -/
  | refuse {action : Action} (hloads : action.loads = true) (refuses : w.refuses = true)
    (idle : next.run.isRunning = false) (play : next.run.seen.play = w.run.seen.play)
    (shown : next.run.seen.shown = w.run.seen.shown) (content : next.state.content = (w.ground action).content) :
    Turn w next action
  /-- The run ends, and the program is loaded and shown. -/
  | accept {action : Action} (hloads : action.loads = true) (accepts : w.refuses = false)
    (idle : next.run.isRunning = false) (play : next.run.seen.play = runLabel) (truthful : next.Truthful) :
    Turn w next action

variable {files : Files} {w v next : Window} {action : Action}

/-! ## Parts of actions -/

theorem Action.still_of_isQuiet (hquiet : action.isQuiet = true) : action.loads = false ∧ action.toggles = false := by
  cases action with
  | load | toggle | step | reset | slide _ | fire => cases hquiet
  | type _ | choose _ | switchForwarding | switchPrediction | «export» _ | showCharts => exact ⟨rfl, rfl⟩

theorem ofRun_eq_ok {r : Autorun.Outcome State Face} (h : w.ofRun r = .ok next) :
    ∃ run, r = .ok run ∧ next = { w with run } := by
  cases r with
  | error e => cases h
  | ok run => exact ⟨run, rfl, (Except.ok.inj h).symm⟩

theorem refresh_eq_ok (h : w.refresh = .ok next) :
    ∃ shown, Shown.ofState w.state = .ok shown ∧ next = w.mapFace fun face => { face with shown } := by
  unfold refresh at h
  split at h
  · rename_i shown hshown
    exact ⟨shown, hshown, (Except.ok.inj h).symm⟩
  · cases h

theorem followSpeed_of_interval {interval : Int} (h : w.settings.interval = .ok interval) :
    w.followSpeed = .ok { w with run := w.run.setInterval (.int interval) } := by
  rw [followSpeed, h]

theorem followSpeed_eq_ok (h : w.followSpeed = .ok next) :
    ∃ interval, w.settings.interval = .ok interval ∧ next = { w with run := w.run.setInterval (.int interval) } := by
  cases hspeed : w.settings.interval with
  | ok interval =>
    rw [followSpeed_of_interval hspeed] at h
    exact ⟨interval, rfl, (Except.ok.inj h).symm⟩
  | error e =>
    rw [followSpeed, hspeed] at h
    cases h

theorem run_slide {value : Json} (h : act files w (.slide value) = .ok next) :
    ∃ interval, next.run = w.run.setInterval (.int interval) := by
  unfold act at h
  dsimp only at h
  split at h
  · obtain ⟨interval, -, rfl⟩ := followSpeed_eq_ok h
    exact ⟨interval, rfl⟩
  · cases h

theorem ofFigures_eq_ok {r : Except Misuse (List (String × Chart.Figure))} (h : w.ofFigures r = .ok next) :
    ∃ charts, next = { w with charts } := by
  cases r with
  | error e => cases h
  | ok figures => exact ⟨_, (Except.ok.inj h).symm⟩

theorem onStep_eq_ok {s : State} {face seen : Face} (h : watcher.onStep s face = .ok seen) :
    ∃ shown, Shown.ofState s = .ok shown ∧ seen = { face with shown } := by
  dsimp only [watcher] at h
  split at h
  · rename_i shown hshown
    exact ⟨shown, hshown, (Except.ok.inj h).symm⟩
  · cases h

/-- A quiet action changes no more of the engine under its timer than its settings, its log and the status. -/
theorem run_of_isQuiet (hquiet : action.isQuiet = true) (h : act files w action = .ok next) :
    ∃ engine status, next.run = { w.run with engine, seen := { w.run.seen with status } } ∧
      engine.state.content = w.state.content := by
  cases action with
  | load | toggle | step | reset | slide _ | fire => cases hquiet
  | type _ | switchForwarding | switchPrediction =>
    rw [← Except.ok.inj h]
    exact ⟨_, _, rfl, rfl⟩
  | choose sample =>
    unfold act at h
    dsimp only at h
    split at h
    · rw [← Except.ok.inj h]
      exact ⟨_, _, rfl, rfl⟩
    · cases h
  | «export» path =>
    unfold act at h
    dsimp only at h
    split at h
    · rw [← Except.ok.inj h]
      exact ⟨_, _, rfl, rfl⟩
    · split at h
      · cases h
      · cases h
      · rw [← Except.ok.inj h]
        exact ⟨_, _, rfl, rfl⟩
  | showCharts =>
    obtain ⟨charts, rfl⟩ := ofFigures_eq_ok h
    exact ⟨_, _, rfl, rfl⟩

/-- A program is refused with no more than a word, or it is loaded, shown, and waits to be run. -/
theorem load_eq_ok (h : w.load = .ok next) :
    w.refuses = true ∧
        (∃ status, next = { w with run := { w.run.stop with seen := { w.run.stop.seen with status } } }) ∨
      w.refuses = false ∧ ∃ engine shown status, Shown.ofState engine.state = .ok shown ∧
        next = { w with run := { w.run.stop with engine, seen := { shown, play := runLabel, status } } } := by
  unfold load at h
  dsimp only at h
  split at h
  · rename_i number line rest hcheck
    refine .inl ⟨?_, _, (Except.ok.inj h).symm⟩
    have hcheck' : Program.check w.programText = (number, line) :: rest := hcheck
    rw [refuses, hcheck']
    rfl
  · rename_i hcheck
    obtain ⟨shown, hshown, hnext⟩ := refresh_eq_ok h
    refine .inr ⟨?_, _, shown, _, hshown, hnext⟩
    have hcheck' : Program.check w.programText = [] := hcheck
    rw [refuses, hcheck']
    rfl

/-! ## The timer of a window -/

theorem seen_stop (w : Window) : w.run.stop.seen = w.run.seen :=
  Autorun.seen_cancel w.run

theorem isRunning_stop (w : Window) : w.run.stop.isRunning = false := by
  rw [Autorun.isRunning, show w.run.stop.alarm = none from Autorun.alarm_cancel w.run]
  rfl

/-- Loading comes to the same for an engine and for a new one in its place. -/
theorem turn_of_load (h : v.load = .ok next) (hloads : action.loads = true) (heditor : v.editor = w.editor)
    (hseen : v.run.seen = w.run.seen) (hcontent : v.state.content = (w.ground action).content) :
    Turn w next action := by
  have hrefuses : v.refuses = w.refuses := by
    rw [refuses, refuses, programText, programText, heditor]
  have hstop : v.run.stop.seen = w.run.seen := (seen_stop v).trans hseen
  obtain ⟨hrefused, status, rfl⟩ | ⟨haccepted, engine, shown, status, hshown, rfl⟩ := load_eq_ok h
  · have hplay : v.run.stop.seen.play = w.run.seen.play := congrArg Face.play hstop
    have hshown : v.run.stop.seen.shown = w.run.seen.shown := congrArg Face.shown hstop
    exact .refuse hloads (hrefuses ▸ hrefused) (isRunning_stop v) hplay hshown hcontent
  · exact .accept hloads (hrefuses ▸ haccepted) (isRunning_stop v) rfl hshown

theorem turn_of_toggle (h : act files w .toggle = .ok next) : Turn w next .toggle := by
  unfold act at h
  dsimp only at h
  split at h
  · rename_i hrunning
    rw [← Except.ok.inj h]
    have hseen : w.run.pause.seen = w.run.seen := Autorun.seen_cancel w.run
    have hidle : w.run.pause.isRunning = false := by
      rw [Autorun.isRunning, show w.run.pause.alarm = none from Autorun.alarm_cancel w.run]
      rfl
    have hshown : w.run.pause.seen.shown = w.run.seen.shown := congrArg Face.shown hseen
    refine .toggle ?_ (if_pos hrunning).symm ⟨hshown, rfl⟩
    rw [hrunning]
    exact hidle
  · rename_i hidle
    rw [← Except.ok.inj h]
    have hstart : w.run.start = { w.run with engine := w.run.engine.mark true false }.schedule := if_neg hidle
    rw [hstart]
    refine .toggle ?_ (if_neg hidle).symm ⟨rfl, rfl⟩
    rw [Bool.eq_false_iff.2 hidle]
    rfl

theorem turn_of_step (h : act files w .step = .ok next) : Turn w next .step := by
  unfold act at h
  dsimp only at h
  split at h
  · rw [← Except.ok.inj h]
    exact .still rfl rfl rfl rfl ⟨rfl, rfl⟩
  · obtain ⟨run, hrun, rfl⟩ := ofRun_eq_ok h
    obtain ⟨-, rfl⟩ | ⟨hgoing, engine, seen, -, hseen, rfl⟩ := Autorun.stepOnce_eq_ok hrun
    · exact .still rfl rfl rfl rfl ⟨rfl, rfl⟩
    · obtain ⟨shown, hshown, rfl⟩ := onStep_eq_ok hseen
      exact .cycle rfl rfl hgoing rfl rfl hshown

theorem turn_of_fire (harmed : w.run.Armed) (h : act files w .fire = .ok next) : Turn w next .fire := by
  obtain ⟨run, hrun, rfl⟩ := ofRun_eq_ok h
  obtain ⟨-, rfl⟩ | ⟨id, halarm, hgoOff⟩ := harmed.fire_cases hrun
  · exact .still rfl rfl rfl rfl ⟨rfl, rfl⟩
  · have hrunning : w.run.isRunning = true := by
      rw [Autorun.isRunning, halarm]
      rfl
    obtain ⟨-, line, rfl⟩ | ⟨hgoing, engine, seen, -, hseen, rfl⟩ := Autorun.tick_eq_ok hgoOff
    · exact .finish hrunning rfl rfl ⟨rfl, rfl⟩
    · obtain ⟨shown, hshown, rfl⟩ := onStep_eq_ok hseen
      exact .cycle rfl rfl hgoing hrunning.symm rfl hshown

theorem turn_of_isQuiet (hquiet : action.isQuiet = true) (h : act files w action = .ok next) : Turn w next action := by
  obtain ⟨engine, status, hrun, hcontent⟩ := run_of_isQuiet hquiet h
  obtain ⟨hloads, htoggle⟩ := Action.still_of_isQuiet hquiet
  have hstate : next.state = engine.state := congrArg (·.engine.state) hrun
  have hplay : next.run.seen.play = w.run.seen.play := congrArg (·.seen.play) hrun
  have hshown : next.run.seen.shown = w.run.seen.shown := congrArg (·.seen.shown) hrun
  have hrunning : next.run.isRunning = w.run.isRunning := congrArg (·.isRunning) hrun
  exact .still hloads htoggle hrunning hplay ⟨hshown, (congrArg State.content hstate).trans hcontent⟩

theorem turn_of_slide {value : Json} (h : act files w (.slide value) = .ok next) : Turn w next (.slide value) := by
  obtain ⟨interval, hrun⟩ := run_slide h
  have hstate : next.state = w.state := by
    rw [state, hrun, Autorun.engine_setInterval, state]
  have hseen : next.run.seen = w.run.seen := by
    rw [hrun, Autorun.seen_setInterval]
  refine .still rfl rfl ?_ (congrArg Face.play hseen) ⟨congrArg Face.shown hseen, congrArg State.content hstate⟩
  rw [hrun, Autorun.isRunning_setInterval]

/-- Each action comes to one of a few things, as long as the alarm that is set is the one that is remembered. -/
theorem act_turn (harmed : w.run.Armed) (h : act files w action = .ok next) : Turn w next action := by
  cases action with
  | load =>
    have hload : w.load = .ok next := h
    exact turn_of_load hload rfl rfl rfl rfl
  | toggle => exact turn_of_toggle h
  | step => exact turn_of_step h
  | reset =>
    have hload : (({ w with run := w.run.stop } : Window).setEngine w.run.stop.engine.reset).applySettings.load =
        .ok next := h
    exact turn_of_load hload rfl rfl (seen_stop w) rfl
  | slide value => exact turn_of_slide h
  | fire => exact turn_of_fire harmed h
  | type _ | choose _ | switchForwarding | switchPrediction | «export» _ | showCharts => exact turn_of_isQuiet rfl h

theorem isRunning_toggle (h : act files w .toggle = .ok next) : next.run.isRunning = !w.run.isRunning := by
  cases turn_of_toggle h with
  | toggle running play unmoved => exact running
  | still hloads htoggle running play unmoved => cases htoggle
  | cycle hloads htoggle going running play truthful => cases htoggle
  | refuse hloads refuses idle play shown content => cases hloads
  | accept hloads accepts idle play truthful => cases hloads

/-- A program that is refused changes nothing of what is shown. -/
theorem Turn.of_refuses (h : Turn w next action) (hloads : action.loads = true) (hrefuses : w.refuses = true) :
    next.run.seen.shown = w.run.seen.shown ∧ next.state.content = (w.ground action).content := by
  cases h with
  | refuse _ _ idle play shown content => exact ⟨shown, content⟩
  | accept _ accepts idle play truthful =>
    rw [hrefuses] at accepts
    cases accepts
  | still hloads' htoggle running play unmoved =>
    rw [hloads] at hloads'
    cases hloads'
  | cycle hloads' htoggle going running play truthful =>
    rw [hloads] at hloads'
    cases hloads'
  | finish | toggle => cases hloads

/-! ## The alarm of a window -/

theorem armed_load (harmed : w.run.Armed) (h : w.load = .ok next) : next.run.Armed := by
  have hstop : w.run.stop.Armed := harmed.mark_cancel false
  obtain ⟨-, status, rfl⟩ | ⟨-, engine, shown, status, -, rfl⟩ := load_eq_ok h
  · exact hstop
  · exact hstop

/-- Whatever happens to a window, the alarm that is remembered is the one that is set. -/
theorem armed_act (harmed : w.run.Armed) (h : act files w action = .ok next) : next.run.Armed := by
  cases action with
  | load => exact armed_load harmed h
  | toggle =>
    unfold act at h
    dsimp only at h
    split at h
    · rw [← Except.ok.inj h]
      exact harmed.mark_cancel true
    · rw [← Except.ok.inj h]
      exact harmed.start
  | step =>
    unfold act at h
    dsimp only at h
    split at h
    · rw [← Except.ok.inj h]
      exact harmed
    · obtain ⟨run, hrun, rfl⟩ := ofRun_eq_ok h
      exact harmed.stepOnce hrun
  | reset =>
    have hstop : w.run.stop.Armed := harmed.mark_cancel false
    exact armed_load (w := (({ w with run := w.run.stop } : Window).setEngine w.run.stop.engine.reset).applySettings)
      hstop h
  | slide value =>
    obtain ⟨interval, hrun⟩ := run_slide h
    rw [hrun]
    exact harmed.setInterval (.int interval)
  | fire =>
    obtain ⟨run, hrun, rfl⟩ := ofRun_eq_ok h
    exact harmed.fire hrun
  | type _ | choose _ | switchForwarding | switchPrediction | «export» _ | showCharts =>
    obtain ⟨engine, status, hrun, -⟩ := run_of_isQuiet rfl h
    rw [hrun]
    exact harmed

/-! ## A session -/

/-- The program that is shown first can be loaded. -/
theorem accepts_default (h : w.editor = Samples.defaultText) : w.refuses = false := by
  rw [refuses, programText, h]
  decide +kernel

/-- A new window before its first program is loaded. -/
def opened (source : Storage.Source) (settings : Settings) (interval : Int) : Window where
  run :=
    { engine := (Engine.create source).applySettings settings
      interval := .int interval
      seen := { play := runLabel } }
  settings := settings
  editor := Samples.defaultText
  menu := Samples.defaultName
  forwarding := settings.forwarding
  prediction := settings.prediction
  slider := settings.speed

variable {source : Storage.Source} {settings : Settings} {new : Window}

theorem create_of_interval {interval : Int} (h : settings.interval = .ok interval) :
    create source settings = (opened source settings interval).load := by
  have hspeed : ({ opened source settings 600 with
      run := { engine := Engine.create source, seen := { play := runLabel } } } : Window).applySettings.followSpeed =
        .ok (opened source settings interval) := followSpeed_of_interval h
  unfold create
  dsimp only
  split
  · rename_i w hok
    rw [← Except.ok.inj (hspeed.symm.trans hok)]
  · rename_i e herror
    cases hspeed.symm.trans herror

theorem create_eq_ok (h : create source settings = .ok new) :
    ∃ interval, settings.interval = .ok interval ∧ (opened source settings interval).load = .ok new := by
  unfold create at h
  dsimp only at h
  split at h
  · rename_i w hspeed
    obtain ⟨interval, hinterval, rfl⟩ := followSpeed_eq_ok hspeed
    exact ⟨interval, hinterval, h⟩
  · cases h

/-- A new window shows its engine, which waits to be run. -/
theorem of_create (h : create source settings = .ok new) :
    new.run.Armed ∧ new.run.isRunning = false ∧ new.run.seen.play = runLabel ∧ new.Truthful := by
  obtain ⟨interval, -, hload⟩ := create_eq_ok h
  have harmed : (opened source settings interval).run.Armed := .idle rfl rfl
  refine ⟨armed_load harmed hload, ?_⟩
  obtain ⟨hrefuses, -⟩ | ⟨-, engine, shown, status, hshown, rfl⟩ := load_eq_ok hload
  · rw [accepts_default rfl] at hrefuses
    cases hrefuses
  · exact ⟨isRunning_stop _, rfl, hshown⟩

namespace Session

variable {new : Window} {past : List (Window × Action)}

/-- Whatever happens to a window, the alarm that is remembered is the one that is set. -/
theorem armed (h : new.Session past w) (hnew : new.run.Armed) : w.run.Armed := by
  induction h with
  | refl => exact hnew
  | act files _ hok ih => exact armed_act ih hok

/-- What each turn keeps, a session keeps. -/
theorem induction {P : List (Window × Action) → Window → Prop} (hnew : new.run.Armed) (hstart : P [] new)
    (hturn : ∀ past w action next, P past w → w.run.Armed → Turn w next action → P ((w, action) :: past) next)
    (h : new.Session past w) : P past w := by
  induction h with
  | refl => exact hstart
  | act files hsession hok ih =>
    have harmed := hsession.armed hnew
    exact hturn _ _ _ _ ih harmed (act_turn harmed hok)

end Session

end Window

end FiveStage
