import FiveStage.Proofs.Opening

/-!
# What a window says of its engine

The button of a window says whether the engine runs, and the display what is in it. Both are kept up by the actions
that change the engine, with one gap: when a program is refused, the run has been ended, and the engine may be a new one,
but neither the button nor the display is touched. What a session makes of that is told by its history alone.

Main statements:
* `Labelled.turn`, `Faithful.turn`: what one action makes of the button and of the display;
* `Session.play_eq`: when the button tells whether the engine runs, and what it tells otherwise;
* `Session.shown_eq`: when the engine is what is shown, and what is shown otherwise.
-/

namespace FiveStage.Window

variable {files : Files} {w next new : Window} {action : Action} {past : List (Window × Action)}
  {source : Storage.Source} {settings : Settings}

/-! ## The button -/

/-- A program was refused while the engine ran, and since then the button has not been labelled again. -/
def misled : List (Window × Action) → Bool
  | [] => false
  | (w, action) :: past =>
    if action.loads then w.refuses && (w.run.isRunning || misled past) else !action.toggles && misled past

/-- The button tells of a run that is under way, or of one that was ended by a program that was refused. -/
structure Labelled (past : List (Window × Action)) (w : Window) : Prop where
  play : w.run.seen.play = if w.run.isRunning || misled past then pauseLabel else runLabel
  idle : misled past = true → w.run.isRunning = false

namespace Labelled

/-- Other actions than those of the button and of loading leave it as it is, if they leave the run as it is. -/
theorem keep (h : Labelled past w) (hloads : action.loads = false) (htoggle : action.toggles = false)
    (running : next.run.isRunning = w.run.isRunning) (play : next.run.seen.play = w.run.seen.play) :
    Labelled ((w, action) :: past) next := by
  have hmisled : misled ((w, action) :: past) = misled past := by simp [misled, hloads, htoggle]
  constructor
  · rw [hmisled, running, play, h.play]
  · rw [hmisled, running]
    exact h.idle

/-- Where the button tells of no run, there is nothing to be misled by. -/
theorem of_not_misled (hmisled : misled past = false)
    (play : w.run.seen.play = if w.run.isRunning then pauseLabel else runLabel) : Labelled past w := by
  constructor
  · rw [hmisled, Bool.or_false, play]
  · intro h
    rw [hmisled] at h
    cases h

theorem turn (h : Labelled past w) (hturn : Turn w next action) : Labelled ((w, action) :: past) next := by
  cases hturn with
  | still hloads htoggle running play unmoved => exact h.keep hloads htoggle running play
  | cycle hloads htoggle going running play truthful => exact h.keep hloads htoggle running play
  | finish running idle play unmoved =>
    -- The run that ends is the one that the button tells of.
    have hmisled : misled past = false := by
      by_contra hmisled
      rw [h.idle (Bool.eq_true_of_not_eq_false hmisled)] at running
      cases running
    have hmisled' : misled ((w, .fire) :: past) = false := hmisled
    apply of_not_misled hmisled'
    rw [idle, play]
    rfl
  | toggle running play unmoved =>
    apply of_not_misled rfl
    rw [running, play]
    cases w.run.isRunning <;> rfl
  | refuse hloads refuses idle play shown content =>
    have hmisled : misled ((w, action) :: past) = (w.run.isRunning || misled past) := by simp [misled, hloads, refuses]
    constructor
    · rw [hmisled, idle, Bool.false_or, play, h.play]
    · intro _
      exact idle
  | accept hloads accepts idle play truthful =>
    apply of_not_misled
    · simp [misled, hloads, accepts]
    · rw [idle, play]
      rfl

end Labelled

theorem Session.labelled (h : new.Session past w) (hnew : create source settings = .ok new) : Labelled past w := by
  obtain ⟨harmed, hidle, hplay, -⟩ := of_create hnew
  have hstart : Labelled [] new := by
    apply Labelled.of_not_misled rfl
    rw [hidle, hplay]
    rfl
  exact h.induction harmed hstart fun _ _ _ _ hw _ hturn => hw.turn hturn

theorem play_of_misled (h : Labelled past w) (hmisled : misled past = true) :
    w.run.isRunning = false ∧ w.run.seen.play = pauseLabel := by
  refine ⟨h.idle hmisled, ?_⟩
  rw [h.play, hmisled, Bool.or_true, if_pos rfl]

/-- A line without an opcode is typed. -/
theorem refuses_typed (w : Window) : ({ w with editor := "FOO" } : Window).refuses = true := by
  have hcheck : (!(Program.check ("FOO" ++ "\n")).isEmpty) = true := by decide +kernel
  exact hcheck

/-- A line without an opcode is to be loaded while the first program runs. -/
theorem exists_misled (files : Files) : ∃ new w past, create (.seeded 0) {} = .ok new ∧ new.Session past w ∧
    past.map (·.2) = [.load, .type "FOO", .toggle] ∧ misled past = true := by
  obtain ⟨new, hnew, -⟩ := exists_create (.seeded 0) interval_default
  obtain ⟨-, hidle, -, -⟩ := of_create hnew
  obtain ⟨running, htoggle⟩ := exists_toggle files new
  obtain ⟨w, hload⟩ := exists_load_of_refuses (refuses_typed running)
  have hact : act files { running with editor := "FOO" } .load = .ok w := hload
  have hrunning : running.run.isRunning = true := by
    rw [isRunning_toggle htoggle, hidle]
    rfl
  have hsession := (Session.refl.act files htoggle).act files (act_type files running "FOO")
  refine ⟨new, w, _, hnew, hsession.act files hact, rfl, ?_⟩
  show (({ running with editor := "FOO" } : Window).refuses && (running.run.isRunning || _)) = true
  rw [refuses_typed, hrunning]
  rfl

/-- **The button.** Whatever happens to a window, the button tells whether the engine runs, unless a program was refused
while it did and the button has not been labelled again. In that case alone it goes on to tell of a run that has
ended. -/
theorem Session.play_eq (hnew : create source settings = .ok new) (h : new.Session past w) :
    (w.run.seen.play = (if w.run.isRunning then pauseLabel else runLabel) ↔ misled past = false) ∧
      (misled past = true → w.run.isRunning = false ∧ w.run.seen.play = pauseLabel) := by
  have hlabelled := h.labelled hnew
  refine ⟨⟨fun hplay => ?_, fun hmisled => ?_⟩, play_of_misled hlabelled⟩
  · by_contra hmisled
    obtain ⟨hidle, hpause⟩ := play_of_misled hlabelled (Bool.eq_true_of_not_eq_false hmisled)
    rw [hpause, hidle] at hplay
    exact absurd hplay (by decide)
  · rw [hlabelled.play, hmisled, Bool.or_false]

/-- After the run was ended by a program that was refused, the button is right again when it is used. -/
theorem play_eq_again : ∃ new w past, create (.seeded 0) {} = .ok new ∧ new.Session past w ∧
    past.map (·.2) = [.toggle, .load, .type "FOO", .toggle] ∧ w.run.isRunning = true ∧
      w.run.seen.play = pauseLabel := by
  let files : Files := ⟨fun _ => .error .missing, fun _ => none⟩
  obtain ⟨new, v, past, hnew, hsession, hactions, hmisled⟩ := exists_misled files
  obtain ⟨w, htoggle⟩ := exists_toggle files v
  have hrunning : w.run.isRunning = true := by
    rw [isRunning_toggle htoggle, (play_of_misled (hsession.labelled hnew) hmisled).1]
    rfl
  have hplay := (Session.play_eq hnew (hsession.act files htoggle)).1.2 rfl
  rw [hrunning] at hplay
  refine ⟨new, w, _, hnew, hsession.act files htoggle, ?_, hrunning, hplay⟩
  rw [List.map_cons, hactions]

/-- The button tells of a run that was ended by a program that was refused. -/
theorem play_misled : ∃ new w past, create (.seeded 0) {} = .ok new ∧ new.Session past w ∧
    past.map (·.2) = [.load, .type "FOO", .toggle] ∧ w.run.isRunning = false ∧ w.run.seen.play = pauseLabel := by
  obtain ⟨new, w, past, hnew, hsession, hactions, hmisled⟩ := exists_misled ⟨fun _ => .error .missing, fun _ => none⟩
  exact ⟨new, w, past, hnew, hsession, hactions, play_of_misled (hsession.labelled hnew) hmisled⟩

/-! ## The display -/

/-- The action makes the engine new. -/
def Action.renews : Action → Bool
  | reset => true
  | _ => false

/-- The engine was made new for a program that was refused, and since then none has been loaded. -/
def stale : List (Window × Action) → Bool
  | [] => false
  | (w, action) :: past => if action.loads then w.refuses && (action.renews || stale past) else stale past

/-- An empty engine is shown as the one that was there before a program was refused for it. -/
def Outlived (past : List (Window × Action)) (w : Window) : Prop :=
  ∃ v older, (v, .reset) :: older <:+ past ∧ v.refuses = true ∧ Shown.ofState v.state = .ok w.run.seen.shown ∧
    ∃ storage, w.state.content = ({ storage } : State).content

/-- What is shown is what is there, or what was there before the engine was made new. -/
structure Faithful (past : List (Window × Action)) (w : Window) : Prop where
  truthful : stale past = false → w.Truthful
  outlived : stale past = true → Outlived past w

theorem stale_of_not_loads (hloads : action.loads = false) : stale ((w, action) :: past) = stale past := by
  simp [stale, hloads]

theorem stale_of_refuses (hloads : action.loads = true) (hrefuses : w.refuses = true) :
    stale ((w, action) :: past) = (action.renews || stale past) := by
  simp [stale, hloads, hrefuses]

theorem content_ground (hloads : action.loads = true) :
    action.renews = false ∧ (w.ground action).content = w.state.content ∨
      action = .reset ∧ ∃ storage, (w.ground action).content = ({ storage } : State).content := by
  cases action with
  | load => exact .inl ⟨rfl, rfl⟩
  | reset => exact .inr ⟨rfl, _, rfl⟩
  | toggle | step | type _ | choose _ | switchForwarding | switchPrediction | slide _ | fire | «export» _ | showCharts =>
    cases hloads

/-- Nothing is left to be done in an empty engine. -/
theorem Outlived.isComplete (h : Outlived past w) : w.state.isComplete = true := by
  obtain ⟨v, older, -, -, -, storage, hcontent⟩ := h
  exact State.isComplete_of_content_eq hcontent

namespace Faithful

/-- What is not changed stays as it was shown. -/
theorem unmoved (h : Faithful past w) (hstale : stale ((w, action) :: past) = stale past)
    (hshown : next.run.seen.shown = w.run.seen.shown) (hcontent : next.state.content = w.state.content) :
    Faithful ((w, action) :: past) next := by
  constructor
  · intro hfresh
    rw [hstale] at hfresh
    rw [Truthful, State.shown_of_content_eq hcontent, hshown]
    exact h.truthful hfresh
  · intro hleft
    rw [hstale] at hleft
    obtain ⟨v, older, hsuffix, hrefuses, hv, storage, hempty⟩ := h.outlived hleft
    refine ⟨v, older, hsuffix.trans (List.suffix_cons _ _), hrefuses, ?_, storage, hcontent.trans hempty⟩
    rw [hshown]
    exact hv

/-- What was shown is still shown after the engine was made new. -/
theorem renew (h : Faithful past w) (hrefuses : w.refuses = true) (hshown : next.run.seen.shown = w.run.seen.shown)
    {storage : Storage} (hcontent : next.state.content = ({ storage } : State).content) :
    Faithful ((w, .reset) :: past) next := by
  have hstale : stale ((w, .reset) :: past) = true := by rw [stale_of_refuses rfl hrefuses]; rfl
  refine ⟨fun hfresh => ?_, fun _ => ?_⟩
  · rw [hstale] at hfresh
    cases hfresh
  · cases hleft : stale past with
    | false =>
      have hw : Shown.ofState w.state = .ok w.run.seen.shown := h.truthful hleft
      refine ⟨w, past, List.suffix_refl _, hrefuses, ?_, storage, hcontent⟩
      rw [hshown]
      exact hw
    | true =>
      obtain ⟨v, older, hsuffix, hrefused, hv, -, -⟩ := h.outlived hleft
      refine ⟨v, older, hsuffix.trans (List.suffix_cons _ _), hrefused, ?_, storage, hcontent⟩
      rw [hshown]
      exact hv

theorem turn (h : Faithful past w) (hturn : Turn w next action) : Faithful ((w, action) :: past) next := by
  cases hturn with
  | still hloads htoggle running play unmoved =>
    exact h.unmoved (stale_of_not_loads hloads) unmoved.shown unmoved.content
  | finish running idle play unmoved => exact h.unmoved (stale_of_not_loads rfl) unmoved.shown unmoved.content
  | toggle running play unmoved => exact h.unmoved (stale_of_not_loads rfl) unmoved.shown unmoved.content
  | cycle hloads htoggle going running play truthful =>
    refine ⟨fun _ => truthful, fun hleft => ?_⟩
    rw [stale_of_not_loads hloads] at hleft
    rw [(h.outlived hleft).isComplete] at going
    cases going
  | refuse hloads refuses idle play shown content =>
    obtain ⟨hrenews, hground⟩ | ⟨rfl, storage, hground⟩ := content_ground (w := w) hloads
    · apply h.unmoved _ shown (content.trans hground)
      rw [stale_of_refuses hloads refuses, hrenews, Bool.false_or]
    · exact h.renew refuses shown (content.trans hground)
  | accept hloads accepts idle play truthful =>
    refine ⟨fun _ => truthful, fun hleft => ?_⟩
    simp [stale, hloads, accepts] at hleft

end Faithful

/-- **The display.** Whatever happens to a window, it shows its engine, unless the engine was made new for a program that
was refused and none has been loaded since. In that case the engine is empty, and what is shown is what was in it
before. -/
theorem Session.shown_eq (hnew : create source settings = .ok new) (h : new.Session past w) :
    (stale past = false → Shown.ofState w.state = .ok w.run.seen.shown) ∧
      (stale past = true → ∃ v older, (v, .reset) :: older <:+ past ∧ v.refuses = true ∧
        Shown.ofState v.state = .ok w.run.seen.shown ∧
          ∃ storage, w.state.content = ({ storage } : State).content) := by
  obtain ⟨harmed, -, -, htruthful⟩ := of_create hnew
  have hstart : Faithful [] new := ⟨fun _ => htruthful, nofun⟩
  have hfaithful : Faithful past w := h.induction harmed hstart fun _ _ _ _ hw _ hturn => hw.turn hturn
  exact ⟨hfaithful.truthful, hfaithful.outlived⟩

/-- A program that is refused leaves the engine as it is shown. -/
theorem shown_eq_refused : ∃ new w past, create (.seeded 0) {} = .ok new ∧ new.Session past w ∧
    past.map (·.2) = [.load, .type "FOO"] ∧ Shown.ofState w.state = .ok w.run.seen.shown := by
  let files : Files := ⟨fun _ => .error .missing, fun _ => none⟩
  obtain ⟨new, hnew, -⟩ := exists_create (.seeded 0) interval_default
  obtain ⟨w, hload⟩ := exists_load_of_refuses (refuses_typed new)
  have hact : act files { new with editor := "FOO" } .load = .ok w := hload
  have hsession := (Session.refl.act files (act_type files new "FOO")).act files hact
  refine ⟨new, w, _, hnew, hsession, rfl, (Session.shown_eq hnew hsession).1 ?_⟩
  exact Bool.and_false _

/-- The engine is empty, but the first program is still shown, as fifteen times as fast as without a pipeline. -/
theorem shown_stale : ∃ new w past shown, create (.seeded 0) {} = .ok new ∧ new.Session past w ∧
    past.map (·.2) = [.reset, .type "FOO"] ∧ Shown.ofState w.state = .ok shown ∧ shown ≠ w.run.seen.shown ∧
      ("Speedup:", "1") ∈ shown.stats ∧ ("Speedup:", "15.0") ∈ w.run.seen.shown.stats := by
  let files : Files := ⟨fun _ => .error .missing, fun _ => none⟩
  obtain ⟨new, hnew, hcontent⟩ := exists_create (.seeded 0) interval_default
  obtain ⟨harmed, -, -, htruthful⟩ := of_create hnew
  obtain ⟨w, hact⟩ := exists_reset_of_refuses files (refuses_typed new)
  have hturn : Turn { new with editor := "FOO" } w .reset := act_turn harmed hact
  obtain ⟨hshown, hempty⟩ := hturn.of_refuses rfl (refuses_typed new)
  have hsession := (Session.refl.act files (act_type files new "FOO")).act files hact
  -- What is shown is the first program, on the storage of the window.
  have hold : Shown.ofState new.state = .ok w.run.seen.shown := by
    rw [hshown]
    exact htruthful
  rw [State.shown_of_content_eq hcontent] at hold
  have holdStats := (Shown.stats_of_ofState hold).symm.trans (stats_firstProgram _)
  -- What there is to be shown is an engine without a program.
  obtain ⟨shown, hnewShown⟩ := exists_shown_new new.run.engine.source.next (stats_new _)
  have hnewStats := (Shown.stats_of_ofState hnewShown).symm.trans (stats_new _)
  refine ⟨new, w, _, shown, hnew, hsession, rfl, (State.shown_of_content_eq hempty).trans hnewShown, ?_, ?_, ?_⟩
  · rintro rfl
    have hsame := hnewStats.symm.trans holdStats
    revert hsame
    decide
  · rw [Except.ok.inj hnewStats]
    decide
  · rw [Except.ok.inj holdStats]
    decide

end FiveStage.Window
