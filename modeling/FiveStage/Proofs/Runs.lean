import FiveStage.Engine
import FiveStage.Proofs.Tick

/-!
# Runs

What can be done with a machine, one thing after another. `Proceeds` follows a loaded program through its cycles, with
changes of the settings in between, and `Course` keeps a record of these cycles as well; `Engine.Reachable` also loads
other programs, runs them and starts anew. A run is a row of cycles. In all of them the loaded program is in some phase.

Main statements:
* `run_induction`, `runFor_induction_of_going`: what every cycle keeps, a run keeps;
* `run_error_induction`: a run that is cut short is cut short in one of its cycles;
* `runFor_eq_run`: a run that is allowed more cycles than it needs is the same run;
* `InPhase.run_stops`: a run gets to the end of the program or to its limit;
* `Course.exists_of_cons`: what comes before the latest cycle on a record;
* `Engine.Reachable.induction`: what everything that can be done keeps, holds of every reachable engine;
* `Engine.Reachable.exists_course`: what is reachable has come from the loading of a program;
* `Proceeds.inPhase`: a loaded program is always in a phase.
-/

namespace FiveStage

namespace State

/-- What becomes of a state by cycles and by changes of the settings between them. -/
inductive Proceeds (start : State) : State → Prop
  | refl : Proceeds start start
  | step {s t : State} : Proceeds start s → s.step = .ok t → Proceeds start t
  | applySettings {s : State} (settings : Settings) : Proceeds start s → Proceeds start (s.applySettings settings)

/-- A cycle that was done: the state that it began with, and the one that it led to. -/
structure Cycle where
  before : State
  after : State

/-- The settings in force in a cycle: whether results are forwarded, and whether branches are predicted. -/
def Cycle.settings (c : Cycle) : Bool × Bool :=
  (c.before.forwarding, c.before.prediction)

/-- What becomes of a state by cycles and by changes of the settings between them, with a record of the cycles, the
latest one first. -/
inductive Course (start : State) : List Cycle → State → Prop
  | refl : Course start [] start
  | step {cycles : List Cycle} {s t : State} : Course start cycles s → s.step = .ok t → Course start (⟨s, t⟩ :: cycles) t
  | applySettings {cycles : List Cycle} {s : State} (settings : Settings) :
    Course start cycles s → Course start cycles (s.applySettings settings)

/-- One cycle under each of the given settings, in order. -/
def follow (schedule : List Settings) (s : State) : Except (Interrupted RegisterName.TooLong State) State :=
  schedule.foldlM (fun s settings => (s.applySettings settings).step) s

/-- What every cycle keeps that a run goes on to, a run keeps. -/
theorem runFor_induction_of_going {P : State → Prop} {limit : Int}
    (hstep : ∀ s t, P s → s.isComplete = false → s.cycle < limit → s.step = .ok t → P t) {bound : Nat} {s t : State}
    (hs : P s) (h : runFor bound limit s = .ok t) : P t := by
  induction bound generalizing s with
  | zero => rwa [← Except.ok.inj h]
  | succ bound ih =>
    rw [runFor] at h
    split at h
    · rwa [← Except.ok.inj h]
    · rename_i hgo
      rw [Bool.or_eq_true, decide_eq_true_eq, not_or, Bool.not_eq_true, Int.not_le] at hgo
      split at h
      · cases h
      · rename_i next hnext
        exact ih (hstep s next hs hgo.1 hgo.2 hnext) h

/-- What every cycle keeps, a run keeps. -/
theorem runFor_induction {P : State → Prop} (hstep : ∀ s t, P s → s.step = .ok t → P t) {bound : Nat} {limit : Int}
    {s t : State} (hs : P s) (h : runFor bound limit s = .ok t) : P t :=
  runFor_induction_of_going (fun s t hs _ _ hok => hstep s t hs hok) hs h

theorem run_induction {P : State → Prop} (hstep : ∀ s t, P s → s.step = .ok t → P t) {limit : Int} {s t : State}
    (hs : P s) (h : s.run limit = .ok t) : P t :=
  runFor_induction hstep hs h

/-- A run that is cut short is cut short in a cycle, up to which it has kept what every cycle keeps. -/
theorem run_error_induction {P : State → Prop} {Q : Interrupted RegisterName.TooLong State → Prop}
    (hstep : ∀ s t, P s → s.step = .ok t → P t) (herror : ∀ s i, P s → s.step = .error i → Q i) {limit : Int} {s : State}
    {i : Interrupted RegisterName.TooLong State} (hs : P s) (h : s.run limit = .error i) : Q i := by
  unfold State.run at h
  generalize (limit - s.cycle).toNat + 1 = bound at h
  induction bound generalizing s with
  | zero => cases h
  | succ bound ih =>
    rw [runFor] at h
    split at h
    · cases h
    · split at h
      · rename_i hcut
        rw [Except.error.inj h] at hcut
        exact herror s i hs hcut
      · rename_i next hnext
        exact ih (hstep s next hs hnext) h

section Bounds

variable {s t : State}

theorem runFor_of_isIdle (h : s.isIdle = true) (bound : Nat) (limit : Int) : runFor bound limit s = .ok s := by
  induction bound with
  | zero => rfl
  | succ bound ih =>
    rw [runFor, step_of_idle h]
    split
    · rfl
    · exact ih

/-- A cycle takes the clock a step further, or leaves nothing to do. -/
theorem isIdle_or_cycle_of_step (h : s.step = .ok t) : t.isIdle = true ∨ t.cycle = s.cycle + 1 := by
  obtain ⟨retired, hretired, ⟨hidle, rfl⟩ | ⟨-, accessed, haccessed, rfl⟩⟩ := step_cases h
  · exact .inl hidle
  · obtain ⟨_, _, _, _, hframe, -⟩ := accessed_frame hretired haccessed
    obtain ⟨_, _, _, hfront⟩ := accessed.advanceFront_frame
    right
    rw [hfront]
    exact congrArg State.cycle hframe

theorem runFor_of_le_cycle {limit : Int} (h : limit ≤ s.cycle) (bound : Nat) : runFor bound limit s = .ok s := by
  cases bound with
  | zero => rfl
  | succ bound => rw [runFor, decide_eq_true h, Bool.or_true, if_pos rfl]

/-- A run that may take more cycles than the clock lacks to the limit does not need them all. -/
theorem runFor_eq {m n : Nat} {limit : Int} (hm : limit - s.cycle < m) (hn : limit - s.cycle < n) :
    runFor m limit s = runFor n limit s := by
  induction m generalizing s n with
  | zero => rw [runFor_of_le_cycle (by omega), runFor_of_le_cycle (by omega)]
  | succ m ih =>
    cases n with
    | zero => rw [runFor_of_le_cycle (by omega), runFor_of_le_cycle (by omega)]
    | succ n =>
      rw [runFor, runFor]
      cases hstep : s.step with
      | error i => rfl
      | ok next =>
        have hrest : runFor m limit next = runFor n limit next := by
          rcases isIdle_or_cycle_of_step hstep with hidle | hcycle
          · rw [runFor_of_isIdle hidle, runFor_of_isIdle hidle]
          · exact ih (by omega) (by omega)
        dsimp only
        rw [hrest]

theorem runFor_eq_run {bound : Nat} {limit : Int} (h : limit - s.cycle < bound) : runFor bound limit s = s.run limit :=
  runFor_eq h (by omega)

end Bounds

/-- A run goes through states that come one after the other. -/
theorem Proceeds.run {start s t : State} {limit : Int} (h : start.Proceeds s) (hok : s.run limit = .ok t) :
    start.Proceeds t :=
  run_induction (fun _ _ hs hstep => hs.step hstep) h hok

namespace Course

variable {start s t : State} {cycles : List Cycle}

theorem proceeds (h : start.Course cycles s) : start.Proceeds s := by
  induction h with
  | refl => exact .refl
  | step _ hok ih => exact ih.step hok
  | applySettings settings _ ih => exact ih.applySettings settings

/-- Before the first cycle, only the settings can have changed. -/
theorem exists_of_nil (h : start.Course [] s) : ∃ settings, s = start.applySettings settings := by
  generalize hcycles : ([] : List Cycle) = cycles at h
  induction h with
  | refl => exact ⟨{ forwarding := start.forwarding, prediction := start.prediction }, rfl⟩
  | step _ _ _ => cases hcycles
  | applySettings settings _ ih =>
    obtain ⟨_, rfl⟩ := ih hcycles
    exact ⟨settings, rfl⟩

/-- After the latest cycle, only the settings can have changed. -/
theorem exists_of_cons {c : Cycle} (h : start.Course (c :: cycles) s) :
    start.Course cycles c.before ∧ c.before.step = .ok c.after ∧ ∃ settings, s = c.after.applySettings settings := by
  generalize hcycles : c :: cycles = all at h
  induction h with
  | refl => cases hcycles
  | @step _ before after hbefore hok _ =>
    cases hcycles
    exact ⟨hbefore, hok, { forwarding := after.forwarding, prediction := after.prediction }, rfl⟩
  | applySettings settings _ ih =>
    obtain ⟨hbefore, hok, _, rfl⟩ := ih hcycles
    exact ⟨hbefore, hok, settings, rfl⟩

/-- A run adds its cycles to the record. -/
theorem run {limit : Int} (h : start.Course cycles s) (hok : s.run limit = .ok t) :
    ∃ more, start.Course (more ++ cycles) t := by
  refine run_induction (P := fun t => ∃ more, start.Course (more ++ cycles) t) ?_ ⟨[], h⟩ hok
  rintro s t ⟨more, hs⟩ hstep
  exact ⟨⟨s, t⟩ :: more, hs.step hstep⟩

/-- The settings in force in the cycles of a schedule are those of the schedule. -/
theorem follow {schedule : List Settings} (h : start.Course cycles s) (hok : s.follow schedule = .ok t) :
    ∃ more, start.Course (more ++ cycles) t ∧
      more.map Cycle.settings = (schedule.map fun x => (x.forwarding, x.prediction)).reverse := by
  induction schedule generalizing s cycles with
  | nil =>
    cases hok
    exact ⟨[], h, rfl⟩
  | cons settings schedule ih =>
    obtain ⟨next, hnext, hrest⟩ := exists_of_bind_eq_ok hok
    obtain ⟨more, hmore, hsettings⟩ := ih ((h.applySettings settings).step hnext) hrest
    refine ⟨more ++ [⟨s.applySettings settings, next⟩], ?_, ?_⟩
    · rw [List.append_assoc]
      exact hmore
    · rw [List.map_append, hsettings]
      exact List.reverse_cons.symm

end Course

/-- What is found out about the result of a computation holds if the computation has one. -/
theorem exists_of_any_toOption {ε α : Type} {x : Except ε α} {f : α → Bool} (h : x.toOption.any f = true) :
    ∃ a, x = .ok a ∧ f a = true := by
  cases x with
  | error e => cases h
  | ok a => exact ⟨a, rfl, h⟩

/-! ## A program that is loaded -/

namespace InPhase

variable {program : List Instruction} {p : Phase} {s : State}

theorem load (s : State) (program : List Instruction) : (s.load program).InPhase program {} := by
  have hcodes : (s.load program).codes = program := by
    simp [codes, State.load, Function.comp_def]
  have hget : ∀ (i : Nat) (x : Tracked), (s.load program).instructions[i]? = some x → ∃ code, x = { code } := by
    intro i x hx
    simp only [State.load, List.getElem?_toArray, List.getElem?_map, Option.map_eq_some_iff] at hx
    obtain ⟨code, -, rfl⟩ := hx
    exact ⟨code, rfl⟩
  have hretired : ({} : Phase).retired = 0 := rfl
  have hfits : ({} : Phase).Fits program.length := ⟨Nat.zero_le _, fun hb => absurd hb (by decide)⟩
  refine ⟨hfits, ?_⟩
  rw [Phase.pipeline_fresh, hretired]
  refine
    { codes := hcodes, pc := by simp [State.load], completed := by simp [State.load], pipeline := rfl, tracks := ?_,
      finished := ?_, unfetched := ?_ }
  · intro i x hx stage
    obtain ⟨code, rfl⟩ := hget i x hx
    constructor
    · intro hstage
      cases hstage
    · intro hslot
      cases stage <;> cases hslot
  · intro i x hx
    obtain ⟨code, rfl⟩ := hget i x hx
    exact iff_of_false Bool.false_ne_true (Nat.not_lt_zero i)
  · intro i _
    cases hx : (s.load program).instructions[i]? with
    | none => simp [fetchedAt, hx]
    | some x =>
      obtain ⟨code, rfl⟩ := hget i x hx
      exact fetchedAt_eq_of_getElem? hx

/-- A machine that has done nothing has an empty program. -/
theorem fresh (storage : Storage) : ({ storage } : State).InPhase [] {} :=
  load { storage } []

theorem applySettings (h : s.InPhase program p) (settings : Settings) : (s.applySettings settings).InPhase program p :=
  ⟨h.fits, h.stands.of_eq rfl rfl rfl rfl⟩

/-- A cycle leads from a phase to a phase. -/
theorem exists_step {t : State} (h : s.InPhase program p) (hok : s.step = .ok t) : ∃ q, t.InPhase program q := by
  obtain ⟨-, hsettles⟩ | ⟨-, hticks⟩ := h.step hok
  · exact ⟨_, hsettles.inPhase⟩
  · exact ⟨_, hticks.inPhase⟩

/-- A program that has settled is complete. -/
theorem isComplete_of_settles {t : State} (hr : p.Rests program.length)
    (hsettles : Settles program p s t) : t.isComplete = true := by
  have hstands := hsettles.inPhase.stands
  have hretired : program.length ≤ p.rested.retired := by
    show program.length ≤ p.front - 4
    unfold Phase.Rests at hr
    omega
  have hempty : (p.rested.pipeline program.length).isEmpty = true := by
    rw [Pipeline.isEmpty_iff]
    intro stage
    rw [Option.eq_none_iff_forall_ne_some]
    intro i hi
    have := Phase.retired_le_of_get_pipeline hi
    have := Phase.lt_of_get_pipeline hi
    omega
  refine isComplete_iff.2 ⟨?_, ?_⟩
  · rw [hstands.completed, hstands.size_eq]
    omega
  · rw [hstands.pipeline]
    exact hempty

/-- A program that is complete has been through all of its phases. -/
theorem front_of_isComplete (h : s.InPhase program p) (hne : program ≠ []) (hc : s.isComplete = true) :
    p.front = program.length + 4 := by
  have hpos : 0 < program.length := List.length_pos_iff.2 hne
  have hcompleted := h.stands.completed
  rw [(isComplete_iff.1 hc).1, h.stands.size_eq] at hcompleted
  exact h.fits.front_of_length_le_retired hpos (by omega)

/-- Every cycle but the last one advances the clock, so a run gets to the end of the program or to its limit. -/
theorem runFor_stops {bound : Nat} {limit : Int} {t : State} (h : s.InPhase program p)
    (hbound : limit - s.cycle < bound) (hok : runFor bound limit s = .ok t) :
    t.isComplete = true ∨ limit ≤ t.cycle := by
  induction bound generalizing s p with
  | zero =>
    rw [← Except.ok.inj hok]
    right
    omega
  | succ bound ih =>
    rw [runFor] at hok
    split at hok
    · rename_i hstop
      rw [Except.ok.inj hok, Bool.or_eq_true, decide_eq_true_eq] at hstop
      exact hstop
    · split at hok
      · cases hok
      · rename_i next hnext
        obtain ⟨hr, hsettles⟩ | ⟨-, hticks⟩ := h.step hnext
        · have hdone := isComplete_of_settles hr hsettles
          rw [runFor_of_isComplete hdone] at hok
          rw [← Except.ok.inj hok]
          exact .inl hdone
        · apply ih hticks.inPhase _ hok
          rw [hticks.cycle]
          omega

theorem run_stops {limit : Int} {t : State} (h : s.InPhase program p) (hok : s.run limit = .ok t) :
    t.isComplete = true ∨ limit ≤ t.cycle :=
  h.runFor_stops (by omega) hok

end InPhase

/-- A loaded program stays loaded, and is in a phase. -/
theorem Proceeds.inPhase {s t : State} {program : List Instruction} (h : (s.load program).Proceeds t) :
    ∃ p, t.InPhase program p := by
  induction h with
  | refl => exact ⟨_, InPhase.load s program⟩
  | step _ hok ih =>
    obtain ⟨p, hp⟩ := ih
    exact hp.exists_step hok
  | applySettings settings _ ih =>
    obtain ⟨p, hp⟩ := ih
    exact ⟨p, hp.applySettings settings⟩

end State

namespace Engine

/-- The settings of a user are applied to the engine. -/
def applySettings (e : Engine State) (settings : Settings) : Engine State :=
  { e with state := e.state.applySettings settings }

/-- What can be made of a new engine without a fault. -/
inductive Reachable : Engine State → Prop
  | fresh (source : Storage.Source) (storage : Storage) : Reachable { source, state := { storage } }
  | load {e : Engine State} (text : String) : Reachable e → Reachable (e.load text)
  | step {e e' : Engine State} : Reachable e → e.step = .ok e' → Reachable e'
  | run {e e' : Engine State} (limit : Int) : Reachable e → e.run limit = .ok e' → Reachable e'
  | applySettings {e : Engine State} (settings : Settings) : Reachable e → Reachable (e.applySettings settings)
  | reset {e : Engine State} : Reachable e → Reachable e.reset

theorem state_of_step {e e' : Engine State} (h : e.step = .ok e') : e.state.step = .ok e'.state := by
  cases hs : e.state.step with
  | ok t =>
    rw [step_state hs, Except.ok.injEq] at h
    rw [← h]
  | error i =>
    have hm : Machine.step e.state = .error ⟨.register i.fault, i.state⟩ :=
      (State.step_error_iff e.state _).2 ⟨_, _, hs, rfl⟩
    rw [Engine.step, hm] at h
    cases h

theorem state_of_run {e e' : Engine State} {limit : Int} (h : e.run limit = .ok e') :
    e.state.run limit = .ok e'.state := by
  rw [Engine.run] at h
  cases hs : e.state.run limit with
  | ok t =>
    rw [hs, updateState, Except.ok.injEq] at h
    rw [← h]
  | error i =>
    rw [hs, updateState] at h
    cases h

theorem state_of_step_error {e : Engine State} {i : Interrupted Fault (Engine State)} (h : e.step = .error i) :
    ∃ cause, e.state.step = .error ⟨cause, i.state.state⟩ := by
  cases hs : e.state.step with
  | ok t =>
    rw [step_state hs] at h
    cases h
  | error j =>
    have hm : Machine.step e.state = .error ⟨.register j.fault, j.state⟩ :=
      (State.step_error_iff e.state _).2 ⟨_, _, hs, rfl⟩
    rw [Engine.step, hm] at h
    rw [← Except.error.inj h]
    exact ⟨j.fault, rfl⟩

theorem state_of_run_error {e : Engine State} {i : Interrupted Fault (Engine State)} {limit : Int}
    (h : e.run limit = .error i) : ∃ cause, e.state.run limit = .error ⟨cause, i.state.state⟩ := by
  rw [Engine.run] at h
  cases hs : e.state.run limit with
  | ok t =>
    rw [hs] at h
    cases h
  | error j =>
    rw [hs, updateState] at h
    rw [← Except.error.inj h]
    exact ⟨j.fault, rfl⟩

theorem run_state {e : Engine State} {limit : Int} {t : State} (h : e.state.run limit = .ok t) :
    e.run limit = .ok { e with state := t } := by
  rw [Engine.run, h, updateState]

theorem state_of_load (e : Engine State) (text : String) :
    (e.load text).state = e.state.load (Program.parse text).instructions := rfl

/-- A run of an engine from the loading of a text is a run of its state from the loading of the program. -/
theorem state_of_load_run {e e' : Engine State} {text : String} {limit : Int}
    (h : (e.load text).run limit = .ok e') :
    (e.state.load (Program.parse text).instructions).run limit = .ok e'.state := by
  rw [← state_of_load]
  exact state_of_run h

/-- What everything that can be done keeps, holds of every reachable engine. -/
theorem Reachable.induction {P : State → Prop} (hfresh : ∀ storage, P { storage })
    (hload : ∀ s text, P s → P (s.load (Program.parse text).instructions))
    (hstep : ∀ s t, P s → s.step = .ok t → P t) (hsettings : ∀ s settings, P s → P (s.applySettings settings))
    {e : Engine State} (h : Reachable e) : P e.state := by
  induction h with
  | fresh source storage => exact hfresh storage
  | load text _ ih => exact hload _ text ih
  | step _ hok ih => exact hstep _ _ ih (state_of_step hok)
  | run limit _ hok ih => exact State.run_induction hstep ih (state_of_run hok)
  | applySettings settings _ ih => exact hsettings _ settings ih
  | reset _ _ => exact hfresh _

/-- What is reachable has come from the loading of a program. -/
theorem Reachable.exists_course {e : Engine State} (h : Reachable e) :
    ∃ (s : State) (program : List Instruction) (cycles : List State.Cycle),
      (s.load program).Course cycles e.state := by
  induction h with
  | fresh source storage => exact ⟨{ storage }, [], [], .refl⟩
  | @load e text _ _ => exact ⟨e.state, _, [], .refl⟩
  | step _ hok ih =>
    obtain ⟨s, program, cycles, hcourse⟩ := ih
    exact ⟨s, program, _, hcourse.step (state_of_step hok)⟩
  | run limit _ hok ih =>
    obtain ⟨s, program, cycles, hcourse⟩ := ih
    obtain ⟨more, hmore⟩ := hcourse.run (state_of_run hok)
    exact ⟨s, program, _, hmore⟩
  | applySettings settings _ ih =>
    obtain ⟨s, program, cycles, hcourse⟩ := ih
    exact ⟨s, program, cycles, hcourse.applySettings settings⟩
  | @reset e _ _ => exact ⟨{ storage := e.source.next.storage }, [], [], .refl⟩

end Engine

end FiveStage
