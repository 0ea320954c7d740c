import FiveStage.Proofs.Budget
import FiveStage.Proofs.Timer

/-!
# What a timer makes of a program

An engine can be driven by the alarms of a timer, by the single steps of its user, and by a run. All of them make the
same cycles, whatever is mixed into them: a cycle does not look at the marks that a timer sets, and none of them makes a
cycle that is not needed. What a timer made of a program is therefore a list of cycles with marks set in between, and
that is what a watcher is told of who takes down everything.

Main statements:
* `State.step_mark`: a cycle neither looks at the marks of a timer nor changes them;
* `Recounted`: what cycles and marks make of a state, with what is told of it;
* `Autorun.recounted_perform`, `Autorun.finishes_perform`: what one command makes of a program, and of its ends;
* `Autorun.performAll_recorder`: whatever is done with the timer, it is what plain cycles and a run come to.
-/

namespace FiveStage

namespace State

variable {s t : State}

/-! ## Marks and cycles -/

/-- The state without the marks of a timer. -/
def unmarked (s : State) : State :=
  s.mark false false

theorem move_mark (s : State) (source target : Stage) (running paused : Bool) :
    (s.mark running paused).move source target = (s.move source target).mark running paused := by
  have hsource : (s.mark running paused).pipeline.get source = s.pipeline.get source := rfl
  unfold move
  rw [hsource]
  cases s.pipeline.get source <;> rfl

theorem writeBack_mark (s : State) (running paused : Bool) :
    (s.mark running paused).writeBack = s.writeBack.map (mark running paused) := by
  have hslot : (s.mark running paused).pipeline.writeBack = s.pipeline.writeBack := rfl
  have hplaced : (s.mark running paused).placed.writeBack = s.placed.writeBack := rfl
  unfold writeBack
  rw [hslot, hplaced]
  cases s.pipeline.writeBack with
  | none => rfl
  | some index =>
    cases s.placed.writeBack with
    | none => rfl
    | some i =>
      show (s.storage.retire i.code s.cycle).map _ = ((s.storage.retire i.code s.cycle).map _).map _
      cases s.storage.retire i.code s.cycle <;> rfl

theorem memoryAccess_mark (s : State) (running paused : Bool) :
    (s.mark running paused).memoryAccess = s.memoryAccess.map (mark running paused) := by
  have hplaced : (s.mark running paused).placed.memory = s.placed.memory := rfl
  unfold memoryAccess
  rw [hplaced]
  cases s.placed.memory with
  | none => rfl
  | some i =>
    show (s.storage.access i.code s.cycle).map _ = ((s.storage.access i.code s.cycle).map _).map _
    cases s.storage.access i.code s.cycle with
    | error e => rfl
    | ok storage => exact congrArg Except.ok (move_mark { s with storage } .memory .writeBack running paused)

theorem execute_mark (s : State) (running paused : Bool) :
    (s.mark running paused).execute = s.execute.mark running paused := by
  unfold execute
  dsimp only
  show (if s.mustStall then _ else _) = _
  split
  · rfl
  · exact move_mark { s with hazards := s.hazards ++ s.executeHazards } .execute .memory running paused

theorem decode_mark (s : State) (running paused : Bool) :
    (s.mark running paused).decode = s.decode.mark running paused := by
  unfold decode
  dsimp only
  show (if s.pipeline.execute.isNone then _ else _) = _
  split
  · exact move_mark { s with hazards := s.hazards ++ s.decodeHazards } .decode .execute running paused
  · rfl

theorem issue_mark (s : State) (running paused : Bool) :
    (s.mark running paused).issue = s.issue.mark running paused := by
  unfold issue
  show (if s.pipeline.decode.isNone then _ else _) = _
  split
  · exact move_mark s .fetch .decode running paused
  · rfl

theorem fetch_mark (s : State) (running paused : Bool) :
    (s.mark running paused).fetch = s.fetch.mark running paused := by
  have hslot : (s.mark running paused).pipeline.fetch = s.pipeline.fetch := rfl
  have hnext : (s.mark running paused).next? = s.next? := rfl
  unfold fetch
  rw [hslot, hnext]
  cases s.pipeline.fetch with
  | some index => rfl
  | none => cases s.next? <;> rfl

theorem advanceFront_mark (s : State) (running paused : Bool) :
    (s.mark running paused).advanceFront = s.advanceFront.mark running paused := by
  unfold advanceFront
  rw [execute_mark, decode_mark, issue_mark, fetch_mark]
  rfl

theorem step_of_busy {retired accessed : State} (hback : s.writeBack = .ok retired) (hbusy : retired.isIdle = false)
    (haccess : retired.opened.memoryAccess = .ok accessed) : s.step = .ok accessed.advanceFront := by
  have hopened : ({ retired with cycle := retired.cycle + 1 } : State).memoryAccess = .ok accessed := haccess
  rw [step, hback]
  dsimp only
  rw [if_neg (by rw [hbusy]; exact Bool.false_ne_true), hopened]

/-- A cycle neither looks at the marks nor changes them. -/
theorem step_mark (h : s.step = .ok t) (running paused : Bool) :
    (s.mark running paused).step = .ok (t.mark running paused) := by
  obtain ⟨retired, hretired, hrest⟩ := step_cases h
  have hback : (s.mark running paused).writeBack = .ok (retired.mark running paused) := by
    rw [writeBack_mark, hretired]
    rfl
  obtain ⟨hidle, rfl⟩ | ⟨hbusy, accessed, haccessed, rfl⟩ := hrest
  · rw [step, hback]
    exact if_pos hidle
  · have haccess : (retired.mark running paused).opened.memoryAccess = .ok (accessed.mark running paused) := by
      show (retired.opened.mark running paused).memoryAccess = _
      rw [memoryAccess_mark, haccessed]
      rfl
    rw [← advanceFront_mark]
    exact step_of_busy hback hbusy haccess

/-- What becomes of a state in a cycle becomes of one with other marks. -/
theorem exists_step_of_unmarked_eq {s' : State} (hsame : s.unmarked = s'.unmarked) (h : s.step = .ok t) :
    ∃ t', s'.step = .ok t' ∧ t.unmarked = t'.unmarked := by
  have hmarked : s' = s.mark s'.running s'.paused :=
    calc s' = s'.unmarked.mark s'.running s'.paused := rfl
      _ = s.unmarked.mark s'.running s'.paused := by rw [hsame]
      _ = s.mark s'.running s'.paused := rfl
  rw [hmarked]
  exact ⟨_, step_mark h _ _, rfl⟩

theorem isComplete_of_unmarked_eq {s' : State} (hsame : s.unmarked = s'.unmarked) : s.isComplete = s'.isComplete := by
  have hcomplete : s.unmarked.isComplete = s'.unmarked.isComplete := congrArg isComplete hsame
  exact hcomplete

end State

/-! ## What is taken down -/

/-- What a watcher is told: the state after a cycle, or the state at the end of a run. -/
inductive Event
  | cycle (s : State)
  | finish (s : State)

namespace Event

/-- The state after a cycle. -/
def snapshot? : Event → Option State
  | cycle s => some s
  | finish _ => none

/-- The end of a run. -/
def isFinish : Event → Bool
  | cycle _ => false
  | finish _ => true

/-- The states after the cycles, in order. -/
def snapshots (events : List Event) : List State :=
  events.filterMap snapshot?

/-- How many ends there are. -/
def finishes (events : List Event) : Nat :=
  events.countP isFinish

theorem snapshots_cycle (events : List Event) (s : State) : snapshots (events ++ [cycle s]) = snapshots events ++ [s] := by
  rw [snapshots, List.filterMap_append]
  rfl

theorem snapshots_finish (events : List Event) (s : State) : snapshots (events ++ [finish s]) = snapshots events := by
  rw [snapshots, List.filterMap_append]
  exact List.append_nil _

theorem finishes_cycle (events : List Event) (s : State) : finishes (events ++ [cycle s]) = finishes events := by
  rw [finishes, List.countP_append]
  rfl

theorem finishes_finish (events : List Event) (s : State) : finishes (events ++ [finish s]) = finishes events + 1 := by
  rw [finishes, List.countP_append]
  rfl

end Event

/-- What becomes of a state by marks, and by cycles as long as the program is not complete, with what is told of the
cycles and of the end. -/
inductive Recounted (start : State) : List Event → State → Prop
  | refl : Recounted start [] start
  | mark {events : List Event} {s : State} (running paused : Bool) :
    Recounted start events s → Recounted start events (s.mark running paused)
  | cycle {events : List Event} {s t : State} :
    Recounted start events s → s.isComplete = false → s.step = .ok t → Recounted start (events ++ [.cycle t]) t
  | finish {events : List Event} {s : State} :
    Recounted start events s → s.isComplete = true → Recounted start (events ++ [.finish s]) s

/-- One more plain cycle. -/
theorem Engine.performAll_steps_succ {e plain next : Engine State} {n : Nat}
    (hplain : performAll (List.replicate n .step) e = .ok plain) (hnext : plain.step = .ok next) :
    performAll (List.replicate (n + 1) .step) e = .ok next := by
  rw [List.replicate_succ', performAll_append hplain, performAll, perform, hnext]
  rfl

namespace Recounted

open State Engine

variable {e : Engine State} {text : String} {events : List Event} {s : State}

/-- As many plain cycles as were told of come to the same state. -/
theorem exists_plain (h : Recounted (e.load text).state events s) :
    ∃ plain, Engine.performAll (List.replicate (Event.snapshots events).length .step) (e.load text) = .ok plain ∧
      s.unmarked = plain.state.unmarked ∧ (e.load text).state.Steps plain.state := by
  induction h with
  | refl => exact ⟨e.load text, rfl, rfl, .refl⟩
  | mark running paused _ ih => exact ih
  | @cycle events s t _ _ hstep ih =>
    obtain ⟨plain, hplain, hsame, hsteps⟩ := ih
    obtain ⟨next, hnext, hsame'⟩ := exists_step_of_unmarked_eq hsame hstep
    refine ⟨{ plain with state := next }, ?_, hsame', hsteps.tail hnext⟩
    rw [Event.snapshots_cycle, List.length_append, List.length_singleton]
    exact performAll_steps_succ hplain (Engine.step_state hnext)
  | finish _ _ ih =>
    rw [Event.snapshots_finish]
    exact ih

/-- Each cycle that was told of was needed, and comes to the state that a plain one comes to. -/
theorem exists_plain_of_getElem? (h : Recounted (e.load text).state events s) {k : Nat} {x : State}
    (hk : (Event.snapshots events)[k]? = some x) :
    ∃ before plain, Engine.performAll (List.replicate k .step) (e.load text) = .ok before ∧
      before.state.isComplete = false ∧
      Engine.performAll (List.replicate (k + 1) .step) (e.load text) = .ok plain ∧
      x.unmarked = plain.state.unmarked := by
  induction h with
  | refl => cases hk
  | mark running paused _ ih => exact ih hk
  | @cycle events s t hs hgoing hstep ih =>
    rw [Event.snapshots_cycle] at hk
    rcases Nat.lt_or_ge k (Event.snapshots events).length with hlt | hge
    · rw [List.getElem?_append_left hlt] at hk
      exact ih hk
    · have hlast : k = (Event.snapshots events).length := by
        obtain ⟨hlt, -⟩ := List.getElem?_eq_some_iff.1 hk
        rw [List.length_append, List.length_singleton] at hlt
        omega
      subst hlast
      rw [List.getElem?_concat_length] at hk
      obtain rfl := Option.some.inj hk
      obtain ⟨before, hbefore, hsame, -⟩ := hs.exists_plain
      obtain ⟨next, hnext, hsame'⟩ := exists_step_of_unmarked_eq hsame hstep
      exact ⟨before, _, hbefore, isComplete_of_unmarked_eq hsame ▸ hgoing,
        performAll_steps_succ hbefore (Engine.step_state hnext), hsame'⟩
  | finish _ _ ih =>
    rw [Event.snapshots_finish] at hk
    exact ih hk

/-- What is told of the end is a state of a complete program, in which it stays. -/
theorem of_mem_finish (h : Recounted (e.load text).state events s) {x : State} (hx : .finish x ∈ events) :
    x.isComplete = true ∧ s.unmarked = x.unmarked := by
  induction h with
  | refl => cases hx
  | mark running paused _ ih => exact ih hx
  | @cycle events s t _ hgoing _ ih =>
    rcases List.mem_append.1 hx with hold | hnew
    · obtain ⟨hcomplete, hsame⟩ := ih hold
      rw [← isComplete_of_unmarked_eq hsame, hgoing] at hcomplete
      cases hcomplete
    · cases List.mem_singleton.1 hnew
  | @finish events s _ hcomplete ih =>
    rcases List.mem_append.1 hx with hold | hnew
    · exact ih hold
    · cases List.mem_singleton.1 hnew
      exact ⟨hcomplete, rfl⟩

/-- A run with time to spare ends in the same state. -/
theorem exists_run (h : Recounted (e.load text).state events s) (hc : s.isComplete = true) {limit : Int}
    (hlimit : s.cycle < limit) : ∃ batch, (e.load text).run limit = .ok batch ∧ s.unmarked = batch.state.unmarked := by
  obtain ⟨plain, -, hsame, hsteps⟩ := h.exists_plain
  have hdone : plain.state.isComplete = true := isComplete_of_unmarked_eq hsame ▸ hc
  have hclock : s.unmarked.cycle = plain.state.unmarked.cycle := congrArg State.cycle hsame
  obtain ⟨u, hrun, hrest⟩ := hsteps.exists_run hdone limit
  have hspare : plain.state.cycle < limit := hclock.symm.trans_lt hlimit
  rw [eq_of_load_run hrun hrest (.inl hspare)] at hrun
  exact ⟨_, Engine.run_state hrun, hsame⟩

end Recounted

namespace Autorun

/-- A watcher that only takes down what it is told. -/
def recorder : Watcher State (List Event) where
  onStep s events := .ok (events ++ [.cycle s])
  onFinish := some fun s events => events ++ [.finish s]

/-- The command is one of the timer, not a call of its engine. -/
def Command.isOfTimer : Command → Bool
  | call _ _ => false
  | _ => true

/-- The command is to let the engine run by itself. -/
def Command.isStart : Command → Bool
  | start => true
  | _ => false

variable {a b : Autorun State (List Event)} {c : Command} {commands : List Command}

/-- Commands of the timer make no more of a program than what is taken down. -/
theorem recounted_perform {begin : State} (h : Recounted begin a.seen a.engine.state) (hc : c.isOfTimer = true)
    (hok : a.perform recorder c = .ok b) : Recounted begin b.seen b.engine.state := by
  cases c with
  | start =>
    rw [← Except.ok.inj hok, start]
    split
    · exact h
    · exact h.mark true false
  | stop =>
    rw [← Except.ok.inj hok]
    show Recounted begin a.cancel.seen _
    rw [seen_cancel]
    exact h.mark false false
  | pause =>
    rw [← Except.ok.inj hok]
    show Recounted begin a.cancel.seen _
    rw [seen_cancel]
    exact h.mark false true
  | setInterval interval =>
    rw [← Except.ok.inj hok, seen_setInterval, engine_setInterval]
    exact h
  | stepOnce =>
    have hstepOnce : a.stepOnce recorder = .ok b := hok
    obtain ⟨-, rfl⟩ | ⟨hgoing, engine, seen, hstep, hseen, rfl⟩ := stepOnce_eq_ok hstepOnce
    · exact h
    · rw [← Except.ok.inj hseen]
      exact h.cycle hgoing (Engine.state_of_step hstep)
  | goOff id =>
    have hgoOff : a.goOff recorder id = .ok b := hok
    unfold goOff at hgoOff
    split at hgoOff
    · obtain ⟨hcomplete, line, rfl⟩ | ⟨hgoing, engine, seen, hstep, hseen, rfl⟩ := tick_eq_ok hgoOff
      · exact (h.mark false false).finish hcomplete
      · rw [← Except.ok.inj hseen]
        exact h.cycle hgoing (Engine.state_of_step hstep)
    · rwa [← Except.ok.inj hgoOff]
  | call call keeps => cases hc

/-! ## Beginnings and ends -/

/-- Nobody is told of a run that its user ends. -/
theorem finishes_mark_cancel (a : Autorun State (List Event)) (paused : Bool) :
    Event.finishes a.cancel.seen + (isRunning { a.cancel with engine := a.engine.mark false paused }).toNat ≤
      Event.finishes a.seen + a.isRunning.toNat := by
  have hidle : isRunning { a.cancel with engine := a.engine.mark false paused } = false := by
    rw [isRunning, alarm_cancel]
    rfl
  rw [hidle, seen_cancel]
  exact Nat.le_add_right _ _

/-- An end takes the run of an alarm, and only a start begins one. -/
theorem finishes_perform (h : a.Armed) (hok : a.perform recorder c = .ok b) :
    Event.finishes b.seen + b.isRunning.toNat ≤
      Event.finishes a.seen + a.isRunning.toNat + c.isStart.toNat := by
  cases c with
  | start =>
    rw [← Except.ok.inj hok, start]
    split
    · exact Nat.le_add_right _ _
    · show Event.finishes a.seen + 1 ≤ Event.finishes a.seen + a.isRunning.toNat + 1
      omega
  | stop =>
    rw [← Except.ok.inj hok]
    exact finishes_mark_cancel a false
  | pause =>
    rw [← Except.ok.inj hok]
    exact finishes_mark_cancel a true
  | setInterval interval =>
    rw [← Except.ok.inj hok, seen_setInterval, isRunning_setInterval]
    exact Nat.le_refl _
  | stepOnce =>
    have hstepOnce : a.stepOnce recorder = .ok b := hok
    obtain ⟨-, rfl⟩ | ⟨hgoing, engine, seen, hstep, hseen, rfl⟩ := stepOnce_eq_ok hstepOnce
    · exact Nat.le_refl _
    · rw [← Except.ok.inj hseen, Event.finishes_cycle]
      exact Nat.le_refl _
  | goOff id =>
    have hgoOff : a.goOff recorder id = .ok b := hok
    unfold goOff at hgoOff
    split at hgoOff
    · rename_i hmem
      have hrunning : a.isRunning = true := by rw [isRunning, h.alarm_of_mem hmem]; rfl
      obtain ⟨hcomplete, line, rfl⟩ | ⟨hgoing, engine, seen, hstep, hseen, rfl⟩ := tick_eq_ok hgoOff
      · show Event.finishes (a.seen ++ [.finish _]) + 0 ≤ _
        rw [Event.finishes_finish, hrunning]
        exact Nat.le_refl _
      · rw [← Except.ok.inj hseen, hrunning]
        show Event.finishes (a.seen ++ [.cycle _]) + 1 ≤ _
        rw [Event.finishes_cycle]
        exact Nat.le_refl _
    · rw [← Except.ok.inj hgoOff]
      exact Nat.le_refl _
  | call call keeps =>
    obtain ⟨engine, -, rfl⟩ := call_eq_ok hok
    exact Nat.le_refl _

/-- As many ends as there are starts, and one more if a run is under way; a run that goes on has not ended. -/
theorem finishes_performAll (h : a.Armed) (hok : performAll recorder commands a = .ok b) :
    Event.finishes b.seen + b.isRunning.toNat ≤
      Event.finishes a.seen + a.isRunning.toNat + commands.countP Command.isStart := by
  induction commands generalizing a with
  | nil =>
    rw [← Except.ok.inj hok]
    exact Nat.le_add_right _ _
  | cons c commands ih =>
    obtain ⟨next, hnext, hrest⟩ := performAll_cons_eq_ok hok
    have hfirst := finishes_perform h hnext
    have hothers := ih (h.perform hnext) hrest
    have hcount : (c :: commands).countP Command.isStart = commands.countP Command.isStart + c.isStart.toNat := by
      rw [List.countP_cons]
      cases c.isStart <;> rfl
    omega

/-! ## Whatever is done -/

/-- **A timer and its engine.** Whatever is done with the timer of a loaded program, in any order: the engine comes to
the state that as many plain cycles as were told of come to, up to the marks; every state that was told of is the one
after as many plain cycles, the last of which was needed; the end is told of when the program is complete, in the state
it stays in, and at most once for each start; and a program that is complete is where a run with time to spare ends. -/
theorem performAll_recorder {e : Engine State} {text : String} {interval : Json}
    (hcommands : ∀ c ∈ commands, c.isOfTimer = true)
    (h : performAll recorder commands { engine := e.load text, interval, seen := [] } = .ok a) :
    (∃ plain, Engine.performAll (.load text :: List.replicate (Event.snapshots a.seen).length .step) e = .ok plain ∧
        a.engine.state.unmarked = plain.state.unmarked) ∧
      (∀ k x, (Event.snapshots a.seen)[k]? = some x →
        ∃ before plain, Engine.performAll (.load text :: List.replicate k .step) e = .ok before ∧
          before.state.isComplete = false ∧
          Engine.performAll (.load text :: List.replicate (k + 1) .step) e = .ok plain ∧
          x.unmarked = plain.state.unmarked) ∧
      (∀ x, .finish x ∈ a.seen → x.isComplete = true ∧ a.engine.state.unmarked = x.unmarked) ∧
      (∀ more b, performAll recorder more a = .ok b →
        Event.finishes b.seen + b.isRunning.toNat ≤
          Event.finishes a.seen + a.isRunning.toNat + more.countP Command.isStart) ∧
      Event.finishes a.seen + a.isRunning.toNat ≤ commands.countP Command.isStart ∧
      (a.engine.state.isComplete = true → ∀ limit : Int, a.engine.state.cycle < limit →
        ∃ batch, Engine.performAll [.load text, .run limit] e = .ok batch ∧
          a.engine.state.unmarked = batch.state.unmarked) := by
  have hfresh : Armed { engine := e.load text, interval, seen := ([] : List Event) } := .idle rfl rfl
  have hrecounted : Recounted (e.load text).state a.seen a.engine.state :=
    performAll_induction (P := fun a => Recounted (e.load text).state a.seen a.engine.state)
      (fun _ _ _ ha hc hb => recounted_perform ha hc hb) hcommands .refl h
  have harmed : a.Armed :=
    performAll_induction (fun _ _ _ ha (_ : True) hb => ha.perform hb) (fun _ _ => trivial) hfresh h
  refine ⟨?_, fun k x hk => hrecounted.exists_plain_of_getElem? hk, fun x hx => hrecounted.of_mem_finish hx,
    fun more b hb => finishes_performAll harmed hb, ?_, ?_⟩
  · obtain ⟨plain, hplain, hsame, -⟩ := hrecounted.exists_plain
    exact ⟨plain, hplain, hsame⟩
  · have hcount := finishes_performAll hfresh h
    simpa [Event.finishes, isRunning] using hcount
  · intro hcomplete limit hlimit
    obtain ⟨batch, hbatch, hsame⟩ := hrecounted.exists_run hcomplete hlimit
    have hrun : (e.load text).perform (.run limit) = .ok batch := hbatch
    have hcalls : Engine.performAll [.run limit] (e.load text) = .ok batch := by
      rw [Engine.performAll, hrun]
      rfl
    exact ⟨batch, hcalls, hsame⟩

/-- The user pauses for a cycle of his own, changes the interval, and starts again; after the end, he starts once
more. -/
theorem performAll_recorder_pause :
    let e : Engine State := { source := .seeded 0, state := { storage := .zero } }
    let text := "ADD R1, R2, R3\nSUB R4, R1, R5"
    let commands : List Command :=
      [.start, .goOff 1, .pause, .stepOnce, .setInterval (.int 100), .start, .goOff 3, .goOff 4, .goOff 5, .goOff 6,
        .goOff 7, .goOff 8, .start, .goOff 9]
    ∃ a batch, performAll recorder commands { engine := e.load text, interval := .int 300, seen := [] } = .ok a ∧
      a.engine.state.isComplete = true ∧ (Event.snapshots a.seen).length = 7 ∧ Event.finishes a.seen = 2 ∧
      Engine.performAll [.load text, .run Engine.defaultLimit] e = .ok batch ∧
      a.engine.state.unmarked = batch.state.unmarked := by
  intro e text commands
  have hok : (performAll recorder commands { engine := e.load text, interval := .int 300, seen := [] }).toOption.any
      (fun a => decide (a.engine.state.isComplete = true ∧ a.engine.state.cycle < Engine.defaultLimit ∧
        (Event.snapshots a.seen).length = 7 ∧ Event.finishes a.seen = 2)) = true := by
    decide +kernel
  obtain ⟨a, ha, hresult⟩ := State.exists_of_any_toOption hok
  obtain ⟨hcomplete, hspare, hlength, hfinishes⟩ := of_decide_eq_true hresult
  obtain ⟨-, -, -, -, -, hbatch⟩ := performAll_recorder (by decide) ha
  obtain ⟨batch, hrun, hsame⟩ := hbatch hcomplete Engine.defaultLimit hspare
  exact ⟨a, batch, ha, hcomplete, hlength, hfinishes, hrun, hsame⟩

end Autorun

end FiveStage
