import FiveStage.AnyState
import FiveStage.Proofs.LooseRuns

/-!
# States in the hands of their users

A user can take the state of an engine into his own hands at any time, and put documents into it. As long as everything
in it is of the kind that belongs there, nobody can tell: calls do the same and are cut short by the same faults, values
that are put into cells, slots and counters arrive there, and the reports say the same.

Main statements:
* `AnyState.Holds.step`, `AnyState.Holds.run`: cycles and runs of a state that was taken;
* `AnyState.Holds.told`: what is told about it;
* `AnyState.Holds.putRegister`, `AnyState.Holds.putWord`, `AnyState.Holds.place`, `AnyState.Holds.assignAll`: what is
  put into it;
* `Engine.Holds.perform`: a call of an engine whose state was taken;
* `Engine.Holds.attemptAll`: all calls, whenever the state is taken between them.
-/

namespace FiveStage

open Loose (outcome)

namespace AnyState

variable {x : AnyState} {s : State}

/-- The state holds what a plain state holds, whichever kind of state it is taken as. -/
def Holds (x : AnyState) (s : State) : Prop :=
  x.loosen = .ofState s

/-- The outcome for a state of either kind if this is the outcome for a plain one. -/
def ofOutcome : Except (Interrupted RegisterName.TooLong State) State → Except (Interrupted Fault AnyState) AnyState
  | .ok t => .ok (plain t)
  | .error i => .error ⟨.register i.fault, plain i.state⟩

theorem ofLoose_ofState (s : State) : ofLoose (.ofState s) = plain s :=
  ofLoose_loosen s

theorem Holds.cases (h : x.Holds s) : x = plain s ∨ x = loose (.ofState s) := by
  cases x with
  | plain t =>
    have hsame := (ofLoose_loosen t).symm.trans (congrArg ofLoose h)
    exact .inl (hsame.trans (ofLoose_ofState s))
  | loose t => exact .inr (congrArg loose h)

/-! ## Cycles and runs -/

theorem Holds.doWork {work : Loose.Work Unit} {o : Except (Interrupted RegisterName.TooLong State) State}
    (h : x.Holds s) (hwork : work.run (.ofState s) = outcome o) : x.doWork work = ofOutcome o := by
  unfold AnyState.doWork
  rw [show x.loosen = .ofState s from h, hwork]
  cases o with
  | ok t => exact congrArg Except.ok (ofLoose_ofState t)
  | error i => simp only [outcome, ofOutcome, ofLoose_ofState]

theorem Holds.edit {change : Loose.State → Loose.State} {t : State} (h : x.Holds s)
    (hchange : change (.ofState s) = .ofState t) : x.edit change = plain t := by
  rw [AnyState.edit, show x.loosen = .ofState s from h, hchange, ofLoose_ofState]

theorem Holds.step (h : x.Holds s) (hs : s.Seated) : x.step = ofOutcome s.step := by
  obtain rfl | rfl := h.cases
  · cases hstep : s.step with
    | ok t => exact step_plain hstep
    | error i =>
      have hcut := (State.step_error_iff s _).2 ⟨_, _, hstep, rfl⟩
      rw [AnyState.step, hcut]
      rfl
  · exact h.doWork (Loose.run_cycle hs)

theorem Holds.run (h : x.Holds s) (hs : s.Seated) (limit : Int) : x.run (.int limit) = ofOutcome (s.run limit) := by
  obtain rfl | rfl := h.cases
  · rw [AnyState.run]
    cases s.run limit <;> rfl
  · exact h.doWork (Loose.run_run hs limit)

/-! ## Other calls -/

theorem Holds.load (h : x.Holds s) (program : List Instruction) : Machine.load program x = plain (s.load program) := by
  obtain rfl | rfl := h.cases
  · rfl
  · refine h.edit ?_
    simp only [Loose.State.load, Loose.State.ofState, State.load, List.map_toArray, List.map_map]
    rfl

theorem Holds.mark (h : x.Holds s) (running paused : Bool) :
    Machine.mark running paused x = plain (s.mark running paused) := by
  obtain rfl | rfl := h.cases
  · rfl
  · exact h.edit rfl

/-- The settings of a user as they are given to a loose state. -/
def settingsOf (settings : Settings) : Loose.Settings where
  forwarding := .bool settings.forwarding
  prediction := .bool settings.prediction
  speed := settings.speed
  stepMode := .bool settings.stepMode

theorem Holds.applySettings (h : x.Holds s) (settings : Settings) :
    x.applySettings (settingsOf settings) = plain (s.applySettings settings) :=
  h.edit rfl

/-! ## What is told -/

theorem Holds.isComplete (h : x.Holds s) : Machine.isComplete x = .ok s.isComplete := by
  obtain rfl | rfl := h.cases
  · rfl
  · show (Loose.State.isComplete _).mapError _ = _
    rw [Loose.isComplete_ofState]
    rfl

/-- **What is told** about a state does not depend on whether somebody has taken it into his own hands. -/
theorem Holds.told (h : x.Holds s) :
    Machine.isComplete x = .ok s.isComplete ∧ Machine.clock x = .int s.cycle ∧ x.account = s.account ∧
      (∀ memory width, x.timingTable memory width = Report.timingTable memory s width) ∧
      x.statistics = Report.statistics s ∧
      ∀ onlyNonzero, x.registers onlyNonzero = Report.registers s onlyNonzero := by
  refine ⟨h.isComplete, congrArg Loose.State.cycle h, ?_⟩
  obtain rfl | rfl := h.cases
  · exact ⟨rfl, fun _ _ => rfl, rfl, fun _ => rfl⟩
  · exact ⟨account_loosen s, fun memory => timingTable_loosen memory s, statistics_loosen s, registers_loosen s⟩

/-! ## What is put into a state -/

theorem putInto_ofCells {n : Nat} (hn : n < Json.placeLimit) (cells : Vector Cell n) (i : Fin n) (value : Int) :
    Loose.putInto (cells.map Loose.Cell.ofCell) (.int i) (.int value) =
      .ok ((cells.set i { cells.get i with value } i.isLt).map Loose.Cell.ofCell) := by
  have hposition := Json.position_ofNat "list" i.isLt (i.isLt.trans hn)
  refine (bind_of_eq_ok hposition _).trans ?_
  rw [dif_pos i.isLt, Vector.map_set, Vector.getElem_map]
  rfl

theorem Holds.putRegister (h : x.Holds s) (r : Fin registerCount) (value : Int) :
    x.doWork (Loose.putRegister (.int r) (.int value)) =
      .ok (plain { s with storage := s.storage.setRegister r value }) := by
  refine h.doWork (o := .ok _) ?_
  refine Loose.run_get_bind ?_
  refine Loose.run_lift_bind (putInto_ofCells (by decide) s.storage.registers r value) ?_
  exact Loose.run_modify s rfl

theorem Holds.putWord (h : x.Holds s) (w : Fin wordCount) (value : Int) :
    x.doWork (Loose.putWord (.int w) (.int value)) = .ok (plain { s with storage := s.storage.setWord w value }) := by
  refine h.doWork (o := .ok _) ?_
  refine Loose.run_get_bind ?_
  refine Loose.run_lift_bind (putInto_ofCells (by decide) s.storage.memory w value) ?_
  exact Loose.run_modify s rfl

/-- The place of an instruction as a document; the missing document stands for none. -/
def placeOf : Option Nat → Json
  | none => .null
  | some index => .int index

theorem stageOf_name (stage : Stage) : Loose.stageOf (.string stage.name) = .ok stage := by
  cases stage <;> rfl

theorem Holds.place (h : x.Holds s) (hs : s.instructions.size ≤ Json.placeLimit) (stage : Stage) (o : Option Nat)
    (ho : ∀ index, o = some index → index < s.instructions.size) :
    x.doWork (Loose.place (.string stage.name) (placeOf o)) =
      .ok (plain { s with pipeline := s.pipeline.set stage o }) := by
  refine h.doWork (o := .ok _) ?_
  let put : Loose.Work Unit := do
    let _ ← (← get).pipeline.use "pipeline" (fun _ => .ok ()) fun _ => .ok ()
    Loose.putSlot (← Loose.stageOf (.string stage.name)) { item := Loose.slotOf o }
  have hput : put.run (.ofState s) = .ok () (.ofState { s with pipeline := s.pipeline.set stage o }) := by
    refine Loose.run_get_bind ?_
    refine Loose.run_lift_bind rfl ?_
    refine Loose.run_lift_bind (stageOf_name stage) ?_
    exact Loose.run_putSlot s stage o
  cases o with
  | none => exact Loose.run_bind rfl hput
  | some index =>
    refine Loose.run_get_bind ?_
    refine Loose.run_lift_bind (a := { item := .own index }) ?_ hput
    exact bind_of_eq_ok (Loose.position_ofState s (ho index rfl) hs) _

end AnyState

namespace State

/-- The state with a document for a counter or a switch, if it is of the kind that belongs there. -/
def assign? (s : State) : String → Json → Option State
  | "current_cycle", .int cycle => some { s with cycle }
  | "pc", .int pc => some { s with pc }
  | "completed_instructions", .int completed => some { s with completed }
  | "stall_cycles", .int stalls => some { s with stalls }
  | "is_running", .bool running => some { s with running }
  | "is_paused", .bool paused => some { s with paused }
  | "forwarding_enabled", .bool forwarding => some { s with forwarding }
  | "branch_prediction_enabled", .bool prediction => some { s with prediction }
  | _, _ => none

/-- The state with documents for some of its counters and switches, one after another. -/
def assignAll? (s : State) (fields : List (String × Json)) : Option State :=
  fields.foldlM (fun s (name, v) => s.assign? name v) s

end State

namespace AnyState

theorem assign_ofState {s t : State} {name : String} {v : Json} (h : s.assign? name v = some t) :
    (Loose.State.ofState s).assign name v = .ok (.ofState t) ∧ name ≠ Loose.ownerName := by
  unfold State.assign? at h
  split at h <;> cases h
  all_goals exact ⟨rfl, by decide⟩

theorem assignEach_ofState {s t : State} {fields : List (String × Json)} (h : s.assignAll? fields = some t) :
    (Loose.State.ofState s).assignEach fields = .ok (.ofState t) ∧ ∀ field ∈ fields, field.1 ≠ Loose.ownerName := by
  induction fields generalizing s with
  | nil => exact ⟨congrArg (Except.ok ∘ Loose.State.ofState) (Option.some.inj h), nofun⟩
  | cons field rest ih =>
    obtain ⟨name, v⟩ := field
    rw [State.assignAll?, List.foldlM_cons] at h
    obtain ⟨u, hu, hrest⟩ := Option.bind_eq_some_iff.1 h
    obtain ⟨hassign, hname⟩ := assign_ofState hu
    obtain ⟨heach, hnames⟩ := ih hrest
    refine ⟨?_, List.forall_mem_cons.2 ⟨hname, hnames⟩⟩
    rw [Loose.State.assignEach, hassign]
    exact heach

/-- Counters and switches that are given values of their own kind have these values. -/
theorem Holds.assignAll {x : AnyState} {s t : State} {fields : List (String × Json)} (h : x.Holds s)
    (ht : s.assignAll? fields = some t) : x.assignAll fields = .ok (plain t) := by
  obtain ⟨heach, hnames⟩ := assignEach_ofState ht
  have hnone : (fields.any (·.1 = Loose.ownerName)) = false := by
    simpa using hnames
  have hall : (Loose.State.ofState s).assignAll fields = .ok (.ofState t) := by
    rw [Loose.State.assignAll, hnone]
    exact heach
  rw [AnyState.assignAll, show x.loosen = .ofState s from h, hall]
  exact congrArg Except.ok (ofLoose_ofState t)

end AnyState

/-! ## Engines -/

namespace Engine

/-- The engines are the same but for the kind of state. -/
structure Holds (e : Engine AnyState) (e' : Engine State) : Prop where
  source : e.source = e'.source
  state : e.state.Holds e'.state
  journal : e.journal = e'.journal

/-- The engine with a plain state. -/
def ofPlain (e : Engine State) : Engine AnyState :=
  { source := e.source, state := .plain e.state, journal := e.journal }

/-- Somebody takes the state of the engine into his own hands. -/
def take (e : Engine AnyState) : Engine AnyState :=
  { e with state := .loose e.state.loosen }

/-- The engine after a call. -/
def performAny (e : Engine AnyState) : Call → Except (Interrupted Fault (Engine AnyState)) (Engine AnyState)
  | .load text => .ok (e.load text)
  | .step => e.step
  | .run limit => do (← e.updateState id (e.state.run (.int limit))).handOut
  | .applySettings settings => .ok { e with state := e.state.applySettings (AnyState.settingsOf settings) }
  | .reset => .ok e.reset

/-- Something that is done with an engine: it is called, or its state is taken. -/
inductive Deed
  | call (call : Call)
  | take

/-- The call, if it is one. -/
def Deed.call? : Deed → Option Call
  | .call c => some c
  | .take => none

/-- The engine after a deed, as far as it got. -/
def attemptAny (e : Engine AnyState) : Deed → Engine AnyState
  | .call c =>
    match e.performAny c with
    | .ok next => next
    | .error i => i.state
  | .take => e.take

/-- The outcome for an engine of either kind of state if this is the outcome for one with a plain state. -/
def ofOutcome : Except (Interrupted Fault (Engine State)) (Engine State) →
    Except (Interrupted Fault (Engine AnyState)) (Engine AnyState)
  | .ok e => .ok e.ofPlain
  | .error i => .error ⟨i.fault, i.state.ofPlain⟩

variable {e : Engine AnyState} {e' : Engine State}

theorem holds_ofPlain (e : Engine State) : e.ofPlain.Holds e := ⟨rfl, rfl, rfl⟩

theorem Holds.take (h : e.Holds e') : e.take.Holds e' := ⟨h.source, h.state, h.journal⟩

/-- **A call.** It makes no difference to a call whether somebody has taken the state of the engine. -/
theorem Holds.perform {call : Call} (h : e.Holds e') (hs : e'.state.Seated) :
    e.performAny call = ofOutcome (e'.perform call) := by
  obtain ⟨source, state, journal⟩ := e
  obtain ⟨source', state', journal'⟩ := e'
  obtain ⟨rfl, hstate, rfl⟩ := h
  dsimp only at hstate hs
  cases call with
  | load text =>
    simp only [performAny, perform, ofOutcome, load, hstate.load]
    rfl
  | step =>
    have hany : Machine.step state = AnyState.ofOutcome state'.step := hstate.step hs
    have hplain : Machine.step state' = state'.step.mapError fun e => ⟨.register e.fault, e.state⟩ := rfl
    simp only [performAny, perform, Engine.step, hany, hplain]
    cases state'.step <;> rfl
  | run limit =>
    simp only [performAny, perform, Engine.run, hstate.run hs]
    cases state'.run limit <;> rfl
  | applySettings settings =>
    simp only [performAny, perform, ofOutcome, hstate.applySettings]
    rfl
  | reset => rfl

theorem Holds.attempt {call : Call} (h : e.Holds e') (hs : e'.state.Seated) :
    (e.attemptAny (.call call)).Holds (e'.attempt call) := by
  rw [attemptAny, h.perform hs, Engine.attempt]
  cases e'.perform call with
  | ok next => exact holds_ofPlain next
  | error i => exact holds_ofPlain i.state

/-- **Taking the state.** Whatever calls are made, also if some of them are cut short, it makes no difference whether
and when somebody takes the state of the engine into his own hands. -/
theorem Holds.attemptAll {deeds : List Deed} (h : e.Holds e') (hs : e'.state.Seated)
    (hfits : ∀ call ∈ deeds.filterMap Deed.call?, call.Fits) :
    (deeds.foldl attemptAny e).Holds (attemptAll (deeds.filterMap Deed.call?) e') := by
  induction deeds generalizing e e' with
  | nil => exact h
  | cons deed rest ih =>
    cases deed with
    | take => exact ih h.take hs hfits
    | call call =>
      obtain ⟨hcall, hrest⟩ := List.forall_mem_cons.1 hfits
      exact ih (h.attempt hs) (seated_attempt hs hcall) hrest

end Engine

end FiveStage
