import FiveStage.Proofs.Runs

/-!
# Calls

What a user does with an engine, as a list of calls that are made one after the other. The first one that is cut short
ends the list, or the user goes on with what it has left.

Main statements:
* `performAll_induction`: what every call keeps, a list of calls keeps;
* `performAll_state_induction`: so does what loading, cycles, settings and new storage keep;
* `attempt_state_induction`: so it is if calls are cut short and cycles keep it nevertheless;
* `attemptAll_of_performAll`: it makes no difference to go on if no call is cut short;
* `reachable_of_performAll`: what calls make of a new engine is reachable.
-/

namespace FiveStage.Engine

/-- Something that a user does with an engine. -/
inductive Call
  | load (text : String)
  | step
  | run (limit : Int)
  | applySettings (settings : Settings)
  | reset

/-- The call goes on with the program that is loaded. -/
def Call.continues : Call → Bool
  | load _ | reset => false
  | step | run _ | applySettings _ => true

/-- The engine after a call. -/
def perform (e : Engine State) : Call → Except (Interrupted Fault (Engine State)) (Engine State)
  | .load text => .ok (e.load text)
  | .step => e.step
  | .run limit => e.run limit
  | .applySettings settings => .ok (e.applySettings settings)
  | .reset => .ok e.reset

/-- The engine after a list of calls. -/
def performAll : List Call → Engine State → Except (Interrupted Fault (Engine State)) (Engine State)
  | [], e => .ok e
  | call :: calls, e =>
    match e.perform call with
    | .ok next => performAll calls next
    | .error fault => .error fault

/-- The engine after a call, as far as the call got. -/
def attempt (e : Engine State) (call : Call) : Engine State :=
  match e.perform call with
  | .ok next => next
  | .error i => i.state

/-- The engine after a list of calls, each of which is made also if the ones before it were cut short. -/
def attemptAll (calls : List Call) (e : Engine State) : Engine State :=
  calls.foldl attempt e

variable {e e' : Engine State} {calls : List Call}

theorem performAll_cons_eq_ok {call : Call} (h : performAll (call :: calls) e = .ok e') :
    ∃ next, e.perform call = .ok next ∧ performAll calls next = .ok e' := by
  rw [performAll] at h
  split at h
  · rename_i next hnext
    exact ⟨next, hnext, h⟩
  · cases h

/-- One list of calls after another. -/
theorem performAll_append {rest : List Call} (h : performAll calls e = .ok e') :
    performAll (calls ++ rest) e = performAll rest e' := by
  induction calls generalizing e with
  | nil => rw [← Except.ok.inj h, List.nil_append]
  | cons call calls ih =>
    obtain ⟨next, hnext, hcalls⟩ := performAll_cons_eq_ok h
    rw [List.cons_append, performAll, hnext]
    exact ih hcalls

/-- Calls that are not cut short do what they do. -/
theorem attemptAll_of_performAll (h : performAll calls e = .ok e') : attemptAll calls e = e' := by
  induction calls generalizing e with
  | nil => exact Except.ok.inj h
  | cons call calls ih =>
    obtain ⟨next, hnext, hrest⟩ := performAll_cons_eq_ok h
    rw [attemptAll, List.foldl_cons, attempt, hnext]
    exact ih hrest

/-- What every call keeps, a list of calls keeps. -/
theorem performAll_induction {P : Engine State → Prop}
    (hperform : ∀ e call next, P e → e.perform call = .ok next → P next) (he : P e)
    (h : performAll calls e = .ok e') : P e' := by
  induction calls generalizing e with
  | nil => rwa [← Except.ok.inj h]
  | cons call calls ih =>
    obtain ⟨next, hnext, hrest⟩ := performAll_cons_eq_ok h
    exact ih (hperform e call next he hnext) hrest

/-- What every cycle keeps, a run of cycles keeps; so this goes for states as well. -/
theorem performAll_state_induction {P : State → Prop}
    (hreset : ∀ source : Storage.Source, P { storage := source.storage })
    (hload : ∀ s text, P s → P (s.load (Program.parse text).instructions))
    (hstep : ∀ s t, P s → s.step = .ok t → P t) (hsettings : ∀ s settings, P s → P (s.applySettings settings))
    (he : P e.state) (h : performAll calls e = .ok e') : P e'.state := by
  refine performAll_induction (P := fun e => P e.state) ?_ he h
  intro e call next he hok
  cases call with
  | load text =>
    rw [← Except.ok.inj hok]
    exact hload _ text he
  | step => exact hstep _ _ he (state_of_step hok)
  | run limit => exact State.run_induction hstep he (state_of_run hok)
  | applySettings settings =>
    rw [← Except.ok.inj hok]
    exact hsettings _ settings he
  | reset =>
    rw [← Except.ok.inj hok]
    exact hreset _

/-- What every cycle keeps, also one that is cut short, a call keeps, also if it is cut short. -/
theorem attempt_state_induction {P : State → Prop} {call : Call}
    (hreset : ∀ source : Storage.Source, P { storage := source.storage })
    (hload : ∀ s text, call = .load text → P s → P (s.load (Program.parse text).instructions))
    (hstep : ∀ s t, P s → s.step = .ok t → P t) (herror : ∀ s i, P s → s.step = .error i → P i.state)
    (hsettings : ∀ s settings, P s → P (s.applySettings settings)) (he : P e.state) : P (e.attempt call).state := by
  unfold attempt
  split
  · rename_i next hnext
    cases call with
    | load text =>
      rw [← Except.ok.inj hnext]
      exact hload _ text rfl he
    | step => exact hstep _ _ he (state_of_step hnext)
    | run limit => exact State.run_induction hstep he (state_of_run hnext)
    | applySettings settings =>
      rw [← Except.ok.inj hnext]
      exact hsettings _ settings he
    | reset =>
      rw [← Except.ok.inj hnext]
      exact hreset _
  · rename_i i hi
    cases call with
    | load text => cases hi
    | step =>
      obtain ⟨cause, hcut⟩ := state_of_step_error hi
      exact herror _ _ he hcut
    | run limit =>
      obtain ⟨cause, hcut⟩ := state_of_run_error hi
      exact State.run_error_induction (Q := fun i => P i.state) hstep herror he hcut
    | applySettings settings => cases hi
    | reset => cases hi

theorem Reachable.perform {call : Call} (h : Reachable e) (hok : e.perform call = .ok e') : Reachable e' := by
  cases call with
  | load text =>
    rw [← Except.ok.inj hok]
    exact h.load text
  | step => exact h.step hok
  | run limit => exact h.run limit hok
  | applySettings settings =>
    rw [← Except.ok.inj hok]
    exact h.applySettings settings
  | reset =>
    rw [← Except.ok.inj hok]
    exact h.reset

/-- What calls make of a new engine is reachable. -/
theorem reachable_of_performAll {source : Storage.Source} {storage : Storage}
    (h : performAll calls { source, state := { storage } } = .ok e) : Reachable e :=
  performAll_induction (P := Reachable) (fun _ _ _ he hok => he.perform hok) (.fresh source storage) h

end FiveStage.Engine
