import FiveStage.Proofs.Calls
import FiveStage.Proofs.Refinement

/-!
# Programs one after another

A program that is loaded finds the storage as the one before has left it. Whether two programs are run one after the
other or as one text, the same instructions are executed in the same order, and this is all that a complete run depends
on: the addresses and labels that an instruction has at another place do nothing, and what overlaps in the pipeline
where the two programs meet does not show in the values.

Main statements:
* `Program.actions_parse_append`: at a line feed, the instructions of a text are those of its two sides;
* `Values.run_congr`: what a program does depends on what its instructions do, and not on where they stand;
* `Engine.values_of_performAll`: what is left by a complete run, whatever it was interrupted by;
* `Engine.performAll_append_text`: two programs do the same apart and together.
-/

namespace FiveStage

/-- What an instruction does wherever it stands: its opcode and operands. -/
def Instruction.action (i : Instruction) : Opcode × List String :=
  (i.opcode, i.operands)

namespace Program

/-! ## The text of two programs -/

/-- What the instruction of a line does, if the line is one. -/
def actionOf? (line : List Char) : Option (Opcode × List String) :=
  (parseLine line baseAddress "").toOption.map Instruction.action

/-- The address and the label make no difference. -/
theorem action_parseLine (line : List Char) (pc : Int) (id : String) :
    (parseLine line pc id).toOption.map Instruction.action = actionOf? line := by
  unfold actionOf? parseLine
  dsimp only
  split
  · rfl
  · split <;> rfl

theorem actions_parseLines (before : Nat) (pc : Int) (ls : List (List Char)) :
    (parseLines before pc ls).instructions.map Instruction.action = ls.filterMap actionOf? := by
  induction ls generalizing before pc with
  | nil => rfl
  | cons line rest ih =>
    rw [parseLines, List.filterMap_cons, ← action_parseLine line pc (toString before)]
    cases parseLine line pc (toString before) with
    | error e => exact ih (before + 1) pc
    | ok i => exact congrArg _ (ih (before + 1) (pc + wordSize))

/-- At a line feed, the instructions of a text are those of its two sides. -/
theorem actions_parse_append (a b : String) :
    (parse (a ++ "\n" ++ b)).instructions.map Instruction.action =
      ((parse a).instructions ++ (parse b).instructions).map Instruction.action := by
  have hseam : (a ++ "\n" ++ b).toList = a.toList ++ '\n' :: b.toList := by simp
  rw [List.map_append, parse, parse, parse, actions_parseLines, actions_parseLines, actions_parseLines, hseam,
    sourceLines_append, List.filterMap_append]

end Program

/-! ## What a program does -/

namespace Values

theorem execute_congr {i j : Instruction} (h : i.action = j.action) (v : Values) : v.execute i = v.execute j := by
  obtain ⟨hopcode, hoperands⟩ := Prod.mk.inj h
  have hregister : register? i = register? j := by
    funext position
    rw [register?, register?, hoperands]
  have hsource : v.source i = v.source j := by
    funext position
    rw [source, source, hregister]
  have haddress : v.address i = v.address j := by
    rw [address, address, hsource, hoperands]
  rw [execute, execute, hopcode, hregister, hsource, haddress]

/-- What a program does depends on what its instructions do, and not on where they stand. -/
theorem run_congr {program other : List Instruction} (h : program.map Instruction.action = other.map Instruction.action)
    (v : Values) : v.run program = v.run other := by
  induction program generalizing other v with
  | nil =>
    obtain rfl := List.map_eq_nil_iff.1 h.symm
    rfl
  | cons i program ih =>
    obtain ⟨j, rest, rfl, haction, hrest⟩ := List.map_eq_cons_iff.1 h.symm
    show (v.execute i).run program = (v.execute j).run rest
    rw [execute_congr haction.symm, ih hrest.symm]

end Values

/-! ## Runs one after another -/

namespace Engine

open State

variable {e e' : Engine State} {calls : List Call}

theorem proceeds_perform {start : State} {call : Call} (h : start.Proceeds e.state) (hcall : call.continues = true)
    (hok : e.perform call = .ok e') : start.Proceeds e'.state := by
  cases call with
  | load text => cases hcall
  | reset => cases hcall
  | step => exact h.step (state_of_step hok)
  | run limit => exact h.run (state_of_run hok)
  | applySettings settings =>
    rw [← Except.ok.inj hok]
    exact h.applySettings settings

theorem proceeds_performAll {start : State} (h : start.Proceeds e.state)
    (hcalls : ∀ call ∈ calls, call.continues = true) (hok : performAll calls e = .ok e') :
    start.Proceeds e'.state := by
  induction calls generalizing e with
  | nil => rwa [← Except.ok.inj hok]
  | cons call calls ih =>
    obtain ⟨next, hnext, hrest⟩ := performAll_cons_eq_ok hok
    obtain ⟨hcall, hcalls⟩ := List.forall_mem_cons.1 hcalls
    exact ih (proceeds_perform h hcall hnext) hcalls hrest

/-- However a program is run that is loaded, once it is complete it has done what it does. -/
theorem values_of_performAll {text : String} (hcalls : ∀ call ∈ calls, call.continues = true)
    (hok : performAll (.load text :: calls) e = .ok e') (hc : e'.state.isComplete = true) :
    Values.ofStorage e'.state.storage = (Values.ofStorage e.state.storage).run (Program.parse text).instructions := by
  have hproceeds : (e.state.load (Program.parse text).instructions).Proceeds e'.state :=
    proceeds_performAll (e := e.load text) .refl hcalls hok
  exact hproceeds.values_of_isComplete hc

/-- **Programs compose.** A program is loaded into an engine and run until it is complete, and then another one.
Whatever the settings are meanwhile, this leaves the values that are left by both programs as one text, with a line feed
between them, if it is loaded on the same storage and run until it is complete. -/
theorem performAll_append_text {a b : String} {other first second joined : Engine State}
    {callsA callsB callsJoined : List Call}
    (hcalls : ∀ call ∈ callsA ++ callsB ++ callsJoined, call.continues = true)
    (hfirst : performAll (.load a :: callsA) e = .ok first) (hfirst' : first.state.isComplete = true)
    (hsecond : performAll (.load b :: callsB) first = .ok second) (hsecond' : second.state.isComplete = true)
    (hsame : other.state.storage = e.state.storage)
    (hjoined : performAll (.load (a ++ "\n" ++ b) :: callsJoined) other = .ok joined)
    (hjoined' : joined.state.isComplete = true) :
    second.state.storage.register = joined.state.storage.register ∧
      second.state.storage.word = joined.state.storage.word := by
  simp only [List.forall_mem_append] at hcalls
  obtain ⟨⟨hcallsA, hcallsB⟩, hcallsJoined⟩ := hcalls
  have hvalues : Values.ofStorage second.state.storage = Values.ofStorage joined.state.storage := by
    let v := Values.ofStorage e.state.storage
    calc Values.ofStorage second.state.storage
      _ = (Values.ofStorage first.state.storage).run (Program.parse b).instructions :=
        values_of_performAll hcallsB hsecond hsecond'
      _ = (v.run (Program.parse a).instructions).run (Program.parse b).instructions := by
        rw [values_of_performAll hcallsA hfirst hfirst']
      _ = v.run (Program.parse (a ++ "\n" ++ b)).instructions := by
        rw [← Values.run_append, Values.run_congr (Program.actions_parse_append a b)]
      _ = Values.ofStorage joined.state.storage := by
        rw [values_of_performAll hcallsJoined hjoined hjoined', hsame]
  exact ⟨congrArg Values.registers hvalues, congrArg Values.words hvalues⟩

/-- A word is loaded at the end of the first program, and used at the beginning of the second. As one text, the second
instruction has to wait. -/
theorem performAll_append_text_load_use :
    let storage := (Storage.zero.setRegister 2 memoryBase).setWord 0 21
    let e : Engine State := { source := .seeded 0, state := { storage } }
    let a := "LW R1, 0(R2)"
    let b := "ADD R3, R1, R1\nSW R3, 4(R2)"
    let callsB : List Call := [.applySettings { forwarding := false }, .step, .run 100]
    ∃ first second joined, performAll [.load a, .run 100] e = .ok first ∧
      performAll (.load b :: callsB) first = .ok second ∧
      performAll [.load (a ++ "\n" ++ b), .run 100] e = .ok joined ∧ joined.state.log.any (·.stalled) = true ∧
      joined.state.storage.word 1 = 42 ∧ second.state.storage.word = joined.state.storage.word := by
  intro storage e a b callsB
  have hsplit : (performAll [.load a, .run 100] e).toOption.any (fun first => first.state.isComplete &&
      (performAll (.load b :: callsB) first).toOption.any fun second => second.state.isComplete) = true := by
    decide +kernel
  have hwhole : (performAll [.load (a ++ "\n" ++ b), .run 100] e).toOption.any (fun joined =>
      joined.state.isComplete &&
        decide (joined.state.log.any (·.stalled) = true ∧ joined.state.storage.word 1 = 42)) = true := by
    decide +kernel
  obtain ⟨first, hfirst, hrest⟩ := exists_of_any_toOption hsplit
  rw [Bool.and_eq_true] at hrest
  obtain ⟨hfirst', hrest⟩ := hrest
  obtain ⟨second, hsecond, hsecond'⟩ := exists_of_any_toOption hrest
  obtain ⟨joined, hjoined, hresult⟩ := exists_of_any_toOption hwhole
  rw [Bool.and_eq_true, decide_eq_true_eq] at hresult
  obtain ⟨hjoined', hstalled, hword⟩ := hresult
  have hsame :=
    performAll_append_text (by simp [callsB, Call.continues]) hfirst hfirst' hsecond hsecond' rfl hjoined hjoined'
  exact ⟨first, second, joined, hfirst, hsecond, hjoined, hstalled, hword, hsame.2⟩

end Engine

end FiveStage
