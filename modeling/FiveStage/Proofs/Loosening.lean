import FiveStage.Loose.Strict
import FiveStage.Proofs.Seats

/-!
# Plain states under the stages of loose cycles

Each stage of a loose cycle does to a plain state that is taken as a loose one what the stage of the plain machine does,
as long as occupied slots name instructions of the program. Work that only reads comes to the answer of the plain state.

Main statements:
* `does_retire`, `does_access`: an instruction does the same to registers and memory;
* `does_writeBack`, `does_memoryAccess`: the stages that a register which cannot be named cuts short;
* `run_execute`, `run_decode`, `run_issue`, `run_fetch`: the other ones;
* `run_age`, `run_record`: the end of a cycle.
-/

namespace FiveStage.Loose

/-! ## Work on a plain state -/

section Work

variable {α β : Type} {x : Work α} {f : α → Work β} {s t : State} {a : α} {fault : Fault}
  {r : EStateM.Result Fault State β}

/-- Work that has come to an end goes on with what follows. -/
theorem run_bind (h : x.run s = .ok a t) (hf : (f a).run t = r) : (x >>= f).run s = r := by
  rw [EStateM.run_bind, h]
  exact hf

/-- Work that was cut short does not go on. -/
theorem run_bind_of_error (h : x.run s = .error fault t) : (x >>= f).run s = .error fault t := by
  rw [EStateM.run_bind, h]

/-- The state is asked for. -/
theorem run_get_bind {f : State → Work β} (hf : (f s).run s = r) : ((get : Work State) >>= f).run s = r :=
  hf

/-- What is no misuse is no work. -/
theorem run_lift_bind {y : Except Misuse α} (h : y = .ok a) (hf : (f a).run s = r) :
    ((liftM y : Work α) >>= f).run s = r := by
  subst h
  exact hf

end Work

/-- Work that only reads what a plain state holds comes to this for what the plain state answers. -/
def Reads {α β : Type} (s : FiveStage.State) (x : Work α) (f : β → α) (answer : Except RegisterName.TooLong β) : Prop :=
  x.run (.ofState s) =
    match answer with
    | .ok b => .ok (f b) (.ofState s)
    | .error cause => .error (.register cause) (.ofState s)

/-- Work comes to this state for what a plain state comes to; if a register cannot be named it has changed nothing. -/
def Does {β : Type} (s : FiveStage.State) (x : Work Unit) (f : β → FiveStage.State)
    (next : Except RegisterName.TooLong β) : Prop :=
  x.run (.ofState s) =
    match next with
    | .ok b => .ok () (.ofState (f b))
    | .error cause => .error (.register cause) (.ofState s)

section Reads

variable {α β : Type} {s : FiveStage.State} {x : Work α} {y : Work Unit} {f : β → α} {g : β → FiveStage.State}
  {answer : Except RegisterName.TooLong β} {b : β} {cause : RegisterName.TooLong}

theorem Reads.run_ok (h : Reads s x f answer) (hb : answer = .ok b) : x.run (.ofState s) = .ok (f b) (.ofState s) := by
  subst hb
  exact h

theorem Reads.run_error (h : Reads s x f answer) (hc : answer = .error cause) :
    x.run (.ofState s) = .error (.register cause) (.ofState s) := by
  subst hc
  exact h

theorem Does.run_ok (h : Does s y g answer) (hb : answer = .ok b) : y.run (.ofState s) = .ok () (.ofState (g b)) := by
  subst hb
  exact h

theorem Does.run_error (h : Does s y g answer) (hc : answer = .error cause) :
    y.run (.ofState s) = .error (.register cause) (.ofState s) := by
  subst hc
  exact h

theorem reads_registerOf (s : FiveStage.State) (operand : String) :
    Reads s (liftM (registerOf operand)) (fun r? => r?) (registerOf operand) := by
  unfold Reads
  cases registerOf operand <;> rfl

end Reads

/-! ## The datapath -/

section Datapath

variable (s : FiveStage.State)

theorem get_ofCells {n : Nat} (cells : Vector FiveStage.Cell n) (i : Fin n) :
    (cells.map Cell.ofCell).get i = .ofCell (cells.get i) :=
  Vector.getElem_map ..

theorem register_ofState (r : Fin registerCount) :
    (State.ofState s).register r = .ok (.own (.ofCell (s.storage.registers.get r))) := by
  rw [← get_ofCells]
  rfl

theorem reads_operandValue (o : Option String) : Reads s (operandValue o) .int (s.storage.operandValue o) := by
  cases o with
  | none => rfl
  | some operand =>
    have h := reads_registerOf s operand
    simp only [Reads, Storage.operandValue]
    cases hr : registerOf operand with
    | error cause => exact run_bind_of_error (h.run_error hr)
    | ok r? =>
      refine run_bind (h.run_ok hr) ?_
      cases r? with
      | none => rfl
      | some r =>
        refine run_get_bind ?_
        exact run_lift_bind (register_ofState s r) rfl

theorem reads_dataAddress (i : Instruction) : Reads s (dataAddress i) .int (s.storage.dataAddress i) := by
  have h := reads_operandValue s i.operands[2]?
  simp only [Reads, Storage.dataAddress]
  cases hbase : s.storage.operandValue i.operands[2]? with
  | error cause => exact run_bind_of_error (h.run_error hbase)
  | ok base => exact run_bind (h.run_ok hbase) rfl

theorem wordIn_own (cells : Vector FiveStage.Cell wordCount) (a : Int) (ws : List (Fin wordCount)) :
    wordIn (.int a) (ws.map fun w => .own (w, (cells.map Cell.ofCell).get w)) =
      .ok ((ws.find? fun w => address w = a).map fun w => (w, .ofCell (cells.get w))) := by
  induction ws with
  | nil => rfl
  | cons w rest ih =>
    rw [List.map_cons, wordIn, List.find?_cons]
    refine (bind_of_eq_ok rfl _).trans ?_
    dsimp only
    rw [Json.same_int]
    cases decide (address w = a) with
    | true => exact congrArg (fun cell => Except.ok (some (w, cell))) (get_ofCells cells w)
    | false => exact ih

theorem findWord_ofState (a : Int) :
    (State.ofState s).findWord (.int a) =
      .ok ((wordAt? a).map fun w => (w, .ofCell (s.storage.memory.get w))) :=
  wordIn_own s.storage.memory a (List.finRange wordCount)

theorem combine_int (op : Opcode) (m n : Int) : combine op (.int m) (.int n) = .ok (.int (Storage.combine op m n)) := by
  cases op <;> rfl

theorem reads_result (i : Instruction) : Reads s (result i) .int (s.storage.result i) := by
  unfold result Storage.result
  cases i.opcode.semantics.kind with
  | alu =>
    have hx := reads_operandValue s i.operands[1]?
    have hy := reads_operandValue s i.operands[2]?
    cases h : s.storage.operandValue i.operands[1]? with
    | error cause => exact run_bind_of_error (hx.run_error h)
    | ok x =>
      refine run_bind (hx.run_ok h) ?_
      cases h : s.storage.operandValue i.operands[2]? with
      | error cause => exact run_bind_of_error (hy.run_error h)
      | ok y =>
        refine run_bind (hy.run_ok h) ?_
        rw [combine_int]
        rfl
  | load =>
    have ha := reads_dataAddress s i
    cases h : s.storage.dataAddress i with
    | error cause => exact run_bind_of_error (ha.run_error h)
    | ok a =>
      refine run_bind (ha.run_ok h) ?_
      refine run_get_bind ?_
      refine run_lift_bind (findWord_ofState s a) ?_
      simp only [Except.map, Storage.word]
      cases wordAt? a <;> rfl
  | _ => rfl

theorem putRegister_ofState (r : Fin registerCount) (c : FiveStage.Cell) :
    (State.ofState s).putRegister r (.ofCell c) =
      .ofState { s with storage := { s.storage with registers := s.storage.registers.set r c r.isLt } } := by
  simp only [State.putRegister, State.ofState, Vector.map_set]

theorem putWord_ofState (w : Fin wordCount) (c : FiveStage.Cell) :
    (State.ofState s).putWord w (.ofCell c) =
      .ofState { s with storage := { s.storage with memory := s.storage.memory.set w c w.isLt } } := by
  simp only [State.putWord, State.ofState, Vector.map_set]

theorem does_retire (i : Instruction) :
    Does s (retire i) (fun storage => { s with storage }) (s.storage.retire i s.cycle) := by
  unfold retire
  cases hw : i.writes with
  | nil =>
    rw [Storage.retire_of_no_writes hw]
    rfl
  | cons operand rest =>
    have hd : Storage.destination i = (registerOf operand).map fun r? => r?.filter (0 < ·.val) := by
      rw [Storage.destination, hw]
    have h := reads_registerOf s operand
    rw [Storage.retire, hd]
    cases hr : registerOf operand with
    | error cause => exact run_bind_of_error (h.run_error hr)
    | ok r? =>
      refine run_bind (h.run_ok hr) ?_
      simp only [Except.map, bind, Except.bind]
      cases r?.filter (0 < ·.val) with
      | none => rfl
      | some r =>
        have hvalue := reads_result s i
        refine run_get_bind ?_
        refine run_lift_bind (register_ofState s r) ?_
        cases hv : s.storage.result i with
        | error cause => exact run_bind_of_error (hvalue.run_error hv)
        | ok value =>
          refine run_bind (hvalue.run_ok hv) ?_
          refine run_lift_bind rfl ?_
          exact congrArg (EStateM.Result.ok ()) (putRegister_ofState s r (.write value s.cycle))

theorem does_access (i : Instruction) :
    Does s (access i) (fun storage => { s with storage }) (s.storage.access i s.cycle) := by
  unfold access Storage.access
  split
  · have ha := reads_dataAddress s i
    cases h : s.storage.dataAddress i with
    | error cause => exact run_bind_of_error (ha.run_error h)
    | ok a =>
      refine run_bind (ha.run_ok h) ?_
      refine run_get_bind ?_
      refine run_lift_bind (findWord_ofState s a) ?_
      simp only [bind, Except.bind]
      cases wordAt? a with
      | none => rfl
      | some w =>
        have hvalue := reads_operandValue s i.operands[0]?
        cases hv : s.storage.operandValue i.operands[0]? with
        | error cause => exact run_bind_of_error (hvalue.run_error hv)
        | ok value =>
          refine run_bind (hvalue.run_ok hv) ?_
          exact congrArg (EStateM.Result.ok ()) (putWord_ofState s w (.write value s.cycle))
  · rfl

end Datapath

/-! ## The slots -/

section Slots

variable (s : FiveStage.State)

theorem put_slotsOfPipeline (p : Pipeline Nat) (stage : Stage) (o : Option Nat) :
    (slotsOfPipeline p).put (.stage stage) { item := slotOf o } = slotsOfPipeline (p.set stage o) := by
  cases stage <;> rfl

theorem get?_slotsOfPipeline (p : Pipeline Nat) (stage : Stage) :
    (slotsOfPipeline p).get? stage = some { item := slotOf (p.get stage) } := by
  cases stage <;> rfl

theorem get_slotsOfPipeline (p : Pipeline Nat) (stage : Stage) :
    (slotsOfPipeline p).get stage = { item := slotOf (p.get stage) } := by
  rw [Slots.get, get?_slotsOfPipeline]
  rfl

theorem isEmpty_slotOf (o : Option Nat) : (slotOf o).isEmpty = o.isNone := by
  cases o <;> rfl

theorem run_modify {f : State → State} {t : FiveStage.State} (h : f (.ofState s) = .ofState t) :
    (modify f : Work Unit).run (.ofState s) = .ok () (.ofState t) := by
  rw [← h]
  rfl

theorem run_slot (stage : Stage) :
    (slot stage).run (.ofState s) = .ok { item := slotOf (s.pipeline.get stage) } (.ofState s) :=
  run_slot_own rfl (get?_slotsOfPipeline s.pipeline stage)

theorem run_putSlot (stage : Stage) (o : Option Nat) :
    (putSlot stage { item := slotOf o }).run (.ofState s) =
      .ok () (.ofState { s with pipeline := s.pipeline.set stage o }) := by
  refine run_get_bind ?_
  refine run_lift_bind (a := slotsOfPipeline s.pipeline) rfl ?_
  refine run_modify s ?_
  simp only [State.ofState, put_slotsOfPipeline]

theorem map_modify {α β : Type} {f : α → β} {g : α → α} {h : β → β} (hcomm : ∀ a, h (f a) = f (g a)) (xs : Array α)
    (i : Nat) : (xs.map f).modify i h = (xs.modify i g).map f := by
  apply Array.ext_getElem?
  intro j
  simp only [Array.getElem?_map, Array.getElem?_modify]
  split
  · cases xs[j]? <;> simp [hcomm]
  · rfl

theorem run_track_ofState (i : Nat) {f : Tracked → Tracked} {g : FiveStage.Tracked → FiveStage.Tracked}
    (h : ∀ x, f (.ofTracked x) = .ofTracked (g x)) :
    (track i f).run (.ofState s) = .ok () (.ofState (s.track i g)) := by
  refine run_modify s ?_
  simp only [State.ofState, FiveStage.State.track, map_modify h]

theorem run_move {a : Stage} {i : Nat} (ha : s.pipeline.get a = some i) (b : Stage) :
    (move a b).run (.ofState s) = .ok () (.ofState (s.move a b)) := by
  refine run_bind (run_slot s a) ?_
  refine run_bind (run_putSlot s b _) ?_
  refine run_bind (run_putSlot _ a none) ?_
  rw [FiveStage.State.move, ha]
  exact run_track_ofState _ i fun x => rfl

/-- The instruction at a place, without the cycle of its fetch. -/
def unclocked (i : Placed) : Placed :=
  { i with fetched := 0 }

theorem placed?_ofState (index : Nat) : (State.ofState s).placed? index = (s.placed? index).map unclocked := by
  simp only [State.placed?, FiveStage.State.placed?, State.ofState, Array.getElem?_map, Option.map_map]
  rfl

theorem total_ofState : (State.ofState s).total = .ok s.instructions.size :=
  congrArg Except.ok Array.size_map

/-- An instruction of a program that is no longer than lists can be is found at its place. -/
theorem position_ofState {index : Nat} (hindex : index < s.instructions.size)
    (hs : s.instructions.size ≤ Json.placeLimit) :
    Json.position "list" (State.ofState s).tracked.size (.int index) = .ok index := by
  rw [show (State.ofState s).tracked.size = s.instructions.size from Array.size_map]
  exact Json.position_ofNat "list" hindex (hindex.trans_le hs)

theorem instructionIn_ofState (name : String) (o : Option Nat) :
    (State.ofState s).instructionIn name (slotOf o) = .ok ((o.bind s.placed?).map unclocked) := by
  cases o with
  | none => rfl
  | some index => exact congrArg Except.ok (placed?_ofState s index)

end Slots

/-! ## Hazards

A hazard is found without a clock and gets the cycle in which it was noticed afterwards. -/

theorem map_ofHazard_between (consumer producer : Instruction) (forwarding : Bool) (noticed cycle : Int) :
    (FiveStage.Hazard.between consumer producer forwarding cycle).map Hazard.ofHazard =
      (FiveStage.Hazard.between consumer producer forwarding noticed).map (Hazard.at · (.int cycle)) := by
  simp only [FiveStage.Hazard.between, FiveStage.Hazard.pairs, List.map_append, List.map_flatMap, List.map_map]
  rfl

theorem map_ofHazard_dataHazards (i : Placed) {p q : Pipeline Placed} (forwarding : Bool) (cycle : Int)
    (h : ∀ stage ∈ FiveStage.Hazard.comparedStages, q.get stage = (p.get stage).map unclocked) :
    (FiveStage.Hazard.dataHazards i p forwarding (some cycle)).map Hazard.ofHazard =
      (FiveStage.Hazard.dataHazards (unclocked i) q forwarding none).map (Hazard.at · (.int cycle)) := by
  simp only [FiveStage.Hazard.dataHazards, List.map_flatMap]
  refine List.flatMap_congr fun stage hstage => ?_
  unfold FiveStage.Hazard.against
  rw [h stage hstage]
  cases p.get stage with
  | none => rfl
  | some producer =>
    show List.map _ (if producer.index = i.index then [] else _) =
      List.map _ (if producer.index = i.index then [] else _)
    split
    · rfl
    · exact map_ofHazard_between ..

theorem map_ofHazard_controlHazards (i : Placed) (prediction : Bool) (cycle : Int) :
    (FiveStage.Hazard.controlHazards i prediction (some cycle)).map Hazard.ofHazard =
      (FiveStage.Hazard.controlHazards (unclocked i) prediction none).map (Hazard.at · (.int cycle)) := by
  unfold FiveStage.Hazard.controlHazards
  show List.map _ (if i.code.opcode.isControl = true then _ else _) =
    List.map _ (if i.code.opcode.isControl = true then _ else _)
  split <;> rfl

/-- Whether hazards cause a stall does not depend on when they were noticed. -/
theorem needsStall_eq_of_map_eq {hazards logged : List FiveStage.Hazard} {cycle : Json}
    (h : logged.map Hazard.ofHazard = hazards.map (Hazard.at · cycle)) :
    FiveStage.Hazard.needsStall hazards = FiveStage.Hazard.needsStall logged := by
  have hany := congrArg (List.any · Hazard.stalls) h
  simp only [List.any_map] at hany
  exact hany.symm

section Stages

variable (s : FiveStage.State)

theorem run_logHazards {hazards logged : List FiveStage.Hazard}
    (h : logged.map Hazard.ofHazard = hazards.map (Hazard.at · (.int s.cycle))) :
    (logHazards hazards).run (.ofState s) = .ok () (.ofState { s with hazards := s.hazards ++ logged }) := by
  refine run_get_bind ?_
  refine run_lift_bind rfl ?_
  refine run_modify s ?_
  have hitems := congrArg (List.map Item.own) h
  simp only [List.map_map] at hitems
  simp only [State.ofState, List.map_append]
  congr 3
  exact hitems.symm

/-- The occupants of the stages that an instruction is compared with. -/
def compared : Pipeline Placed where
  execute := s.placed.execute.map unclocked
  memory := s.placed.memory.map unclocked
  writeBack := s.placed.writeBack.map unclocked

theorem get_compared : ∀ stage ∈ FiveStage.Hazard.comparedStages,
    (compared s).get stage = (s.placed.get stage).map unclocked := by
  simp only [FiveStage.Hazard.comparedStages, List.forall_mem_cons]
  exact ⟨rfl, rfl, rfl, List.forall_mem_nil _⟩

theorem pipelineAt_ofState :
    (State.ofState s).pipelineAt (slotsOfPipeline s.pipeline) FiveStage.Hazard.comparedStages = .ok (compared s) := by
  simp only [FiveStage.Hazard.comparedStages, State.pipelineAt, get_slotsOfPipeline, instructionIn_ofState]
  rfl

/-! ## The stages -/

/-- An instruction that has retired. -/
def retired (t : FiveStage.Tracked) : FiveStage.Tracked :=
  { t with completed := true, stage := none }

theorem does_writeBack : Does s writeBack (fun t => t) s.writeBack := by
  refine run_bind (run_slot s .writeBack) ?_
  refine run_get_bind ?_
  refine run_lift_bind (instructionIn_ofState s "opcode" _) ?_
  simp only [Pipeline.get, FiveStage.State.writeBack, FiveStage.State.placed, Pipeline.bind]
  cases s.pipeline.writeBack with
  | none => rfl
  | some index =>
    rw [Option.bind_some]
    cases hi : s.placed? index with
    | none => rfl
    | some i =>
      obtain ⟨x, -, rfl⟩ := FiveStage.State.placed?_eq_some_iff.1 hi
      simp only [Option.map_some, unclocked]
      have hretire := does_retire s x.code
      cases hst : s.storage.retire x.code s.cycle with
      | error cause => exact run_bind_of_error (hretire.run_error hst)
      | ok storage =>
        refine run_bind (hretire.run_ok hst) ?_
        refine run_bind (run_track_ofState _ index (g := retired) fun x => rfl) ?_
        refine run_get_bind ?_
        refine run_lift_bind (Json.increase_int ..) ?_
        refine run_bind
          (run_modify _ (t := { s with storage, completed := s.completed + 1 }.track index retired) rfl) ?_
        exact run_putSlot _ .writeBack none

theorem does_memoryAccess : Does s memoryAccess (fun t => t) s.memoryAccess := by
  refine run_bind (run_slot s .memory) ?_
  refine run_get_bind ?_
  refine run_lift_bind (instructionIn_ofState s "opcode" _) ?_
  simp only [Pipeline.get, FiveStage.State.memoryAccess, FiveStage.State.placed, Pipeline.bind]
  cases hslot : s.pipeline.memory with
  | none => rfl
  | some index =>
    rw [Option.bind_some]
    cases hi : s.placed? index with
    | none => rfl
    | some i =>
      simp only [Option.map_some, unclocked]
      have haccess := does_access s i.code
      cases hst : s.storage.access i.code s.cycle with
      | error cause => exact run_bind_of_error (haccess.run_error hst)
      | ok storage =>
        refine run_bind (haccess.run_ok hst) ?_
        exact run_move { s with storage } (a := .memory) hslot .writeBack

theorem run_execute (h : s.Seated) : execute.run (.ofState s) = .ok s.mustStall (.ofState s.execute) := by
  refine run_bind (run_slot s .execute) ?_
  refine run_get_bind ?_
  refine run_lift_bind (instructionIn_ofState s "opcode" _) ?_
  cases hslot : s.pipeline.get .execute with
  | none =>
    obtain ⟨hpass, hsame⟩ := FiveStage.State.execute_of_empty hslot
    rw [hpass, hsame]
    rfl
  | some index =>
    obtain ⟨i, hi, hplaced⟩ := h.exists_placed hslot
    have hhazards : s.executeHazards = FiveStage.Hazard.dataHazards i s.placed s.forwarding (some s.cycle) := by
      rw [FiveStage.State.executeHazards, show s.placed.execute = some i from hplaced]
    have hlogged := map_ofHazard_dataHazards i s.forwarding s.cycle (get_compared s)
    rw [← hhazards] at hlogged
    rw [Option.bind_some, hi]
    refine run_lift_bind rfl ?_
    refine run_lift_bind (pipelineAt_ofState s) ?_
    refine run_bind (run_logHazards s hlogged) ?_
    have hstall := needsStall_eq_of_map_eq hlogged
    unfold FiveStage.State.execute FiveStage.State.mustStall
    rw [← hstall]
    -- the whole pipeline was compared, and the hazards that were found decide
    change EStateM.run (if FiveStage.Hazard.needsStall (FiveStage.Hazard.dataHazards (unclocked i) (compared s)
      s.forwarding none) = true then _ else _) _ = _
    cases FiveStage.Hazard.needsStall
      (FiveStage.Hazard.dataHazards (unclocked i) (compared s) s.forwarding none) with
    | true =>
      refine run_get_bind ?_
      exact run_lift_bind (Json.increase_int ..) rfl
    | false => exact run_bind (run_move { s with hazards := s.hazards ++ s.executeHazards } hslot .memory) rfl

theorem run_decode (h : s.Seated) : decode.run (.ofState s) = .ok () (.ofState s.decode) := by
  refine run_bind (run_slot s .decode) ?_
  cases hslot : s.pipeline.get .decode with
  | none =>
    rw [FiveStage.State.decode_of_empty hslot]
    rfl
  | some index =>
    obtain ⟨i, hi, hplaced⟩ := h.exists_placed hslot
    have hhazards : s.decodeHazards = FiveStage.Hazard.controlHazards i s.prediction (some s.cycle) := by
      rw [FiveStage.State.decodeHazards, show s.placed.decode = some i from hplaced]
    have hlogged := map_ofHazard_controlHazards i s.prediction s.cycle
    rw [← hhazards] at hlogged
    refine run_get_bind ?_
    refine run_lift_bind rfl ?_
    refine run_lift_bind (instructionIn_ofState s "opcode" (some index)) ?_
    rw [Option.bind_some, hi]
    refine run_bind (run_logHazards s hlogged) ?_
    refine run_bind (run_slot _ .execute) ?_
    unfold FiveStage.State.decode
    simp only [isEmpty_slotOf, Pipeline.get]
    split
    · exact run_move { s with hazards := s.hazards ++ s.decodeHazards } hslot .execute
    · rfl

theorem run_issue : issue.run (.ofState s) = .ok () (.ofState s.issue) := by
  refine run_bind (run_slot s .fetch) ?_
  cases hslot : s.pipeline.get .fetch with
  | none =>
    rw [FiveStage.State.issue_of_empty hslot]
    rfl
  | some index =>
    refine run_bind (run_slot s .decode) ?_
    unfold FiveStage.State.issue
    simp only [isEmpty_slotOf, Pipeline.get]
    split
    · exact run_move s hslot .decode
    · rfl

theorem next_ofState (h : s.Seated) :
    (State.ofState s).next = .ok (slotOf s.next?) := by
  unfold FiveStage.State.next?
  refine (bind_of_eq_ok (Json.minus_int ..) _).trans ?_
  simp only [Number.ofJson?, Option.bind_some, Number.floorDiv?]
  generalize (s.pc - Program.baseAddress).fdiv Program.wordSize = index
  by_cases hneg : index < 0
  · rw [if_pos hneg, if_neg (by omega)]
    rfl
  · rw [if_neg hneg]
    refine (bind_of_eq_ok (total_ofState s) _).trans ?_
    by_cases hin : index < s.instructions.size
    · obtain ⟨n, rfl⟩ := Int.eq_ofNat_of_zero_le (Int.not_lt.1 hneg)
      have hn : n < s.instructions.size := by omega
      have hplace : (if 0 ≤ (n : Int) ∧ (n : Int) < s.instructions.size then some (n : Int).toNat else none) = some n :=
        if_pos ⟨Int.not_lt.1 hneg, hin⟩
      rw [if_neg (Int.not_le.2 hin), hplace]
      show (do return Item.own (← Json.position "list" (State.ofState s).tracked.size (.int n))) = _
      exact bind_of_eq_ok (position_ofState s hn h.size_le) _
    · rw [if_pos (by omega), if_neg (by omega)]
      rfl

theorem run_fetch (h : s.Seated) : fetch.run (.ofState s) = .ok () (.ofState s.fetch) := by
  refine run_bind (run_slot s .fetch) ?_
  unfold FiveStage.State.fetch
  simp only [isEmpty_slotOf, Pipeline.get]
  cases s.pipeline.fetch with
  | some index => rfl
  | none =>
    refine run_get_bind ?_
    refine run_lift_bind (next_ofState s h) ?_
    cases s.next? with
    | none => rfl
    | some index =>
      refine run_lift_bind rfl ?_
      refine run_get_bind ?_
      refine run_bind
        (run_track_ofState s index (g := fun t => { t with fetched := s.cycle, stage := some .fetch }) fun x => rfl) ?_
      refine run_bind (run_putSlot _ .fetch (some index)) ?_
      refine run_get_bind ?_
      refine run_lift_bind (Json.increase_int ..) ?_
      rfl

theorem textOf_ofState (h : s.Seated) (stage : Stage) :
    (State.ofState s).textOf (slotOf (s.pipeline.get stage)) =
      .ok (LogEntry.slotDocument ((s.placed.bind fun i => some i.code.raw).get stage)) := by
  rw [Pipeline.get_bind, FiveStage.State.placed, Pipeline.get_bind]
  cases hslot : s.pipeline.get stage with
  | none => rfl
  | some index =>
    obtain ⟨i, hi, -⟩ := h.exists_placed hslot
    rw [Option.bind_some, hi]
    refine (bind_of_eq_ok rfl _).trans ?_
    rw [placed?_ofState, hi]
    rfl

theorem stageTexts_ofState (h : s.Seated) (stages : List Stage) :
    (State.ofState s).stageTexts (stages.map fun stage => (.stage stage, { item := slotOf (s.pipeline.get stage) })) =
      .ok (stages.map fun stage =>
        (stage.name, LogEntry.slotDocument ((s.placed.bind fun i => some i.code.raw).get stage))) := by
  induction stages with
  | nil => rfl
  | cons stage rest ih =>
    refine (bind_of_eq_ok (textOf_ofState s h stage) _).trans ?_
    exact bind_of_eq_ok ih _

theorem run_record (h : s.Seated) (stalled : Bool) :
    (record stalled).run (.ofState s) = .ok () (.ofState (s.record stalled)) := by
  refine run_get_bind ?_
  refine run_lift_bind rfl ?_
  refine run_lift_bind rfl ?_
  refine run_lift_bind (stageTexts_ofState s h Stage.all) ?_
  refine run_modify s ?_
  simp only [State.ofState, FiveStage.State.record, List.map_append]
  rfl

/-- The cells at some places age, one after another. -/
def ageAt {n : Nat} (cycle : Int) (places : List (Fin n)) (cells : Vector FiveStage.Cell n) : Vector FiveStage.Cell n :=
  places.foldl (fun cells (i : Fin n) => cells.set i ((cells.get i).age cycle) i.isLt) cells

theorem get_ageAt {n : Nat} (cycle : Int) {places : List (Fin n)} (h : places.Nodup)
    (cells : Vector FiveStage.Cell n) (j : Fin n) :
    (ageAt cycle places cells).get j = if j ∈ places then (cells.get j).age cycle else cells.get j := by
  induction places generalizing cells with
  | nil => rfl
  | cons i rest ih =>
    obtain ⟨hi, hrest⟩ := List.nodup_cons.1 h
    rw [ageAt, List.foldl_cons]
    refine (ih hrest _).trans ?_
    by_cases hj : j = i
    · subst hj
      rw [if_neg hi, if_pos List.mem_cons_self]
      exact Vector.getElem_set_self _
    · have hne : (i : Nat) ≠ j := fun heq => hj (Fin.ext heq.symm)
      have hget : (cells.set i ((cells.get i).age cycle) i.isLt).get j = cells.get j := Vector.getElem_set_ne _ _ hne
      simp only [hget, List.mem_cons, hj, false_or]

theorem ageAt_finRange {n : Nat} (cycle : Int) (cells : Vector FiveStage.Cell n) :
    ageAt cycle (List.finRange n) cells = cells.map (FiveStage.Cell.age cycle) := by
  apply Vector.ext
  intro j hj
  have h := get_ageAt cycle (List.nodup_finRange n) cells ⟨j, hj⟩
  rw [if_pos (List.mem_finRange _)] at h
  exact h.trans (Vector.getElem_map ..).symm

/-- Replaces the cell at a place. -/
def State.putAt (s : State) : Place → Cell → State
  | .register r, cell => s.putRegister r cell
  | .word w, cell => s.putWord w cell

theorem isOver_ofCell (cycle : Int) (c : FiveStage.Cell) :
    isOver (.int cycle) (.ofCell c) = .ok (c.modified && decide (modifiedWindow < cycle - c.lastModified)) := by
  unfold isOver Cell.ofCell
  cases c.modified with
  | false => rfl
  | true =>
    refine (bind_of_eq_ok (Json.minus_int ..) _).trans ?_
    rw [Json.exceeds_int, Bool.true_and]

/-- A cell of the state ages before the others. -/
theorem run_ageItems_own {t : FiveStage.State} {place : Place} {c : FiveStage.Cell}
    (hhas : (State.ofState s).putAt place (.ofCell c) = .ofState s)
    (hput : (State.ofState s).putAt place (.ofCell (c.age s.cycle)) = .ofState t) (rest : List (Item (Place × Cell))) :
    (ageItems (.own (place, .ofCell c) :: rest)).run (.ofState s) = (ageItems rest).run (.ofState t) := by
  refine run_lift_bind rfl ?_
  refine run_get_bind ?_
  refine run_lift_bind (isOver_ofCell s.cycle c) ?_
  unfold FiveStage.Cell.age at hput
  cases hover : c.modified && decide (modifiedWindow < s.cycle - c.lastModified) with
  | false =>
    rw [hover, if_neg Bool.false_ne_true, hhas] at hput
    rw [← hput]
    rfl
  | true =>
    rw [hover, if_pos rfl] at hput
    rw [← hput]
    cases place <;> rfl

theorem run_ageItems_cells {n : Nat} (place : Fin n → Place) (update : Vector FiveStage.Cell n → FiveStage.State)
    (cycle : Int) (hcycle : ∀ cells, (update cells).cycle = cycle)
    (hput : ∀ cells (i : Fin n) c,
      (State.ofState (update cells)).putAt (place i) (.ofCell c) = .ofState (update (cells.set i c i.isLt)))
    {places : List (Fin n)} (hplaces : places.Nodup) (start cells : Vector FiveStage.Cell n)
    (hsame : ∀ i ∈ places, start.get i = cells.get i) (rest : List (Item (Place × Cell))) :
    (ageItems ((places.map fun i => .own (place i, (start.map Cell.ofCell).get i)) ++ rest)).run
        (.ofState (update cells)) =
      (ageItems rest).run (.ofState (update (ageAt cycle places cells))) := by
  induction places generalizing cells with
  | nil => rfl
  | cons i others ih =>
    obtain ⟨hi, hothers⟩ := List.nodup_cons.1 hplaces
    have hcell : (start.map Cell.ofCell).get i = .ofCell (cells.get i) := by
      rw [get_ofCells, hsame i List.mem_cons_self]
    have hrest : ∀ j ∈ others, start.get j = (cells.set i ((cells.get i).age cycle)).get j := by
      intro j hj
      have hne : (i : Nat) ≠ j := fun heq => hi (Fin.ext heq ▸ hj)
      rw [hsame j (List.mem_cons_of_mem i hj)]
      exact (Vector.getElem_set_ne _ _ hne).symm
    have hhas : (State.ofState (update cells)).putAt (place i) (.ofCell (cells.get i)) = .ofState (update cells) := by
      rw [hput]
      exact congrArg (State.ofState ∘ update) (Vector.set_getElem_self ..)
    rw [List.map_cons, hcell]
    refine (run_ageItems_own _ hhas (t := update (cells.set i ((cells.get i).age cycle))) ?_ _).trans ?_
    · rw [hcycle, hput]
    · exact ih hothers _ hrest

theorem run_age : age.run (.ofState s) = .ok () (.ofState s.age) := by
  have hregisters := run_ageItems_cells Place.register
    (fun cells => { s with storage := { s.storage with registers := cells } }) s.cycle (fun _ => rfl)
    (fun cells r c => putRegister_ofState _ r c) (List.nodup_finRange _) s.storage.registers s.storage.registers
    (fun _ _ => rfl) (cellItems .word (s.storage.memory.map Cell.ofCell))
  have hmemory := run_ageItems_cells Place.word
    (fun cells =>
      { s with storage := { s.storage with registers := s.storage.registers.map (.age s.cycle), memory := cells } })
    s.cycle (fun _ => rfl) (fun cells w c => putWord_ofState _ w c) (List.nodup_finRange _) s.storage.memory
    s.storage.memory (fun _ _ => rfl) []
  rw [ageAt_finRange] at hregisters hmemory
  rw [List.append_nil] at hmemory
  refine run_get_bind ?_
  refine run_lift_bind rfl ?_
  exact hregisters.trans hmemory

end Stages

end FiveStage.Loose
