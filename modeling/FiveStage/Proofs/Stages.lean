import FiveStage.State.Cycle

/-!
# What the stages do

For each stage of a cycle, what it does to the places of the instructions, and what it leaves alone. `Stands` gathers
what is known of the places: the program, how many of its instructions were fetched and retired, which slots they are
in, and that what is noted with an instruction fits its slot.

Main statements:
* `Stands.move`: the occupant of a slot moves to an empty one, and nothing is lost;
* `Stands.writeBack`, `Stands.memoryAccess`, `Stands.execute_of_pass`, `Stands.decode_of_free`, `Stands.issue_of_free`,
  `Stands.fetch_of_free`: where the instructions are after each stage;
* `execute_frame`, `decode_frame`, `issue_frame`, `fetch_frame`: what else the stages change.
-/

namespace FiveStage

/-- The pipeline after the occupant of a slot has moved to another one. -/
def Pipeline.move {α : Type} (p : Pipeline α) (source target : Stage) : Pipeline α :=
  (p.set target (p.get source)).set source none

/-- The stage that is noted with each instruction is that of the slot that holds it. -/
def Tracks (slots : Pipeline Nat) (xs : Array Tracked) : Prop :=
  ∀ i x, xs[i]? = some x → ∀ stage, x.stage = some stage ↔ slots.get stage = some i

theorem exists_of_map_eq_ok {ε α β : Type} {x : Except ε α} {f : α → β} {b : β} (h : x.map f = .ok b) :
    ∃ a, x = .ok a ∧ f a = b := by
  cases x with
  | error e => cases h
  | ok a => exact ⟨a, rfl, Except.ok.inj h⟩

theorem exists_of_bind_eq_ok {ε α β : Type} {x : Except ε α} {f : α → Except ε β} {b : β} (h : x >>= f = .ok b) :
    ∃ a, x = .ok a ∧ f a = .ok b := by
  cases x with
  | error e => cases h
  | ok a => exact ⟨a, rfl, h⟩

/-! ## Changes of one instruction -/

theorem exists_of_getElem?_modify {xs : Array Tracked} {i j : Nat} {f : Tracked → Tracked} {y : Tracked}
    (h : (xs.modify i f)[j]? = some y) : ∃ x, xs[j]? = some x ∧ y = if i = j then f x else x := by
  rw [Array.getElem?_modify] at h
  split at h
  · rename_i hij
    obtain ⟨x, hx, rfl⟩ := Option.map_eq_some_iff.1 h
    exact ⟨x, hx, by rw [if_pos hij]⟩
  · rename_i hij
    exact ⟨y, h, by rw [if_neg hij]⟩

theorem map_toList_modify {α : Type} {g : Tracked → α} {f : Tracked → Tracked} (h : ∀ x, g (f x) = g x)
    (xs : Array Tracked) (i : Nat) : (xs.modify i f).toList.map g = xs.toList.map g := by
  apply List.ext_getElem?
  intro j
  rw [Array.toList_modify, List.getElem?_map, List.getElem?_map, List.getElem?_modify]
  cases xs.toList[j]? with
  | none => rfl
  | some x =>
    by_cases hij : i = j
    · simp [hij, h]
    · simp [hij]

/-- An instruction that is noted in its new slot stays tracked, as long as the others keep their slots. -/
theorem Tracks.modify {slots slots' : Pipeline Nat} {xs : Array Tracked} {i : Nat} {f : Tracked → Tracked}
    (h : Tracks slots xs)
    (hself : ∀ x, xs[i]? = some x → ∀ stage, (f x).stage = some stage ↔ slots'.get stage = some i)
    (hother : ∀ j, i ≠ j → ∀ stage, slots'.get stage = some j ↔ slots.get stage = some j) :
    Tracks slots' (xs.modify i f) := by
  intro j y hy stage
  obtain ⟨x, hx, rfl⟩ := exists_of_getElem?_modify hy
  split
  · rename_i hij
    subst hij
    exact hself x hx stage
  · rename_i hij
    rw [h j x hx stage, hother j hij stage]

/-- No instruction of the program is in two slots. -/
theorem Tracks.injective {slots : Pipeline Nat} {xs : Array Tracked} (h : Tracks slots xs) {i : Nat} {x : Tracked}
    (hx : xs[i]? = some x) {a b : Stage} (ha : slots.get a = some i) (hb : slots.get b = some i) : a = b := by
  have hsa := (h i x hx a).2 ha
  have hsb := (h i x hx b).2 hb
  rw [hsa] at hsb
  exact Option.some.inj hsb

namespace Storage

/-- The storage after the instruction in a slot, if there is one, has written its result. -/
def retireSlot (st : Storage) (slot : Option Instruction) (cycle : Int) : Except RegisterName.TooLong Storage :=
  match slot with
  | none => .ok st
  | some i => st.retire i cycle

/-- The storage after the instruction in a slot, if there is one, has accessed the memory. -/
def accessSlot (st : Storage) (slot : Option Instruction) (cycle : Int) : Except RegisterName.TooLong Storage :=
  match slot with
  | none => .ok st
  | some i => st.access i cycle

end Storage

namespace State

/-- The instructions of the loaded program. -/
def codes (s : State) : List Instruction :=
  s.instructions.toList.map (·.code)

/-- The cycle in which the instruction at a place was fetched. -/
def fetchedAt (s : State) (i : Nat) : Int :=
  ((s.instructions.toList.map (·.fetched))[i]?).getD 0

theorem length_codes (s : State) : s.codes.length = s.instructions.size := by
  simp [codes]

theorem getElem?_codes (s : State) (i : Nat) : s.codes[i]? = s.instructions[i]?.map (·.code) := by
  simp [codes]

theorem fetchedAt_eq_of_getElem? {s : State} {i : Nat} {x : Tracked} (h : s.instructions[i]? = some x) :
    s.fetchedAt i = x.fetched := by
  simp [fetchedAt, h]

theorem isComplete_iff {s : State} :
    s.isComplete = true ↔ s.completed = s.instructions.size ∧ s.pipeline.isEmpty = true := by
  rw [isComplete, Bool.and_eq_true, decide_eq_true_eq]

theorem placed?_eq_some_iff {s : State} {i : Nat} {p : Placed} :
    s.placed? i = some p ↔ ∃ x, s.instructions[i]? = some x ∧ ⟨i, x.code, x.fetched⟩ = p := by
  rw [placed?, Option.map_eq_some_iff]

/-- The text of an instruction is found through its place as well as in the program. -/
theorem placed_bind_raw (s : State) :
    s.placed.bind (fun p => some p.code.raw) = s.pipeline.bind fun i => s.codes[i]?.map (·.raw) := by
  apply Pipeline.ext_get
  intro stage
  rw [placed, Pipeline.get_bind, Pipeline.get_bind, Pipeline.get_bind]
  cases s.pipeline.get stage with
  | none => rfl
  | some i =>
    simp only [Option.bind_some, getElem?_codes, placed?, Option.map_map]
    cases s.instructions[i]? <;> rfl

theorem codes_track {s : State} {f : Tracked → Tracked} (h : ∀ x, (f x).code = x.code) (i : Nat) :
    (s.track i f).codes = s.codes :=
  map_toList_modify h s.instructions i

theorem fetchedAt_track {s : State} {f : Tracked → Tracked} (h : ∀ x, (f x).fetched = x.fetched) (i : Nat) :
    (s.track i f).fetchedAt = s.fetchedAt := by
  funext j
  rw [fetchedAt, track, map_toList_modify h, fetchedAt]

theorem fetchedAt_track_self {s : State} {f : Tracked → Tracked} {i : Nat} (h : i < s.instructions.size) {cycle : Int}
    (hf : ∀ x, (f x).fetched = cycle) : (s.track i f).fetchedAt i = cycle := by
  have hx : s.instructions[i]? = some s.instructions[i] := Array.getElem?_eq_getElem h
  have hy : (s.track i f).instructions[i]? = some (f s.instructions[i]) := by
    rw [track, Array.getElem?_modify, if_pos rfl, hx]
    rfl
  rw [fetchedAt_eq_of_getElem? hy, hf]

theorem fetchedAt_track_of_ne {s : State} {i j : Nat} (h : i ≠ j) (f : Tracked → Tracked) :
    (s.track i f).fetchedAt j = s.fetchedAt j := by
  simp [fetchedAt, track, h]

theorem move_of_empty {s : State} {a : Stage} (h : s.pipeline.get a = none) (b : Stage) : s.move a b = s := by
  rw [move, h]

theorem placed_of_empty {s : State} {stage : Stage} (h : s.pipeline.get stage = none) : s.placed.get stage = none := by
  rw [placed, Pipeline.get_bind, h]
  rfl

theorem issue_of_empty {s : State} (h : s.pipeline.get .fetch = none) : s.issue = s := by
  unfold issue
  split
  · exact move_of_empty h .decode
  · rfl

theorem move_of_occupied {s : State} {a : Stage} {i : Nat} (h : s.pipeline.get a = some i) (b : Stage) :
    s.move a b = { s with pipeline := s.pipeline.move a b }.track i fun t => { t with stage := some b } := by
  rw [move, h, Pipeline.move, h]

theorem writeBack_of_empty {s : State} (h : s.pipeline.writeBack = none) : s.writeBack = .ok s := by
  rw [writeBack, h]

theorem writeBack_of_occupied {s : State} {i : Nat} {x : Tracked} (h : s.pipeline.writeBack = some i)
    (hx : s.instructions[i]? = some x) :
    s.writeBack = (s.storage.retire x.code s.cycle).map fun storage =>
      { s with
        storage
        completed := s.completed + 1
        pipeline := { s.pipeline with writeBack := none } }.track i fun t =>
          { t with completed := true, stage := none } := by
  have hp : s.placed.writeBack = some ⟨i, x.code, x.fetched⟩ := by
    rw [placed, Pipeline.bind, h]
    exact placed?_eq_some_iff.2 ⟨x, hx, rfl⟩
  rw [writeBack, h, hp]

theorem memoryAccess_of_empty {s : State} (h : s.pipeline.memory = none) : s.memoryAccess = .ok s := by
  have hp : s.placed.memory = none := by
    rw [placed, Pipeline.bind, h]
    rfl
  rw [memoryAccess, hp]

theorem memoryAccess_of_occupied {s : State} {i : Nat} {x : Tracked} (h : s.pipeline.memory = some i)
    (hx : s.instructions[i]? = some x) :
    s.memoryAccess = (s.storage.access x.code s.cycle).map fun storage =>
      { s with storage }.move .memory .writeBack := by
  have hp : s.placed.memory = some ⟨i, x.code, x.fetched⟩ := by
    rw [placed, Pipeline.bind, h]
    exact placed?_eq_some_iff.2 ⟨x, hx, rfl⟩
  rw [memoryAccess, hp]

/-! ## What else changes -/

theorem move_frame (s : State) (a b : Stage) :
    ∃ pipeline instructions, s.move a b = { s with pipeline, instructions } ∧ (s.move a b).fetchedAt = s.fetchedAt := by
  cases ha : s.pipeline.get a with
  | none => exact ⟨s.pipeline, s.instructions, by rw [move_of_empty ha], by rw [move_of_empty ha]⟩
  | some i =>
    rw [move_of_occupied ha]
    exact ⟨_, _, rfl, fetchedAt_track (by intro x; rfl) i⟩

/-- Execute logs its hazards and counts the waiting. -/
theorem execute_frame (s : State) :
    ∃ pipeline instructions,
      s.execute = { s with
        hazards := s.hazards ++ s.executeHazards
        stalls := s.stalls + if s.mustStall then 1 else 0
        pipeline, instructions } ∧ s.execute.fetchedAt = s.fetchedAt := by
  cases hm : s.mustStall with
  | true =>
    refine ⟨s.pipeline, s.instructions, ?_, ?_⟩ <;> rw [execute, hm] <;> rfl
  | false =>
    obtain ⟨pipeline, instructions, hmove, hfetched⟩ :=
      move_frame { s with hazards := s.hazards ++ s.executeHazards } .execute .memory
    refine ⟨pipeline, instructions, ?_, ?_⟩
    · simp only [execute, hm, Bool.false_eq_true, if_false, Int.add_zero]
      exact hmove
    · simp only [execute, hm, Bool.false_eq_true, if_false]
      exact hfetched

/-- Decode logs its hazards. -/
theorem decode_frame (s : State) :
    ∃ pipeline instructions,
      s.decode = { s with hazards := s.hazards ++ s.decodeHazards, pipeline, instructions } ∧
        s.decode.fetchedAt = s.fetchedAt := by
  unfold decode
  split
  · exact move_frame { s with hazards := s.hazards ++ s.decodeHazards } .decode .execute
  · exact ⟨_, _, rfl, rfl⟩

theorem issue_frame (s : State) :
    ∃ pipeline instructions, s.issue = { s with pipeline, instructions } ∧ s.issue.fetchedAt = s.fetchedAt := by
  unfold issue
  split
  · exact move_frame s .fetch .decode
  · exact ⟨_, _, rfl, rfl⟩

theorem fetch_frame (s : State) : ∃ pipeline instructions pc, s.fetch = { s with pipeline, instructions, pc } := by
  unfold fetch
  split
  · exact ⟨_, _, _, rfl⟩
  · exact ⟨_, _, _, rfl⟩

/-- The cycle is noted with the instruction that is fetched in it. -/
theorem fetchedAt_fetch {s : State} {i : Nat} (hi : i < s.instructions.size) :
    s.fetch.fetchedAt i = if s.pipeline.fetch = none ∧ s.next? = some i then s.cycle else s.fetchedAt i := by
  unfold fetch
  split
  · rename_i index hf hn
    by_cases hindex : index = i
    · subst hindex
      rw [if_pos ⟨hf, hn⟩]
      exact fetchedAt_track_self hi fun _ => rfl
    · rw [if_neg (by simp [hn, hindex])]
      exact fetchedAt_track_of_ne hindex _
  · rename_i hnot
    rw [if_neg]
    rintro ⟨hf, hn⟩
    exact hnot i hf hn

theorem writeBack_frame {s t : State} (h : s.writeBack = .ok t) :
    ∃ pipeline instructions completed storage,
      t = { s with pipeline, instructions, completed, storage } ∧ t.fetchedAt = s.fetchedAt := by
  unfold writeBack at h
  split at h
  · obtain ⟨storage, -, rfl⟩ := exists_of_map_eq_ok h
    exact ⟨_, _, _, _, rfl, fetchedAt_track (by intro x; rfl) _⟩
  · cases h
    exact ⟨_, _, _, _, rfl, rfl⟩

theorem memoryAccess_frame {s t : State} (h : s.memoryAccess = .ok t) :
    ∃ pipeline instructions storage,
      t = { s with pipeline, instructions, storage } ∧ t.fetchedAt = s.fetchedAt := by
  unfold memoryAccess at h
  split at h
  · cases h
    exact ⟨_, _, _, rfl, rfl⟩
  · obtain ⟨storage, -, rfl⟩ := exists_of_map_eq_ok h
    obtain ⟨pipeline, instructions, hmove, hfetched⟩ := move_frame { s with storage } .memory .writeBack
    exact ⟨_, _, _, hmove, hfetched⟩

/-! ## Where the instructions are -/

/-- Where the instructions of a program are. -/
structure Stands (program : List Instruction) (front retired : Nat) (slots : Pipeline Nat) (s : State) : Prop where
  /-- The program is loaded. -/
  codes : s.codes = program
  /-- So many of its instructions were fetched, if there are so many. -/
  pc : s.pc = Program.baseAddress + (min front program.length : Nat) * Program.wordSize
  /-- So many of them were completed. -/
  completed : s.completed = (min retired program.length : Nat)
  /-- The slots. -/
  pipeline : s.pipeline = slots
  /-- What is noted with the instructions fits the slots. -/
  tracks : Tracks slots s.instructions
  /-- The instructions that were completed are the first ones. -/
  finished : ∀ i x, s.instructions[i]? = some x → (x.completed = true ↔ i < retired)
  /-- The instructions that were not fetched know of no cycle. -/
  unfetched : ∀ i, front ≤ i → s.fetchedAt i = 0

namespace Stands

variable {program : List Instruction} {front retired : Nat} {slots : Pipeline Nat} {s t : State}

theorem size_eq (h : s.Stands program front retired slots) : s.instructions.size = program.length := by
  rw [← h.codes, length_codes]

theorem lt_of_getElem? (h : s.Stands program front retired slots) {i : Nat} {x : Tracked}
    (hx : s.instructions[i]? = some x) : i < program.length := by
  rw [← h.size_eq]
  exact (Array.getElem?_eq_some_iff.1 hx).1

theorem exists_of_lt (h : s.Stands program front retired slots) {i : Nat} (hi : i < program.length) :
    ∃ x, s.instructions[i]? = some x ∧ program[i]? = some x.code := by
  have hlt : i < s.instructions.size := by rw [h.size_eq]; exact hi
  have hx : s.instructions[i]? = some s.instructions[i] := Array.getElem?_eq_getElem hlt
  refine ⟨s.instructions[i], hx, ?_⟩
  rw [← h.codes, getElem?_codes, hx]
  rfl

/-- The place of the next instruction to be fetched. -/
theorem next?_eq (h : s.Stands program front retired slots) :
    s.next? = if front < program.length then some front else none := by
  have hindex : (s.pc - Program.baseAddress).fdiv Program.wordSize = (min front program.length : Nat) := by
    have hdistance : s.pc - Program.baseAddress = (min front program.length : Nat) * Program.wordSize := by
      rw [h.pc]
      omega
    rw [hdistance]
    exact Int.mul_fdiv_cancel _ (by decide)
  simp only [next?, hindex, h.size_eq]
  by_cases hlt : front < program.length
  · rw [if_pos hlt, if_pos (by omega)]
    congr 1
    omega
  · rw [if_neg hlt, if_neg (by omega)]

/-- What does not concern the places leaves the instructions where they are. -/
theorem of_eq (h : s.Stands program front retired slots) (hi : t.instructions = s.instructions) (hpc : t.pc = s.pc)
    (hc : t.completed = s.completed) (hp : t.pipeline = s.pipeline) : t.Stands program front retired slots where
  codes := by rw [State.codes, hi]; exact h.codes
  pc := by rw [hpc]; exact h.pc
  completed := by rw [hc]; exact h.completed
  pipeline := by rw [hp]; exact h.pipeline
  tracks := by rw [hi]; exact h.tracks
  finished := by rw [hi]; exact h.finished
  unfetched := by
    intro i hle
    have := h.unfetched i hle
    rwa [fetchedAt, hi]

/-- Behind the end of the program, one more can be counted as fetched. -/
theorem of_end (h : s.Stands program front retired slots) (hle : program.length ≤ front) :
    s.Stands program (front + 1) retired slots where
  codes := h.codes
  pc := by
    have hmin : min (front + 1) program.length = min front program.length := by omega
    rw [hmin]
    exact h.pc
  completed := h.completed
  pipeline := h.pipeline
  tracks := h.tracks
  finished := h.finished
  unfetched i hi := h.unfetched i (by omega)

/-! ## Moves -/

/-- The occupant of a slot moves to an empty one. -/
theorem move (h : s.Stands program front retired slots) {a b : Stage} (hab : a ≠ b) (hb : slots.get b = none) :
    (s.move a b).Stands program front retired (slots.move a b) := by
  have hget : ∀ stage, (slots.move a b).get stage =
      if stage = a then none else if stage = b then slots.get a else slots.get stage := by
    intro stage
    rw [Pipeline.move, Pipeline.get_set, Pipeline.get_set]
  cases ha : slots.get a with
  | none =>
    have hslots : slots.move a b = slots := by
      apply Pipeline.ext_get
      intro stage
      rw [hget, ha]
      by_cases hsa : stage = a <;> by_cases hsb : stage = b <;> simp_all
    rw [move_of_empty (by rw [h.pipeline, ha]), hslots]
    exact h
  | some i =>
    rw [move_of_occupied (by rw [h.pipeline, ha])]
    refine
      { codes := (codes_track (by intro x; rfl) i).trans h.codes, pc := h.pc, completed := h.completed,
        pipeline := congrArg (·.move a b) h.pipeline, tracks := ?_, finished := ?_, unfetched := ?_ }
    · apply h.tracks.modify
      · -- The instruction was in no slot but the one it leaves.
        intro x hx stage
        have honly : stage ≠ a → slots.get stage ≠ some i :=
          fun hsa hs => hsa (h.tracks.injective hx hs ha)
        rw [hget, ha]
        by_cases hsa : stage = a
        · subst hsa
          simp [hab.symm]
        · by_cases hsb : stage = b
          · simp [hsb, hab.symm]
          · simp [hsa, hsb, honly hsa, Ne.symm hsb]
      · intro j hij stage
        rw [hget, ha]
        by_cases hsa : stage = a <;> by_cases hsb : stage = b <;> simp_all
    · intro j y hy
      obtain ⟨x, hx, rfl⟩ := exists_of_getElem?_modify hy
      have := h.finished j x hx
      split <;> exact this
    · intro j hj
      exact (congrFun (fetchedAt_track (by intro x; rfl) i) j).trans (h.unfetched j hj)

/-! ## Write-back and memory -/

/-- The instruction in write-back is completed. It is the first one that is not. -/
theorem writeBack (h : s.Stands program front retired slots) {retired' : Nat}
    (hempty : slots.writeBack = none → min retired' program.length = min retired program.length)
    (hfull : ∀ i, slots.writeBack = some i → i = retired ∧ retired' = i + 1 ∧ i < program.length)
    (hok : s.writeBack = .ok t) : t.Stands program front retired' { slots with writeBack := none } := by
  cases hw : slots.writeBack with
  | none =>
    rw [writeBack_of_empty (by rw [h.pipeline, hw]), Except.ok.injEq] at hok
    subst hok
    have hmin := hempty hw
    have hslots : { slots with writeBack := none } = slots := by rw [← hw]
    rw [hslots]
    refine
      { codes := h.codes, pc := h.pc, completed := by rw [h.completed, hmin], pipeline := h.pipeline,
        tracks := h.tracks, finished := ?_, unfetched := h.unfetched }
    intro i x hx
    have hlt := h.lt_of_getElem? hx
    rw [h.finished i x hx]
    omega
  | some i =>
    obtain ⟨rfl, rfl, hlt⟩ := hfull i hw
    obtain ⟨x, hx, -⟩ := h.exists_of_lt hlt
    rw [writeBack_of_occupied (by rw [h.pipeline, hw]) hx] at hok
    obtain ⟨storage, -, rfl⟩ := exists_of_map_eq_ok hok
    have hget : ∀ stage, Pipeline.get { slots with writeBack := none } stage =
        if stage = .writeBack then none else slots.get stage := by
      intro stage
      cases stage <;> rfl
    refine
      { codes := (codes_track (by intro x; rfl) i).trans h.codes, pc := h.pc, completed := ?_, pipeline := ?_,
        tracks := ?_, finished := ?_, unfetched := ?_ }
    · show s.completed + 1 = _
      rw [h.completed]
      omega
    · show { s.pipeline with writeBack := none } = { slots with writeBack := none }
      rw [h.pipeline]
    · apply h.tracks.modify
      · intro x hx stage
        have honly : stage ≠ .writeBack → slots.get stage ≠ some i :=
          fun hne hs => hne (h.tracks.injective hx hs hw)
        rw [hget]
        by_cases hs : stage = .writeBack
        · simp [hs]
        · simp [hs, honly hs]
      · intro j hij stage
        rw [hget]
        by_cases hs : stage = .writeBack
        · subst hs
          have hne : slots.get .writeBack = some i := hw
          simp [hne, hij]
        · rw [if_neg hs]
    · intro j y hy
      obtain ⟨x, hx, rfl⟩ := exists_of_getElem?_modify hy
      have := h.finished j x hx
      split
      · simp
        omega
      · rw [this]
        omega
    · intro j hj
      exact (congrFun (fetchedAt_track (by intro x; rfl) i) j).trans (h.unfetched j hj)

/-- What write-back does to the storage. -/
theorem retireSlot_eq (h : s.Stands program front retired slots)
    (hvalid : ∀ i, slots.writeBack = some i → i < program.length) (hok : s.writeBack = .ok t) :
    s.storage.retireSlot (slots.writeBack.bind (program[·]?)) s.cycle = .ok t.storage := by
  cases hw : slots.writeBack with
  | none =>
    rw [writeBack_of_empty (by rw [h.pipeline, hw]), Except.ok.injEq] at hok
    rw [hok]
    rfl
  | some i =>
    obtain ⟨x, hx, hcode⟩ := h.exists_of_lt (hvalid i hw)
    rw [writeBack_of_occupied (by rw [h.pipeline, hw]) hx] at hok
    obtain ⟨storage, hstorage, rfl⟩ := exists_of_map_eq_ok hok
    rw [Option.bind_some, hcode]
    exact hstorage

/-- What the memory stage does to the storage. -/
theorem accessSlot_eq (h : s.Stands program front retired slots)
    (hvalid : ∀ i, slots.memory = some i → i < program.length) (hok : s.memoryAccess = .ok t) :
    s.storage.accessSlot (slots.memory.bind (program[·]?)) s.cycle = .ok t.storage := by
  cases hm : slots.memory with
  | none =>
    rw [memoryAccess_of_empty (by rw [h.pipeline, hm]), Except.ok.injEq] at hok
    rw [hok]
    rfl
  | some i =>
    obtain ⟨x, hx, hcode⟩ := h.exists_of_lt (hvalid i hm)
    rw [memoryAccess_of_occupied (by rw [h.pipeline, hm]) hx] at hok
    obtain ⟨storage, hstorage, rfl⟩ := exists_of_map_eq_ok hok
    obtain ⟨_, _, hmove, -⟩ := move_frame { s with storage } .memory .writeBack
    rw [Option.bind_some, hcode, hmove]
    exact hstorage

/-- The instruction in the memory stage moves to write-back, which has to be empty. -/
theorem memoryAccess (h : s.Stands program front retired slots) (hw : slots.writeBack = none)
    (hvalid : ∀ i, slots.memory = some i → i < program.length) (hok : s.memoryAccess = .ok t) :
    t.Stands program front retired (slots.move .memory .writeBack) := by
  cases hm : slots.memory with
  | none =>
    rw [memoryAccess_of_empty (by rw [h.pipeline, hm]), Except.ok.injEq] at hok
    subst hok
    have hmoved := h.move (a := .memory) (b := .writeBack) (by decide) hw
    rwa [move_of_empty (by rw [h.pipeline]; exact hm)] at hmoved
  | some i =>
    obtain ⟨x, hx, -⟩ := h.exists_of_lt (hvalid i hm)
    rw [memoryAccess_of_occupied (by rw [h.pipeline, hm]) hx] at hok
    obtain ⟨storage, -, rfl⟩ := exists_of_map_eq_ok hok
    have hstored : ({ s with storage } : State).Stands program front retired slots := h.of_eq rfl rfl rfl rfl
    exact hstored.move (by decide) hw

/-! ## Hazards -/

theorem placed_of_empty (h : s.Stands program front retired slots) (stage : Stage) (hs : slots.get stage = none) :
    s.placed.get stage = none :=
  State.placed_of_empty (h.pipeline ▸ hs)

theorem placed_of_occupied (h : s.Stands program front retired slots) (stage : Stage) {i : Nat} {code : Instruction}
    (hs : slots.get stage = some i) (hi : program[i]? = some code) :
    ∃ fetched, s.placed.get stage = some ⟨i, code, fetched⟩ := by
  rw [← h.codes, getElem?_codes] at hi
  obtain ⟨x, hx, rfl⟩ := Option.map_eq_some_iff.1 hi
  refine ⟨x.fetched, ?_⟩
  rw [placed, Pipeline.get_bind, h.pipeline, hs, Option.bind_some]
  exact placed?_eq_some_iff.2 ⟨x, hx, rfl⟩

/-- What is found in a slot is the instruction at its place. -/
theorem of_placed (h : s.Stands program front retired slots)
    (stage : Stage) {i : Placed} (hi : s.placed.get stage = some i) :
    slots.get stage = some i.index ∧ program[i.index]? = some i.code := by
  rw [placed, Pipeline.get_bind, h.pipeline, Option.bind_eq_some_iff] at hi
  obtain ⟨index, hslot, hplaced⟩ := hi
  obtain ⟨x, hx, rfl⟩ := placed?_eq_some_iff.1 hplaced
  refine ⟨hslot, ?_⟩
  rw [← h.codes, getElem?_codes, hx]
  rfl

theorem executeHazards_of_empty (h : s.Stands program front retired slots) (hx : slots.execute = none) :
    s.executeHazards = [] := by
  have hget : s.placed.execute = none := h.placed_of_empty .execute hx
  rw [executeHazards, hget]

/-- An instruction in execute sees nothing if the slots ahead of it are empty. -/
theorem executeHazards_of_alone (h : s.Stands program front retired slots) (hm : slots.memory = none)
    (hw : slots.writeBack = none) : s.executeHazards = [] := by
  have hgetm := h.placed_of_empty .memory hm
  have hgetw := h.placed_of_empty .writeBack hw
  unfold executeHazards
  split
  · rfl
  · rename_i i hi
    have hgetx : s.placed.get .execute = some i := hi
    simp [Hazard.dataHazards, Hazard.comparedStages, Hazard.against, hgetx, hgetm, hgetw]

/-- An instruction in execute sees the one in write-back. -/
theorem executeHazards_of_follower (h : s.Stands program front retired slots) (hm : slots.memory = none) {i j : Nat}
    {consumer producer : Instruction} (hx : slots.execute = some j) (hw : slots.writeBack = some i)
    (hj : program[j]? = some consumer) (hi : program[i]? = some producer) :
    s.executeHazards = Hazard.between consumer producer s.forwarding s.cycle := by
  have hne : i ≠ j := by
    rintro rfl
    obtain ⟨x, hget, -⟩ := h.exists_of_lt (List.getElem?_eq_some_iff.1 hi).1
    have := h.tracks.injective hget (a := .execute) (b := .writeBack) hx hw
    cases this
  obtain ⟨_, hgetx⟩ := h.placed_of_occupied .execute hx hj
  obtain ⟨_, hgetw⟩ := h.placed_of_occupied .writeBack hw hi
  have hgetm := h.placed_of_empty .memory hm
  have hexecute : s.placed.execute = _ := hgetx
  rw [executeHazards, hexecute]
  simp [Hazard.dataHazards, Hazard.comparedStages, Hazard.against, hgetx, hgetm, hgetw, hne]

/-- An instruction that need not wait moves to the memory stage, which has to be empty. -/
theorem execute_of_pass (h : s.Stands program front retired slots) (hm : slots.memory = none)
    (hpass : s.mustStall = false) : s.execute.Stands program front retired (slots.move .execute .memory) := by
  rw [State.execute, hpass, if_neg Bool.false_ne_true]
  have hlogged : ({ s with hazards := s.hazards ++ s.executeHazards } : State).Stands program front retired slots :=
    h.of_eq rfl rfl rfl rfl
  exact hlogged.move (by decide) hm

/-- An instruction that waits stays in execute. -/
theorem execute_of_stall (h : s.Stands program front retired slots) (hstall : s.mustStall = true) :
    s.execute.Stands program front retired slots := by
  rw [State.execute, hstall, if_pos rfl]
  exact h.of_eq rfl rfl rfl rfl

/-- The instruction in decode moves to an empty execute. -/
theorem decode_of_free (h : s.Stands program front retired slots) (hx : slots.execute = none) :
    s.decode.Stands program front retired (slots.move .decode .execute) := by
  have hfree : s.pipeline.execute.isNone = true := by rw [h.pipeline, hx, Option.isNone_none]
  rw [State.decode, if_pos hfree]
  have hlogged : ({ s with hazards := s.hazards ++ s.decodeHazards } : State).Stands program front retired slots :=
    h.of_eq rfl rfl rfl rfl
  exact hlogged.move (by decide) hx

/-- The instruction in decode stays behind an instruction in execute. -/
theorem decode_of_blocked (h : s.Stands program front retired slots) {i : Nat} (hx : slots.execute = some i) :
    s.decode.Stands program front retired slots := by
  have hblocked : ¬s.pipeline.execute.isNone = true := by rw [h.pipeline, hx]; simp
  rw [State.decode, if_neg hblocked]
  exact h.of_eq rfl rfl rfl rfl

/-- The fetched instruction moves to an empty decode. -/
theorem issue_of_free (h : s.Stands program front retired slots) (hd : slots.decode = none) :
    s.issue.Stands program front retired (slots.move .fetch .decode) := by
  have hfree : s.pipeline.decode.isNone = true := by rw [h.pipeline, hd, Option.isNone_none]
  rw [State.issue, if_pos hfree]
  exact h.move (by decide) hd

/-- The fetched instruction stays behind an instruction in decode. -/
theorem issue_of_blocked (h : s.Stands program front retired slots) {i : Nat} (hd : slots.decode = some i) :
    s.issue = s := by
  have hblocked : ¬s.pipeline.decode.isNone = true := by rw [h.pipeline, hd]; simp
  rw [State.issue, if_neg hblocked]

/-- The next instruction is fetched into an empty slot. -/
theorem fetch_of_free (h : s.Stands program front retired slots) (hf : slots.fetch = none)
    (hlt : front < program.length) (hnew : ∀ stage, slots.get stage ≠ some front) :
    s.fetch.Stands program (front + 1) retired { slots with fetch := some front } := by
  have hnext : s.next? = some front := by rw [h.next?_eq, if_pos hlt]
  have hget : ∀ stage, Pipeline.get { slots with fetch := some front } stage =
      if stage = .fetch then some front else slots.get stage := by
    intro stage
    cases stage <;> rfl
  unfold State.fetch
  rw [h.pipeline, hf, hnext]
  refine
    { codes := (codes_track (by intro x; rfl) front).trans h.codes, pc := ?_, completed := h.completed, pipeline := rfl,
      tracks := ?_, finished := ?_, unfetched := ?_ }
  · show s.pc + Program.wordSize = _
    rw [h.pc]
    have hmin : min (front + 1) program.length = min front program.length + 1 := by omega
    rw [hmin, Program.wordSize]
    omega
  · apply h.tracks.modify
    · intro x hx stage
      rw [hget]
      by_cases hs : stage = .fetch
      · simp [hs]
      · simp [hs, hnew stage, Ne.symm hs]
    · intro j hij stage
      rw [hget]
      by_cases hs : stage = .fetch
      · subst hs
        have hne : slots.get .fetch = none := hf
        simp [hne, hij]
      · rw [if_neg hs]
  · intro j y hy
    obtain ⟨x, hx, rfl⟩ := exists_of_getElem?_modify hy
    have := h.finished j x hx
    split <;> exact this
  · intro j hj
    exact (fetchedAt_track_of_ne (by omega) _).trans (h.unfetched j (by omega))

/-- Nothing is fetched into an occupied slot. -/
theorem fetch_of_blocked (h : s.Stands program front retired slots) {i : Nat} (hf : slots.fetch = some i) :
    s.fetch = s := by
  unfold State.fetch
  rw [h.pipeline, hf]

/-- Nothing is fetched at the end of the program. -/
theorem fetch_of_end (h : s.Stands program front retired slots) (hle : program.length ≤ front) : s.fetch = s := by
  have hnext : s.next? = none := by rw [h.next?_eq, if_neg (by omega)]
  unfold State.fetch
  rw [hnext]
  cases s.pipeline.fetch <;> rfl

end Stands

end State

end FiveStage
