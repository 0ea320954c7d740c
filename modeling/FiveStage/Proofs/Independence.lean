import FiveStage.Proofs.Refinement

/-!
# Independence

What two machines have in common that have loaded the same text, whatever they had done before and whatever their
registers and words hold. The phase after a cycle follows from the program, the phase before it and the settings in
force, and so does all that the cycle notes and logs; the storage is looked at only for values. So the machines stay
abreast as long as the same settings are in force in both, though one may find a word where the other finds none.

Main statements:
* `Stands.instructions_eq`: what is noted with the instructions follows from where they are and when they were fetched;
* `Abreast.step`: machines that are abreast stay so if the same settings are in force;
* `Engine.load_course_alike`: nothing but values can tell apart what becomes of one text in two engines.
-/

namespace FiveStage

namespace State

/-- Nothing but the storage, the settings and the marks of a timer can tell two states apart. -/
structure Alike (s t : State) : Prop where
  cycle : s.cycle = t.cycle
  pc : s.pc = t.pc
  completed : s.completed = t.completed
  stalls : s.stalls = t.stalls
  pipeline : s.pipeline = t.pipeline
  log : s.log = t.log
  hazards : s.hazards = t.hazards
  instructions : s.instructions = t.instructions

/-- Two states are in the same phase of a program, and have noted and logged the same on the way. -/
structure Abreast (program : List Instruction) (p : Phase) (s t : State) : Prop where
  left : s.InPhase program p
  right : t.InPhase program p
  cycle : s.cycle = t.cycle
  stalls : s.stalls = t.stalls
  log : s.log = t.log
  hazards : s.hazards = t.hazards
  fetchedAt : ∀ i < program.length, s.fetchedAt i = t.fetchedAt i

variable {program : List Instruction} {p : Phase} {s t s' t' : State}

/-! ## What is noted with the instructions -/

/-- What is noted with the instructions follows from where they are and when they were fetched. -/
theorem Stands.instructions_eq {front retired : Nat} {slots : Pipeline Nat} (hs : s.Stands program front retired slots)
    (ht : t.Stands program front retired slots) (hfetched : ∀ i < program.length, s.fetchedAt i = t.fetchedAt i) :
    s.instructions = t.instructions := by
  apply Array.ext
  · rw [hs.size_eq, ht.size_eq]
  · intro i hi hi'
    have hx : s.instructions[i]? = some s.instructions[i] := Array.getElem?_eq_getElem hi
    have hy : t.instructions[i]? = some t.instructions[i] := Array.getElem?_eq_getElem hi'
    generalize s.instructions[i] = x at hx
    generalize t.instructions[i] = y at hy
    have hcode : x.code = y.code := by
      have hcodes : s.codes[i]? = t.codes[i]? := by rw [hs.codes, ht.codes]
      rw [getElem?_codes, getElem?_codes, hx, hy] at hcodes
      exact Option.some.inj hcodes
    have hfetch : x.fetched = y.fetched := by
      rw [← fetchedAt_eq_of_getElem? hx, ← fetchedAt_eq_of_getElem? hy]
      exact hfetched i (hs.lt_of_getElem? hx)
    have hstage : x.stage = y.stage := by
      apply Option.ext
      intro stage
      rw [hs.tracks i x hx, ht.tracks i y hy]
    have hdone : x.completed = y.completed := by
      rw [Bool.eq_iff_iff, hs.finished i x hx, ht.finished i y hy]
    obtain ⟨_, _, _, _⟩ := x
    obtain ⟨_, _, _, _⟩ := y
    simp_all

/-! ## Side by side -/

namespace Abreast

theorem alike (h : Abreast program p s t) : s.Alike t where
  cycle := h.cycle
  pc := by rw [h.left.stands.pc, h.right.stands.pc]
  completed := by rw [h.left.stands.completed, h.right.stands.completed]
  stalls := h.stalls
  pipeline := by rw [h.left.stands.pipeline, h.right.stands.pipeline]
  log := h.log
  hazards := h.hazards
  instructions := h.left.stands.instructions_eq h.right.stands h.fetchedAt

theorem load (s t : State) (program : List Instruction) : Abreast program {} (s.load program) (t.load program) where
  left := InPhase.load s program
  right := InPhase.load t program
  cycle := rfl
  stalls := rfl
  log := rfl
  hazards := rfl
  fetchedAt _ _ := rfl

theorem symm (h : Abreast program p s t) : Abreast program p t s where
  left := h.right
  right := h.left
  cycle := h.cycle.symm
  stalls := h.stalls.symm
  log := h.log.symm
  hazards := h.hazards.symm
  fetchedAt i hi := (h.fetchedAt i hi).symm

theorem applySettings (h : Abreast program p s t) (settings : Settings) :
    Abreast program p (s.applySettings settings) t :=
  ⟨h.left.applySettings settings, h.right, h.cycle, h.stalls, h.log, h.hazards, h.fetchedAt⟩

/-- The cycle that does not count notes nothing. -/
theorem settle (h : Abreast program p s t) (hs : Settles program p s s') (ht : Settles program p t t') :
    Abreast program p.rested s' t' := by
  refine
    { left := hs.inPhase, right := ht.inPhase, cycle := ?_, stalls := ?_, log := ?_, hazards := ?_, fetchedAt := ?_ }
  · rw [hs.cycle, ht.cycle, h.cycle]
  · rw [hs.stalls, ht.stalls, h.stalls]
  · rw [hs.log, ht.log, h.log]
  · rw [hs.hazards, ht.hazards, h.hazards]
  · rw [hs.fetchedAt, ht.fetchedAt]
    exact h.fetchedAt

/-- A cycle that leads both to the same phase notes the same in both, under the same settings. -/
theorem tick {q : Phase} (h : Abreast program p s t) (hforwarding : s.forwarding = t.forwarding)
    (hprediction : s.prediction = t.prediction) (hs : Ticks program p q s s') (ht : Ticks program p q t t') :
    Abreast program q s' t' := by
  have hcycle : s'.cycle = t'.cycle := by rw [hs.cycle, ht.cycle, h.cycle]
  have hpc : s'.pc = t'.pc := by rw [hs.inPhase.stands.pc, ht.inPhase.stands.pc]
  refine
    { left := hs.inPhase, right := ht.inPhase, cycle := hcycle, stalls := ?_, log := ?_, hazards := ?_,
      fetchedAt := ?_ }
  · rw [hs.stalls, ht.stalls, h.stalls]
  · rw [hs.log, ht.log, h.log, hcycle, hpc]
  · rw [hs.hazards, ht.hazards, h.hazards, hcycle, hforwarding, hprediction]
  · intro i hi
    rw [hs.fetchedAt i hi, ht.fetchedAt i hi, hcycle, h.fetchedAt i hi]

/-- Whether there is a next phase and which one does not depend on the storage. -/
theorem step (h : Abreast program p s t) (hforwarding : s.forwarding = t.forwarding)
    (hprediction : s.prediction = t.prediction) (hs : s.step = .ok s') (ht : t.step = .ok t') :
    ∃ q, Abreast program q s' t' := by
  -- Both are in the same phase, so both rest or neither does.
  obtain ⟨hr, hsettles⟩ | ⟨hr, hticks⟩ := h.left.step hs
  · obtain ⟨-, hsettles'⟩ | ⟨hr', -⟩ := h.right.step ht
    · exact ⟨_, h.settle hsettles hsettles'⟩
    · exact absurd hr hr'
  · obtain ⟨hr', -⟩ | ⟨-, hticks'⟩ := h.right.step ht
    · exact absurd hr' hr
    · rw [← hforwarding] at hticks'
      exact ⟨_, h.tick hforwarding hprediction hticks hticks'⟩

end Abreast

/-- What becomes of one program in two machines stays abreast if the same settings are in force in both. -/
theorem Course.abreast {cycles cycles' : List Cycle} (h : (s.load program).Course cycles s')
    (h' : (t.load program).Course cycles' t') (hsettings : cycles.map Cycle.settings = cycles'.map Cycle.settings) :
    ∃ p, Abreast program p s' t' := by
  induction h generalizing cycles' t' with
  | refl =>
    obtain rfl : cycles' = [] := List.map_eq_nil_iff.1 hsettings.symm
    obtain ⟨settings, rfl⟩ := h'.exists_of_nil
    exact ⟨_, ((Abreast.load t s program).applySettings settings).symm⟩
  | applySettings settings _ ih =>
    obtain ⟨p, hp⟩ := ih h' hsettings
    exact ⟨p, hp.applySettings settings⟩
  | step _ hok ih =>
    -- The latest cycle of the other record goes with this one.
    obtain ⟨c, rest, rfl, hnow, hrest⟩ := List.map_eq_cons_iff.1 hsettings.symm
    obtain ⟨hbefore, hok', settings, rfl⟩ := h'.exists_of_cons
    obtain ⟨hforwarding, hprediction⟩ := Prod.mk.inj hnow
    obtain ⟨p, hp⟩ := ih hbefore hrest.symm
    obtain ⟨q, hq⟩ := hp.step hforwarding.symm hprediction.symm hok hok'
    exact ⟨q, (hq.symm.applySettings settings).symm⟩

/-! ## Values -/

namespace Alike

theorem completedCodes_eq (h : s.Alike t) : s.completedCodes = t.completedCodes := by
  rw [completedCodes, h.instructions, completedCodes]

theorem retiringCode_eq (h : s.Alike t) : s.retiringCode = t.retiringCode := by
  have hplaced? : s.placed? = t.placed? := by
    funext i
    rw [placed?, h.instructions, placed?]
  rw [retiringCode, placed, h.pipeline, hplaced?, retiringCode, placed]

/-- States that are alike have the same values if these were the same before the program. -/
theorem values_eq (h : s'.Alike t') (hs : (s.load program).Proceeds s') (ht : (t.load program).Proceeds t')
    (hvalues : Values.ofStorage s.storage = Values.ofStorage t.storage) :
    Values.ofStorage s'.storage = Values.ofStorage t'.storage := by
  rw [hs.values_eq, ht.values_eq, hvalues, h.completedCodes_eq, h.retiringCode_eq]

end Alike

end State

namespace Engine

open State

/-- **Independence.** Two engines that load one text, whatever they did before and whatever they hold, cannot be told
apart but by the values that they hold, as long as the same settings are in force in their cycles; and not by the values
either if these were the same before. -/
theorem load_course_alike {e e' : Engine State} {text : String} {cycles cycles' : List State.Cycle} {s s' : State}
    (h : (e.load text).state.Course cycles s) (h' : (e'.load text).state.Course cycles' s')
    (hsettings : cycles.map Cycle.settings = cycles'.map Cycle.settings) :
    s.Alike s' ∧
      (Values.ofStorage e.state.storage = Values.ofStorage e'.state.storage →
        Values.ofStorage s.storage = Values.ofStorage s'.storage) := by
  have hcourse : (e.state.load (Program.parse text).instructions).Course cycles s := h
  have hcourse' : (e'.state.load (Program.parse text).instructions).Course cycles' s' := h'
  obtain ⟨p, habreast⟩ := hcourse.abreast hcourse' hsettings
  have halike := habreast.alike
  exact ⟨halike, halike.values_eq hcourse.proceeds hcourse'.proceeds⟩

/-- The first engine finds the word that it loads. The second one has left another program in the middle, and finds no
word there; it waits and logs the same. -/
theorem load_course_alike_missing_word :
    let text := "LW R1, 4(R2)\nADD R3, R1, R1\nSW R3, 8(R2)"
    let schedule : List Settings :=
      List.replicate 6 { forwarding := true } ++ List.replicate 4 { forwarding := false, prediction := true }
    let e : Engine State :=
      { source := .seeded 0, state := { storage := (Storage.zero.setRegister 2 memoryBase).setWord 1 5 } }
    let fresh : Engine State := { source := .seeded 0, state := { storage := .zero } }
    ∃ e' s s', (fresh.load "BEQ R1, R2, 4\nADD R4, R1, R2").run 4 = .ok e' ∧
      (e.load text).state.follow schedule = .ok s ∧ (e'.load text).state.follow schedule = .ok s' ∧
        s.storage.register 3 = 10 ∧ s'.storage.register 3 = 0 ∧ s.stalls = 2 ∧ s.Alike s' := by
  intro text schedule e fresh
  have hleft : ((e.load text).state.follow schedule).toOption.any (fun s =>
      decide (s.storage.register 3 = 10 ∧ s.stalls = 2)) = true := by
    decide +kernel
  have hright : ((fresh.load "BEQ R1, R2, 4\nADD R4, R1, R2").run 4).toOption.any (fun e' =>
      ((e'.load text).state.follow schedule).toOption.any fun s => decide (s.storage.register 3 = 0)) = true := by
    decide +kernel
  obtain ⟨s, hs, hresult⟩ := exists_of_any_toOption hleft
  obtain ⟨e', he', hrest⟩ := exists_of_any_toOption hright
  obtain ⟨s', hs', hresult'⟩ := exists_of_any_toOption hrest
  obtain ⟨_, hcourse, hsettings⟩ := Course.refl.follow hs
  obtain ⟨_, hcourse', hsettings'⟩ := Course.refl.follow hs'
  rw [List.append_nil] at hcourse hcourse'
  obtain ⟨hregister, hstalls⟩ := of_decide_eq_true hresult
  refine ⟨e', s, s', he', hs, hs', hregister, of_decide_eq_true hresult', hstalls, ?_⟩
  exact (load_course_alike hcourse hcourse' (hsettings.trans hsettings'.symm)).1

end Engine

end FiveStage
