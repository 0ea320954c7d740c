import FiveStage.Proofs.Sessions

/-!
# What can be shown

A state is shown if none of its numbers is too long to be written. The numbers that a storage starts with are short, so
a window opens on every storage. What is shown of a new engine, with the first program or with none, is the same for all
of them but for the storage.

Main statements:
* `Shown.exists_ofState`: a state is shown if all of its numbers can be written;
* `exists_create`: a window opens;
* `exists_toggle`, `exists_load_of_refuses`, `exists_reset_of_refuses`: actions that are never cut short.
-/

namespace FiveStage

/-! ## Numbers that are drawn -/

namespace Storage

/-- All values have few enough digits to be written. -/
structure Writable (s : Storage) : Prop where
  register (r : Fin registerCount) : Decimal.Writable (s.register r)
  word (w : Fin wordCount) : Decimal.Writable (s.word w)

theorem draws_lt {bound : Nat} (hpos : 0 < bound) (count : Nat) (g : MersenneTwister) :
    ∀ n ∈ (draws count bound g).1, n < bound := by
  induction count generalizing g with
  | zero =>
    intro n hn
    cases hn
  | succ count ih =>
    intro n hn
    have hfirst := MersenneTwister.below_lt hpos g
    rw [draws] at hn
    generalize g.below bound = first at hfirst hn
    obtain ⟨number, g'⟩ := first
    rcases List.mem_cons.1 hn with rfl | hn
    · exact hfirst
    · exact ih g' n hn

theorem writable_of_lt {n : Nat} (h : n < wordBound) : Decimal.Writable n := by
  have hbound (limit : Nat) (hlimit : 10 ≤ limit) : wordBound ≤ Nat.pow 10 limit :=
    calc wordBound ≤ Nat.pow 10 10 := by decide
      _ ≤ Nat.pow 10 limit := Nat.pow_le_pow_right (by decide) hlimit
  exact Nat.lt_of_lt_of_le h (hbound Numeral.digitLimit (by decide))

theorem getD_lt {numbers : List Nat} (h : ∀ n ∈ numbers, n < wordBound) (i : Nat) : numbers[i]?.getD 0 < wordBound := by
  cases hn : numbers[i]? with
  | none => decide
  | some n => exact h n (List.mem_of_getElem? hn)

/-- All values are numbers that fit a word of the memory. -/
structure Drawn (s : Storage) : Prop where
  register (r : Fin registerCount) : ∃ n < wordBound, s.register r = (n : Nat)
  word (w : Fin wordCount) : ∃ n < wordBound, s.word w = (n : Nat)

theorem drawn_ofNumbers {registers words : List Nat} (hregisters : ∀ n ∈ registers, n < wordBound)
    (hwords : ∀ n ∈ words, n < wordBound) : (ofNumbers registers words).Drawn where
  register r := by
    have hvalue : (ofNumbers registers words).register r =
        if r = 0 then 0 else ((registers[r.val - 1]?.getD 0 : Nat) : Int) := by
      simp [ofNumbers, register]
    rw [hvalue]
    split
    · exact ⟨0, by decide, rfl⟩
    · exact ⟨_, getD_lt hregisters _, rfl⟩
  word w := by
    have hvalue : (ofNumbers registers words).word w = words[w.val]?.getD 0 := by
      simp [ofNumbers, word]
    exact ⟨_, getD_lt hwords _, hvalue⟩

theorem drawn_ofSeed (seed : Int) : (ofSeed seed).Drawn := by
  refine drawn_ofNumbers (fun n hn => ?_) (draws_lt (by decide) _ _)
  exact Nat.lt_trans (draws_lt (by decide) _ _ n hn) (by decide)

theorem Source.drawn_storage (source : Source) : source.storage.Drawn := by
  cases source with
  | seeded seed => exact drawn_ofSeed seed
  | chance number => exact drawn_ofSeed number

theorem Drawn.writable {s : Storage} (h : s.Drawn) : s.Writable where
  register r := by
    obtain ⟨n, hn, hvalue⟩ := h.register r
    rw [hvalue]
    exact writable_of_lt hn
  word w := by
    obtain ⟨n, hn, hvalue⟩ := h.word w
    rw [hvalue]
    exact writable_of_lt hn

end Storage

/-! ## What can be shown -/

theorem exists_mapM_eq_ok {ε α β : Type} {f : α → Except ε β} {xs : List α} (h : ∀ a ∈ xs, ∃ b, f a = .ok b) :
    ∃ bs, xs.mapM f = .ok bs := by
  induction xs with
  | nil => exact ⟨[], rfl⟩
  | cons a xs ih =>
    obtain ⟨hfirst, hrest⟩ := List.forall_mem_cons.1 h
    obtain ⟨b, hb⟩ := hfirst
    obtain ⟨bs, hbs⟩ := ih hrest
    refine ⟨b :: bs, ?_⟩
    rw [List.mapM_cons, hb, hbs]
    rfl

theorem Number.exists_writeInt {n : Int} (h : Decimal.Writable n) : ∃ text, writeInt n = .ok text := by
  have hwrite : Decimal.write n = .ok (Decimal.text n) := by
    simp only [Decimal.write, h, if_true]
  unfold writeInt
  rw [hwrite]
  exact ⟨_, rfl⟩

namespace Shown

variable {s : State} {shown : Shown}

/-- The statistics are those of the metrics. -/
theorem stats_of_ofState (h : ofState s = .ok shown) : (s.metrics >>= statLines) = .ok shown.stats := by
  obtain ⟨rows, -, h⟩ := exists_of_bind_eq_ok h
  obtain ⟨m, hm, h⟩ := exists_of_bind_eq_ok h
  obtain ⟨stats, hstats, h⟩ := exists_of_bind_eq_ok h
  obtain ⟨registers, -, h⟩ := exists_of_bind_eq_ok h
  obtain ⟨memory, -, h⟩ := exists_of_bind_eq_ok h
  obtain ⟨hazards, -, h⟩ := exists_of_bind_eq_ok h
  obtain ⟨cycle, -, h⟩ := exists_of_bind_eq_ok h
  rw [bind_of_eq_ok hm, hstats, ← Except.ok.inj h]

theorem exists_cellRow {c : Cell} (h : Decimal.Writable c.value) (label : String) :
    ∃ line, cellRow label c = .ok line := by
  obtain ⟨value, hwrite⟩ := Number.exists_writeInt h
  rw [cellRow, hwrite]
  exact ⟨_, rfl⟩

theorem exists_registers {storage : Storage} (h : storage.Writable) :
    ∃ lines, (storage.registerCells.mapM fun (r, c) => cellRow (registerLabel r) c) = .ok lines := by
  refine exists_mapM_eq_ok fun cell hmem => ?_
  obtain ⟨r, -, rfl⟩ := List.mem_map.1 hmem
  exact exists_cellRow (h.register r) _

theorem exists_memory {storage : Storage} (h : storage.Writable) :
    ∃ lines, (storage.wordCells.mapM fun (w, c) => cellRow (wordLabel w) c) = .ok lines := by
  refine exists_mapM_eq_ok fun cell hmem => ?_
  obtain ⟨w, -, rfl⟩ := List.mem_map.1 hmem
  exact exists_cellRow (h.word w) _

/-- A state is shown if all of its numbers can be written. -/
theorem exists_ofState {stats : List (String × String)} (hstorage : s.storage.Writable)
    (hcycle : Decimal.Writable s.cycle) (hlog : ∀ entry ∈ s.log, Decimal.Writable entry.cycle)
    (hhazards : ∀ h ∈ s.hazards, Decimal.Writable h.cycle) (hstats : (s.metrics >>= statLines) = .ok stats) :
    ∃ shown, ofState s = .ok shown := by
  obtain ⟨m, hm, hstats⟩ := exists_of_bind_eq_ok hstats
  obtain ⟨rows, hrows⟩ : ∃ rows, s.log.mapM row = .ok rows := by
    refine exists_mapM_eq_ok fun entry hentry => ?_
    obtain ⟨cycle, hwrite⟩ := Number.exists_writeInt (hlog entry hentry)
    rw [row, hwrite]
    exact ⟨_, rfl⟩
  obtain ⟨registers, hregisters⟩ := exists_registers hstorage
  obtain ⟨memory, hmemory⟩ := exists_memory hstorage
  obtain ⟨lines, hlines⟩ : ∃ lines, (latest s.hazards).mapM hazardLine = .ok lines := by
    refine exists_mapM_eq_ok fun hazard hmem => ?_
    have hlogged : hazard ∈ s.hazards := List.mem_reverse.1 (List.mem_of_mem_take hmem)
    obtain ⟨cycle, hwrite⟩ := Number.exists_writeInt (hhazards hazard hlogged)
    rw [hazardLine, hwrite]
    exact ⟨_, rfl⟩
  obtain ⟨cycle, hwrite⟩ := Number.exists_writeInt hcycle
  rw [ofState, bind_of_eq_ok hrows, bind_of_eq_ok hm, bind_of_eq_ok hstats, bind_of_eq_ok hregisters,
    bind_of_eq_ok hmemory, bind_of_eq_ok hlines, bind_of_eq_ok hwrite]
  exact ⟨_, rfl⟩

end Shown

/-- The figures of a run depend on no more than how far it has come. -/
theorem State.metrics_eq {s t : State} (hsize : s.instructions.size = t.instructions.size) (hcycle : s.cycle = t.cycle)
    (hcompleted : s.completed = t.completed) (hhazards : s.hazards = t.hazards) : s.metrics = t.metrics := by
  simp only [metrics, unresolved, hsize, hcycle, hcompleted, hhazards]

/-! ## A new window -/

namespace Window

variable {w : Window} {source : Storage.Source} {settings : Settings}

theorem refresh_of_shown {shown : Shown} (h : Shown.ofState w.state = .ok shown) :
    w.refresh = .ok (w.mapFace fun face => { face with shown }) := by
  rw [refresh, h]

theorem exists_load {shown : Shown} (haccepts : w.refuses = false)
    (hshown : Shown.ofState (w.run.stop.engine.load w.programText).state = .ok shown) :
    ∃ next, w.load = .ok next ∧ next.state = (w.run.stop.engine.load w.programText).state := by
  have hcheck : Program.check ({ w with run := w.run.stop } : Window).programText = [] := by
    rw [refuses, Bool.not_eq_eq_eq_not, Bool.not_false] at haccepts
    exact List.isEmpty_iff.1 haccepts
  unfold load
  dsimp only
  rw [hcheck]
  exact ⟨_, refresh_of_shown hshown, rfl⟩

theorem exists_load_of_refuses (h : w.refuses = true) : ∃ next, w.load = .ok next := by
  unfold load
  dsimp only
  split
  · exact ⟨_, rfl⟩
  · rename_i hcheck
    have hcheck' : Program.check w.programText = [] := hcheck
    rw [refuses, hcheck'] at h
    cases h

theorem exists_reset_of_refuses (files : Files) (h : w.refuses = true) : ∃ next, act files w .reset = .ok next := by
  let v := (({ w with run := w.run.stop } : Window).setEngine w.run.stop.engine.reset).applySettings
  have hv : v.refuses = true := h
  exact exists_load_of_refuses hv

theorem exists_toggle (files : Files) (w : Window) : ∃ next, act files w .toggle = .ok next := by
  unfold act
  dsimp only
  split
  · exact ⟨_, rfl⟩
  · exact ⟨_, rfl⟩

/-- The program that is shown first, as it is loaded. -/
def firstProgram : List Instruction :=
  (Program.parse (Samples.defaultText ++ "\n")).instructions

/-- Before the first cycle, all of the first program counts as done in one. -/
theorem stats_firstProgram (storage : Storage) :
    ((({ storage } : State).load firstProgram).metrics >>= Shown.statLines) = .ok [
      ("Total Cycles:", "0"), ("Instructions Executed:", "0"), ("CPI:", "0"), ("Unresolved Hazards:", "0"),
      ("Data:", "0"), ("Control:", "0"), ("Structural:", "0"), ("Speedup:", "15.0"), ("Efficiency:", "700.0%")] := by
  have hmetrics : (({ storage } : State).load firstProgram).metrics =
      (({ storage := .zero } : State).load firstProgram).metrics := State.metrics_eq rfl rfl rfl rfl
  rw [hmetrics]
  decide +kernel

/-- An empty engine counts as done in four cycles, and as fast as one without a pipeline. -/
theorem stats_new (storage : Storage) :
    ((({ storage } : State).load []).metrics >>= Shown.statLines) = .ok [
      ("Total Cycles:", "0"), ("Instructions Executed:", "0"), ("CPI:", "0"), ("Unresolved Hazards:", "0"),
      ("Data:", "0"), ("Control:", "0"), ("Structural:", "0"), ("Speedup:", "1"), ("Efficiency:", "400.0%")] := by
  have hmetrics : (({ storage } : State).load []).metrics = (({ storage := .zero } : State).load []).metrics :=
    State.metrics_eq rfl rfl rfl rfl
  rw [hmetrics]
  decide +kernel

/-- A new state can be shown, whatever program is loaded into it, as long as its statistics can. -/
theorem exists_shown_new (source : Storage.Source) {program : List Instruction} {stats : List (String × String)}
    (hstats : ((({ storage := source.storage } : State).load program).metrics >>= Shown.statLines) = .ok stats) :
    ∃ shown, Shown.ofState (({ storage := source.storage } : State).load program) = .ok shown := by
  have hclock : Decimal.Writable (0 : Nat) := Storage.writable_of_lt (by decide)
  exact Shown.exists_ofState source.drawn_storage.writable hclock nofun nofun hstats

theorem content_load_opened (interval : Int) :
    ((opened source settings interval).run.stop.engine.load (opened source settings interval).programText).state.content =
      (({ storage := source.storage } : State).load firstProgram).content := by
  rw [Engine.state_of_load, firstProgram]
  rfl

theorem interval_default : ({} : Settings).interval = .ok 600 := rfl

/-- A window opens on every storage, whatever the settings are, as long as the speed is a number. -/
theorem exists_create (source : Storage.Source) {interval : Int} (hspeed : settings.interval = .ok interval) :
    ∃ new, create source settings = .ok new ∧
      new.state.content = (({ storage := source.storage } : State).load firstProgram).content := by
  obtain ⟨shown, hshown⟩ := exists_shown_new source (stats_firstProgram source.storage)
  obtain ⟨new, hload, hstate⟩ := exists_load (w := opened source settings interval) (accepts_default rfl)
    ((State.shown_of_content_eq (content_load_opened interval)).trans hshown)
  refine ⟨new, (create_of_interval hspeed).trans hload, ?_⟩
  rw [hstate]
  exact content_load_opened interval

end Window

end FiveStage
