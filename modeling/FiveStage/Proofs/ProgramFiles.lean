import FiveStage.CommandLine
import FiveStage.Proofs.Faults
import FiveStage.Proofs.Growth

/-!
# Program files

What can become of a call that runs the program of a file. Bytes that are no text make it break down. A program may hold
a register number that is too long to be read, and then a cycle may break down; and a program of thousands of
instructions can compute a value that is too long to be written, at which the registers break down when they are
printed. There is no other way: what is counted in a run is not even twice as large as the program, and all of it can be
written.

Main statements:
* `length_decode_le`, `length_instructions_le`: a program has no more instructions than its file has bytes;
* `State.Modest`: the counters of a run are small, so its table and its statistics can be made;
* `registers_cases`: the registers can be printed unless a value of one of them is too long;
* `run_programFile`: the ends that a call with a program file can come to.
-/

namespace FiveStage

/-! ## The size of a program -/

namespace Text

theorem length_extendFirst_le (c : Char) (ls : List (List Char)) : (extendFirst c ls).length ≤ ls.length + 1 := by
  cases ls with
  | nil => exact Nat.le_refl 1
  | cons l ls => exact Nat.le_succ _

theorem length_lines_le (cs : List Char) : (lines cs).length ≤ cs.length := by
  fun_induction lines cs with
  | case1 => exact Nat.le_refl 0
  | case2 rest ih =>
    simp only [List.length_cons]
    omega
  | case3 c rest hpair hbreak ih =>
    simp only [List.length_cons]
    omega
  | case4 c rest hpair hbreak ih =>
    have hfirst := length_extendFirst_le c (lines rest)
    simp only [List.length_cons]
    omega

theorem length_unifyBreaks_le (cs : List Char) : (unifyBreaks cs).length ≤ cs.length := by
  fun_induction unifyBreaks cs with
  | case1 => exact Nat.le_refl 0
  | case2 rest ih =>
    simp only [List.length_cons]
    omega
  | case3 c rest hpair ih =>
    simp only [List.length_cons]
    omega

namespace Utf8

theorem length_decodeFrom_le {bytes : List Nat} {position due low high : Nat} {open? : Option (Nat × Nat × Nat)}
    {cs : List Char} (h : decodeFrom position open? due low high bytes = .ok cs) : cs.length ≤ bytes.length := by
  induction bytes generalizing position open? due low high cs with
  | nil =>
    cases open? with
    | none =>
      obtain rfl := Except.ok.inj h
      exact Nat.le_refl 0
    | some sequence => cases h
  | cons b rest ih =>
    -- A character that is read takes this byte, and the rest of the text takes bytes behind it.
    have hread : ∀ {c : Char}, (decodeFrom (position + 1) none 0 0 0 rest).map (c :: ·) = .ok cs →
        cs.length ≤ rest.length + 1 := by
      intro c hmap
      obtain ⟨tail, htail, rfl⟩ := exists_of_map_eq_ok hmap
      exact Nat.succ_le_succ (ih htail)
    rw [List.length_cons]
    cases open? with
    | none =>
      unfold decodeFrom at h
      dsimp only at h
      split at h
      · exact hread h
      · split at h
        · exact (ih h).trans (Nat.le_succ _)
        · cases h
    | some sequence =>
      unfold decodeFrom at h
      dsimp only at h
      split at h
      · split at h
        · exact hread h
        · exact (ih h).trans (Nat.le_succ _)
      · cases h

/-- A text has no more characters than bytes. -/
theorem length_decode_le {bytes : List Nat} {cs : List Char} (h : decode bytes = .ok cs) : cs.length ≤ bytes.length :=
  length_decodeFrom_le h

end Utf8

end Text

open Text

/-- A program has no more instructions than its text has characters. -/
theorem Program.length_instructions_le (text : String) : (parse text).instructions.length ≤ text.toList.length := by
  have hparse := length_parse text
  have hlines := length_lines_le text.toList
  have hsource : (sourceLines text.toList).length ≤ (lines text.toList).length := by
    have hfilter := List.length_filter_le isSource ((lines text.toList).map trim)
    rwa [List.length_map] at hfilter
  omega

theorem length_instructions_of_decode {bytes : List Nat} {cs : List Char} {bound : Nat}
    (h : Utf8.decode bytes = .ok cs) (hsize : bytes.length ≤ bound) :
    (Program.parse (String.ofList (unifyBreaks cs))).instructions.length ≤ bound := by
  have hinstructions := Program.length_instructions_le (String.ofList (unifyBreaks cs))
  rw [String.toList_ofList] at hinstructions
  exact hinstructions.trans ((length_unifyBreaks_le cs).trans ((Utf8.length_decode_le h).trans hsize))

/-! ## Numbers that are written -/

theorem mapM_cases {ε α β : Type} (f : α → Except ε β) (xs : List α) :
    (∃ bs, xs.mapM f = .ok bs) ∨ ∃ a ∈ xs, ∃ cause, f a = .error cause ∧ xs.mapM f = .error cause := by
  induction xs with
  | nil => exact .inl ⟨[], rfl⟩
  | cons a xs ih =>
    rw [List.mapM_cons]
    cases ha : f a with
    | error cause => exact .inr ⟨a, List.mem_cons_self .., cause, ha, rfl⟩
    | ok b =>
      rcases ih with ⟨bs, hbs⟩ | ⟨c, hc, cause, hcause, hfault⟩
      · rw [hbs]
        exact .inl ⟨_, rfl⟩
      · rw [hfault]
        exact .inr ⟨c, List.mem_cons_of_mem _ hc, cause, hcause, rfl⟩

theorem Number.of_writeInt_eq_error {n : Int} {cause : Misuse} (h : writeInt n = .error cause) :
    cause = .tooLong ∧ ¬Decimal.Writable n := by
  constructor
  · unfold writeInt at h
    split at h
    · cases h
    · exact (Except.error.inj h).symm
  · intro hwritable
    obtain ⟨text, hwrite⟩ := exists_writeInt hwritable
    rw [hwrite] at h
    cases h

/-! ## What is counted -/

namespace State

variable {program : List Instruction} {s t : State} {k : Nat}

/-- What is counted in a run of a program of so many bits' length is small. -/
structure Modest (k : Nat) (s : State) : Prop where
  size : s.instructions.size ≤ 2 ^ k
  cycle_nonneg : 0 ≤ s.cycle
  cycle_le : s.cycle ≤ 2 * s.instructions.size + 4
  completed_nonneg : 0 ≤ s.completed
  completed_le : s.completed ≤ s.cycle
  stalls_nonneg : 0 ≤ s.stalls
  stalls_le : s.stalls ≤ s.cycle
  log : ∀ entry ∈ s.log, 0 ≤ entry.cycle ∧ entry.cycle ≤ s.cycle

theorem Course.modest {cycles : List Cycle} (h : (s.load program).Course cycles t) (hsize : program.length ≤ 2 ^ k) :
    t.Modest k := by
  obtain ⟨p, hp, hpaced, hnoted⟩ := h.paced
  have hcycle := hpaced.cycle
  have hstalls := hnoted.stalls_nonneg
  obtain ⟨hnonneg, hcompleted, -⟩ := hp.completed_le hcycle hstalls
  have hlength := hp.stands.size_eq
  refine
    { size := by omega, cycle_nonneg := by omega, cycle_le := ?_, completed_nonneg := hnonneg,
      completed_le := hcompleted, stalls_nonneg := hstalls, stalls_le := by omega, log := ?_ }
  · rw [hlength]
    exact hpaced.cycle_le hp.fits
  · intro entry hentry
    have hnumber : entry.cycle ∈ t.log.map (·.cycle) := List.mem_map_of_mem hentry
    rw [hnoted.cycles, List.mem_map] at hnumber
    obtain ⟨n, hn, hvalue⟩ := hnumber
    have hrange := List.mem_range'_1.1 hn
    have hlog := hnoted.length
    omega

namespace Modest

/-- A number that is not above the clock can be written. -/
theorem exists_writeInt (h : s.Modest k) (hk : k ≤ 1000) {n : Int} (hnonneg : 0 ≤ n) (hle : n ≤ s.cycle) :
    ∃ text, Number.writeInt n = .ok text := by
  have hsize := h.size
  have hcycle := h.cycle_le
  have hspans : Bitwise.Spans (k + 3) n := by
    have hpos : 1 ≤ 2 ^ k := Nat.one_le_two_pow
    unfold Bitwise.Spans
    rw [Nat.pow_add]
    omega
  have hfew : k + 3 ≤ 32 + surelyWritten := by
    unfold surelyWritten
    omega
  exact Number.exists_writeInt (writable_of_spans hspans hfew)

/-- The table can be made. -/
theorem exists_timingTable (h : s.Modest k) (hk : k ≤ 1000) :
    ∃ table, Report.timingTable .ample s Report.defaultWidth = .ok table := by
  obtain ⟨rows, hrows⟩ : ∃ rows, s.log.mapM (Report.row 22) = .ok rows := by
    refine exists_mapM_eq_ok fun entry hentry => ?_
    obtain ⟨hnonneg, hle⟩ := h.log entry hentry
    obtain ⟨cycle, hwrite⟩ := h.exists_writeInt hk hnonneg hle
    rw [Report.row, hwrite]
    exact ⟨_, rfl⟩
  have hwidth : Report.columnWidth .ample Report.defaultWidth = .ok 22 := rfl
  rw [Report.timingTable, bind_of_eq_ok hwidth, hrows]
  exact ⟨_, rfl⟩

/-- The cycles in excess are not more than all cycles. -/
theorem exists_comparison (h : s.Modest k) :
    ∃ c n, s.comparison = .ok c ∧ c.overhead = .int n ∧ 0 ≤ n ∧ n ≤ s.cycle := by
  have hcycle := h.cycle_nonneg
  have hideal : Metrics.idealCycles s.instructions.size = s.instructions.size + 4 := rfl
  let excess : Int := s.cycle - (Metrics.idealCycles s.instructions.size : Int)
  by_cases hpos : 0 < excess
  · refine ⟨_, excess, rfl, ?_, hpos.le, by omega⟩
    simp [excess] at hpos
    simp [hpos, excess]
  · refine ⟨_, 0, rfl, ?_, Int.le_refl 0, hcycle⟩
    simp [excess] at hpos
    simp [hpos]

/-- The statistics can be made. -/
theorem exists_statistics (h : s.Modest k) (hk : k ≤ 1000) : ∃ statistics, Report.statistics s = .ok statistics := by
  obtain ⟨m, hm⟩ := exists_metrics (by omega : k ≤ 1010) h.size h.cycle_nonneg h.cycle_le
  obtain ⟨c, excess, hc, hoverhead, hnonneg, hle⟩ := h.exists_comparison
  obtain ⟨cycles, hcycles⟩ := h.exists_writeInt hk h.cycle_nonneg (Int.le_refl _)
  obtain ⟨completed, hcompleted⟩ := h.exists_writeInt hk h.completed_nonneg h.completed_le
  obtain ⟨stalls, hstalls⟩ := h.exists_writeInt hk h.stalls_nonneg h.stalls_le
  obtain ⟨overhead, hwrite⟩ := h.exists_writeInt hk hnonneg hle
  obtain ⟨cpi, speedup, efficiency, rfl⟩ := exists_of_metrics_eq_ok hm
  have htotalWrite : (Number.int s.cycle).write = .ok cycles := hcycles
  have hexecutedWrite : (Number.int s.completed).write = .ok completed := hcompleted
  have hoverheadWrite : c.overhead.write = .ok overhead := by rw [hoverhead]; exact hwrite
  rw [Report.statistics, bind_of_eq_ok hm, bind_of_eq_ok hc, Report.statisticsText, bind_of_eq_ok htotalWrite,
    bind_of_eq_ok hexecutedWrite, bind_of_eq_ok hstalls, bind_of_eq_ok hoverheadWrite]
  exact ⟨_, rfl⟩

end Modest

/-- A run that starts with the clock at zero does not go beyond its limit. -/
theorem cycle_le_of_load_run {limit : Int} (hok : (s.load program).run limit = .ok t) : t.cycle ≤ max 0 limit := by
  have hboth : (∃ p, t.InPhase program p) ∧ t.cycle ≤ max 0 limit := by
    refine runFor_induction_of_going (P := fun t => (∃ p, t.InPhase program p) ∧ t.cycle ≤ max 0 limit) ?_ ?_ hok
    · rintro s t ⟨⟨p, hp⟩, hle⟩ - hlt hstep
      refine ⟨hp.exists_step hstep, ?_⟩
      obtain ⟨-, hsettles⟩ | ⟨-, hticks⟩ := hp.step hstep
      · rw [hsettles.cycle]
        exact hle
      · have hclock := hticks.cycle
        omega
    · exact ⟨⟨_, InPhase.load s program⟩, le_max_left 0 limit⟩
  exact hboth.2

/-- The registers can be printed, unless the value of one of them is too long. -/
theorem registers_cases (s : State) :
    (∃ registers, Report.registers s true = .ok registers) ∨
      Report.registers s true = .error .tooLong ∧ ∃ r, ¬Decimal.Writable (s.storage.register r) := by
  let line (cell : Fin registerCount × Cell) : Except Misuse (List Char) := do
    return Report.registerLine (registerName cell.1) (← Number.writeInt cell.2.value)
  let shown := s.storage.registerCells.filter fun cell => !true || cell.2.value ≠ 0
  have hregisters : Report.registers s true =
      (shown.mapM line >>= fun lines => .ok (String.ofList (join ['\n'] lines))) := rfl
  rw [hregisters]
  obtain ⟨lines, hlines⟩ | ⟨cell, hcell, cause, hcause, hfault⟩ := mapM_cases line shown
  · rw [hlines]
    exact .inl ⟨_, rfl⟩
  · obtain ⟨r, -, rfl⟩ := List.mem_map.1 (List.mem_of_mem_filter hcell)
    have hwrite : Number.writeInt (s.storage.register r) = .error cause := by
      obtain hwrite | ⟨value, -, hline⟩ := cases_of_bind_eq_error hcause
      · exact hwrite
      · cases hline
    obtain ⟨rfl, hlong⟩ := Number.of_writeInt_eq_error hwrite
    rw [hfault]
    exact .inr ⟨rfl, r, hlong⟩

end State

/-! ## Calls -/

namespace CommandLine

open State

/-- The options ask for the program of a file, and for nothing else but settings, a seed and a limit. None of these is
left blank: a blank is no number, and breaks down as such. -/
structure RunsFile (o : Options) (path : String) (limit : Int) : Prop where
  program : o.program = some path
  named : path ≠ ""
  sample : o.sample = none
  window : o.window = false
  exportPath : o.exportPath = none
  chartsPath : o.chartsPath = none
  logLevel : o.logLevel ≠ .blank
  seed : o.seed ≠ some .blank
  maxCycles : o.maxCycles = .value limit

/-- A text under a heading, as it is printed. -/
def titled (heading text : String) : String :=
  "\n=== " ++ heading ++ " ===\n" ++ text ++ "\n"

/-- What is printed of a state. -/
def results (table statistics registers : String) : String :=
  titled "Pipeline Diagram" table ++ titled "Stats" statistics ++ titled "Registers" registers

theorem printSection_ok (heading text : String) (t : Transcript) :
    t.printSection heading (.ok text) = .ok (t.print (titled heading text)) := by
  simp [Transcript.printSection, Transcript.print, titled, String.append_assoc]

theorem print_print (t : Transcript) (a b : String) : (t.print a).print b = t.print (a ++ b) := by
  simp [Transcript.print, String.append_assoc]

theorem ofProgress_print (code : Nat) (before text : String) :
    Outcome.ofProgress code (.ok (({ output := before } : Transcript).print text)) =
      { ending := .exit code, output := before ++ text } := rfl

variable {o : Options} {around : Surroundings} {path : String} {limit : Int} {source : Storage.Source} {text : String}
  {s : State} {t : Transcript}

theorem RunsFile.exists_source (h : RunsFile o path limit) (chance : Nat) :
    ∃ source, o.source chance = .ok source := by
  unfold Options.source
  split
  · exact ⟨_, rfl⟩
  · rename_i hblank
    exact absurd hblank h.seed
  · exact ⟨_, rfl⟩

theorem follow_of_runsFile (h : RunsFile o path limit) : follow o around = simulateFile o around path := by
  have hpath : o.program.filter (· ≠ "") = some path := by
    rw [h.program, Option.filter_some, if_pos (by simpa using h.named)]
  rw [follow, if_neg h.logLevel, h.window, if_neg Bool.false_ne_true, h.sample, hpath]

/-- Nothing else is written. -/
theorem simulate_of_runsFile (h : RunsFile o path limit) (hsource : o.source around.chance = .ok source)
    (hrun : (loaded o source text).state.run limit = .ok s) :
    simulate o around text =
      ({ output := log o.threshold (engineLines { loaded o source text with state := s } ++ endLines s) } :
        Transcript).printState s := by
  have hloaded : runLoaded o (loaded o source text) = .ok { loaded o source text with state := s } := by
    rw [runLoaded, h.maxCycles]
    dsimp only
    rw [Engine.run, hrun]
    rfl
  have hexport (t : Transcript) : t.exportReport o around s = .ok t := by
    rw [Transcript.exportReport, h.exportPath, Option.filter_none]
  have hcharts (t : Transcript) : t.drawCharts o s = .ok t := by
    rw [Transcript.drawCharts, h.chartsPath, Option.filter_none]
  rw [simulate, hsource]
  dsimp only
  rw [hloaded]
  dsimp only
  simp only [hexport, hcharts]
  exact bind_pure _

/-- A cycle that breaks down ends the call. -/
theorem simulate_of_run_error (h : RunsFile o path limit) (hsource : o.source around.chance = .ok source)
    {i : Interrupted RegisterName.TooLong State} (hrun : (loaded o source text).state.run limit = .error i) :
    (Outcome.ofProgress 0 (simulate o around text)).ending = .failure (.fault (.register i.fault)) := by
  have hloaded : runLoaded o (loaded o source text) =
      .error ⟨.fault (.register i.fault), { loaded o source text with state := i.state }⟩ := by
    rw [runLoaded, h.maxCycles]
    dsimp only
    rw [Engine.run, hrun]
    rfl
  rw [simulate, hsource]
  dsimp only
  rw [hloaded]
  rfl

theorem printState_of_ok {table statistics registers : String}
    (htable : Report.timingTable .ample s Report.defaultWidth = .ok table) (hstatistics : Report.statistics s = .ok statistics)
    (hregisters : Report.registers s true = .ok registers) :
    t.printState s = .ok (t.print (results table statistics registers)) := by
  rw [Transcript.printState, htable, hstatistics, hregisters]
  simp only [Except.mapError, printSection_ok, bind, Except.bind, print_print, results]

theorem printState_of_registers_error {table statistics : String} {cause : Misuse}
    (htable : Report.timingTable .ample s Report.defaultWidth = .ok table) (hstatistics : Report.statistics s = .ok statistics)
    (hregisters : Report.registers s true = .error cause) :
    ∃ shown, t.printState s = .error ⟨.fault (.misuse cause), shown⟩ := by
  rw [Transcript.printState, htable, hstatistics, hregisters]
  simp only [Except.mapError, printSection_ok, bind, Except.bind]
  exact ⟨_, rfl⟩

/-- The state that a call loads its program into. -/
def start (o : Options) (source : Storage.Source) : State :=
  ({ storage := source.storage } : State).applySettings o.settings

theorem state_loaded (o : Options) (source : Storage.Source) (text : String) :
    (loaded o source text).state = (start o source).load (Program.parse text).instructions := rfl

/-- A value that is too long to be printed takes a long program and a high limit. -/
theorem surelyWritten_lt {program : List Instruction} (hrun : ((start o source).load program).run limit = .ok s)
    {r : Fin registerCount} (hlong : ¬Decimal.Writable (s.storage.register r)) :
    surelyWritten < program.length ∧ surelyWritten < limit := by
  obtain ⟨cycles, hcourse⟩ := Course.refl.run hrun
  have hmany : ¬s.completed ≤ surelyWritten := fun hfew =>
    hlong (hcourse.proceeds.writable source.drawn_storage.spanned hfew r)
  obtain ⟨p, hp, hpaced, hnoted⟩ := hcourse.paced
  have hstalls := hnoted.stalls_nonneg
  have hwithin := cycle_le_of_load_run hrun
  have hcompleted := hp.stands.completed
  obtain ⟨-, hcycle, -⟩ := hp.completed_le hpaced.cycle hstalls
  omega

/-- **Program files.** A call with a program file of any content, whatever its settings, its seed and its limit are,
as long as no option is left blank, breaks down at bytes that are no text. If they are a text, it prints the diagram,
the statistics and the registers, and exits with 0, unless an operand that the program looks up has a register number
that is too long to be read, or a register holds a value that is too long to be written; for this, the program and the
limit have to be in the thousands. The output is taken to accept any text, and there is memory for the diagram. -/
theorem run_programFile {words : List String} {bytes : List Nat} (hread : Options.read words = .ok o)
    (ho : RunsFile o path limit) (hbytes : around.files.bytes path = .ok bytes) (hsize : bytes.length ≤ 2 ^ 1000) :
    match Utf8.decode bytes with
    | .error cause => run around words = { ending := .failure (.undecodable cause) }
    | .ok cs =>
      let text := String.ofList (unifyBreaks cs)
      let program := (Program.parse text).instructions
      ∃ source, o.source around.chance = .ok source ∧
        let e := loaded o source text
        ((∃ s table statistics registers, e.state.run limit = .ok s ∧
            Report.timingTable .ample s Report.defaultWidth = .ok table ∧ Report.statistics s = .ok statistics ∧
            Report.registers s true = .ok registers ∧
            run around words = {
              ending := .exit 0
              output := log o.threshold (engineLines { e with state := s } ++ endLines s) ++
                results table statistics registers }) ∨
          (∃ i ∈ program, ¬i.Readable) ∧ (∃ cause, (run around words).ending = .failure (.fault (.register cause))) ∨
          (surelyWritten < program.length ∧ surelyWritten < limit) ∧
            (∃ s r, e.state.run limit = .ok s ∧ ¬Decimal.Writable (s.storage.register r)) ∧
            (run around words).ending = .failure (.fault (.misuse .tooLong))) := by
  have hcall : run around words = simulateFile o around path := by
    rw [run, hread]
    exact follow_of_runsFile ho
  rw [hcall, simulateFile, hbytes]
  dsimp only
  cases hdecode : Utf8.decode bytes with
  | error cause => rfl
  | ok cs =>
    dsimp only
    obtain ⟨source, hsource⟩ := ho.exists_source around.chance
    refine ⟨source, hsource, ?_⟩
    cases hrun : (loaded o source (String.ofList (unifyBreaks cs))).state.run limit with
    | error i =>
      refine .inr (.inl ⟨?_, i.fault, simulate_of_run_error ho hsource hrun⟩)
      obtain ⟨t, ht, hstep⟩ := Proceeds.refl.exists_step_error_of_run hrun
      by_contra hreadable
      push Not at hreadable
      exact ht.step_ne_error hreadable i hstep
    | ok s =>
      rw [simulate_of_runsFile ho hsource hrun]
      rw [state_loaded] at hrun
      obtain ⟨cycles, hcourse⟩ := Course.refl.run hrun
      have hmodest := hcourse.modest (length_instructions_of_decode hdecode hsize)
      obtain ⟨table, htable⟩ := hmodest.exists_timingTable (Nat.le_refl _)
      obtain ⟨statistics, hstatistics⟩ := hmodest.exists_statistics (Nat.le_refl _)
      obtain ⟨registers, hregisters⟩ | ⟨hregisters, r, hlong⟩ := registers_cases s
      · refine .inl ⟨s, table, statistics, registers, rfl, htable, hstatistics, hregisters, ?_⟩
        rw [printState_of_ok htable hstatistics hregisters, ofProgress_print]
      · refine .inr (.inr ⟨surelyWritten_lt hrun hlong, ⟨s, r, rfl, hlong⟩, ?_⟩)
        obtain ⟨shown, hshown⟩ := printState_of_registers_error htable hstatistics hregisters
        rw [hshown]
        rfl

/-- A file with a comment beyond ASCII, run for three cycles. -/
theorem run_programFile_three_cycles :
    let words := ["--no-forwarding", "p.asm", "--seed", "7", "--max-cycles", "3"]
    let text := "LW R1, 0(R2) # \u00E9\nADD R3, R1, R40"
    let files : Files := { read := fun _ => .ok (text.toUTF8.toList.map (·.toNat)), refusal? := fun _ => none }
    let around : Surroundings := { files, chance := 0, timestamp := "" }
    ∃ o, Options.read words = .ok o ∧ RunsFile o "p.asm" 3 ∧
      (run around words).ending = .exit 0 ∧ (run around words).errors = "" := by
  intro words text files around
  let o : Options :=
    { program := some "p.asm", forwarding := false, seed := some (.value 7), maxCycles := .value 3 }
  have hread : Options.read words = .ok o := by decide +kernel
  have ho : RunsFile o "p.asm" 3 := by constructor <;> decide
  have hbytes : around.files.bytes "p.asm" = .ok (text.toUTF8.toList.map (·.toNat)) := rfl
  have hdecode : Utf8.decode (text.toUTF8.toList.map (·.toNat)) = .ok text.toList := by decide +kernel
  have hreadable : ∀ i ∈ (Program.parse (String.ofList (unifyBreaks text.toList))).instructions, i.Readable := by
    decide +kernel
  have hsize : (text.toUTF8.toList.map (·.toNat)).length ≤ 2 ^ 1000 := by decide +kernel
  have hcases := run_programFile hread ho hbytes hsize
  rw [hdecode] at hcases
  obtain ⟨source, -, hcases⟩ := hcases
  obtain ⟨s, table, statistics, registers, -, -, -, -, hrun⟩ | ⟨⟨i, hi, hlong⟩, -⟩ | ⟨⟨-, hhigh⟩, -⟩ := hcases
  · rw [hrun]
    exact ⟨o, hread, ho, rfl, rfl⟩
  · exact absurd (hreadable i hi) hlong
  · exact absurd hhigh (by decide)

/-- Bytes that are no text: nothing is said of them. -/
theorem run_undecodable :
    let words := ["p.asm"]
    let bytes := [78, 79, 80, 10, 255, 254]
    let files : Files := { read := fun _ => .ok bytes, refusal? := fun _ => none }
    let around : Surroundings := { files, chance := 0, timestamp := "" }
    files.bytes "p.asm" = .ok bytes ∧
      run around words = { ending := .failure (.undecodable ⟨4, 1, 255, .startByte⟩), output := "", errors := "" } := by
  decide +kernel

end CommandLine

end FiveStage
