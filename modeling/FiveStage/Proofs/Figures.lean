import FiveStage.Metrics
import FiveStage.Proofs.Bubbles

/-!
# The figures of a run

The machine counts its cycles, its stalls and the instructions that it has completed; the figures are counted anew from
the log of hazards, by class and by kind. They agree because each hazard is logged with the class that goes with its
kind, because a cycle is spent waiting only if a hazard is logged that it is spent waiting for, and because the clock is
ahead of the fetched instructions by the stalls.

Main statements:
* `Analysis.total_formatsOf`, `Hazard.countP_classes`: every instruction and every unresolved hazard is counted once;
* `Number.exists_quotient`: a quotient of integers is a finite value unless it is huge;
* `State.Booked.step`: what a cycle logs fits what it counts;
* `Engine.Reachable.reconciles`: the figures agree with the log and with the counters.
-/

namespace FiveStage

/-! ## Counts -/

namespace Analysis

/-- How many hazards of a kind are reported. -/
def count (a : Analysis) (kind : HazardSubtype) : Nat :=
  (a.breakdown.lookup kind).getD 0

/-- The sum of counts. -/
def total {α : Type} (counts : List (α × Nat)) : Nat :=
  (counts.map (·.2)).foldr (· + ·) 0

theorem total_cons {α : Type} (entry : α × Nat) (rest : List (α × Nat)) :
    total (entry :: rest) = entry.2 + total rest := rfl

theorem lookup_breakdownOf (kinds : List HazardSubtype) (kind : HazardSubtype) :
    (breakdownOf kinds).lookup kind = some (kinds.count kind) := by
  cases kind <;> rfl

theorem total_tally (format : Format) (counts : List (Format × Nat)) :
    total (tally format counts) = total counts + 1 := by
  induction counts with
  | nil => rfl
  | cons entry rest ih =>
    rw [tally]
    split
    · simp only [total_cons]
      omega
    · simp only [total_cons, ih]
      omega

/-- Every instruction is counted once by its layout class. -/
theorem total_formatsOf (formats : List Format) : total (formatsOf formats) = formats.length := by
  have hfrom : ∀ counts : List (Format × Nat),
      total (formats.foldl (fun counts format => tally format counts) counts) = total counts + formats.length := by
    induction formats with
    | nil => exact fun _ => rfl
    | cons format rest ih =>
      intro counts
      rw [List.foldl_cons, ih, total_tally, List.length_cons]
      omega
  exact (hfrom []).trans (Nat.zero_add _)

end Analysis

namespace Hazard

/-- The hazard is one that is logged, of the class that goes with its kind. What is renamed away is resolved, and a
write after a write is not. -/
def Classed (h : Hazard) : Prop :=
  match h.subtype with
  | .raw => h.type = .data
  | .war => h.type = .data ∧ h.resolved = true
  | .waw => h.type = .data ∧ h.resolved = false
  | .branch => h.type = .control
  | .resource => False

variable {h : Hazard} {hazards : List Hazard}

theorem exists_of_mem_pairs {xs ys : List String} {hazard : String → Hazard} (hmem : h ∈ pairs xs ys hazard) :
    ∃ x, h = hazard x := by
  obtain ⟨x, -, hx⟩ := List.mem_flatMap.1 hmem
  obtain ⟨-, -, rfl⟩ := List.mem_map.1 hx
  exact ⟨x, rfl⟩

theorem classed_of_mem_between {consumer producer : Instruction} {forwarding : Bool} {cycle : Int}
    (hmem : h ∈ between consumer producer forwarding cycle) : h.Classed := by
  simp only [between, List.mem_append] at hmem
  rcases hmem with (hraw | hwar) | hwaw
  · obtain ⟨x, rfl⟩ := exists_of_mem_pairs hraw
    rfl
  · obtain ⟨x, rfl⟩ := exists_of_mem_pairs hwar
    exact ⟨rfl, rfl⟩
  · obtain ⟨x, rfl⟩ := exists_of_mem_pairs hwaw
    exact ⟨rfl, rfl⟩

theorem classed_of_mem_dataHazards {consumer : Placed} {pipeline : Pipeline Placed} {forwarding : Bool}
    {cycle? : Option Int} (hmem : h ∈ dataHazards consumer pipeline forwarding cycle?) : h.Classed := by
  obtain ⟨_, _, _, _, _, hbetween⟩ := (mem_dataHazards_iff_exists _ _ _ _ _).1 hmem
  exact classed_of_mem_between hbetween

theorem classed_of_mem_controlHazards {i : Placed} {prediction : Bool} {cycle? : Option Int}
    (hmem : h ∈ controlHazards i prediction cycle?) : h.Classed := by
  unfold controlHazards at hmem
  split at hmem
  · rw [List.mem_singleton.1 hmem]
    rfl
  · cases hmem

/-- Every unresolved hazard is counted once by its class. -/
theorem countP_classes (hazards : List Hazard) :
    hazards.countP (fun h => h.type = .data && !h.resolved) +
      hazards.countP (fun h => h.type = .control && !h.resolved) +
      hazards.countP (fun h => h.type = .structural && !h.resolved) = hazards.countP (fun h => !h.resolved) := by
  induction hazards with
  | nil => rfl
  | cons h rest ih =>
    simp only [List.countP_cons]
    cases h.type <;> cases h.resolved <;> simp <;> omega

theorem countP_structural (hclassed : ∀ h ∈ hazards, h.Classed) :
    hazards.countP (fun h => h.type = .structural && !h.resolved) = 0 := by
  rw [List.countP_eq_zero]
  intro h hmem
  have hkind := hclassed h hmem
  unfold Classed at hkind
  split at hkind <;> simp_all

/-- The unresolved data hazards are the writes after writes and the unresolved reads after writes. -/
theorem countP_data (hclassed : ∀ h ∈ hazards, h.Classed) :
    hazards.countP (fun h => h.type = .data && !h.resolved) =
      (hazards.map (·.subtype)).count .waw + hazards.countP (fun h => h.subtype = .raw && !h.resolved) := by
  induction hazards with
  | nil => rfl
  | cons h rest ih =>
    obtain ⟨hkind, hrest⟩ := List.forall_mem_cons.1 hclassed
    unfold Classed at hkind
    simp only [List.countP_cons, List.map_cons, List.count_cons, ih hrest]
    split at hkind <;> simp_all <;> omega

theorem countP_stalls_le (hazards : List Hazard) :
    hazards.countP stalls ≤ hazards.countP (fun h => h.type = .data && !h.resolved) := by
  refine List.countP_mono_left fun h _ hstalls => ?_
  simp only [stalls, Bool.and_eq_true] at hstalls ⊢
  exact ⟨hstalls.1.1, hstalls.2⟩

theorem countP_control_le (hclassed : ∀ h ∈ hazards, h.Classed) :
    hazards.countP (fun h => h.type = .control && !h.resolved) ≤ (hazards.map (·.subtype)).count .branch := by
  rw [List.count, List.countP_map]
  refine List.countP_mono_left fun h hmem hcontrol => ?_
  have hkind := hclassed h hmem
  unfold Classed at hkind
  split at hkind <;> simp_all

end Hazard

/-! ## Quotients -/

/-- Rounding gives a finite value below the power of two at which the finite values end. -/
theorem Binary64.isInfinite_ofUnits (negative : Bool) {num den k : Nat} (hk : k ≤ 2097) (h : num / den < 2 ^ k) :
    (ofUnits negative num den).isInfinite = false := by
  have hlog : (num / den).log2 - 52 < 2045 := by
    rcases Nat.eq_zero_or_pos (num / den) with hzero | hpos
    · rw [hzero, Nat.log2_zero]
      decide
    · have := (Nat.log2_lt hpos.ne').2 h
      omega
  have hpack : ∀ significand shift, shift ≤ 2045 → (pack negative significand shift).isInfinite = false := by
    intro significand shift hshift
    rw [pack, if_neg (by omega)]
    rfl
  unfold ofUnits
  dsimp only
  split
  · exact hpack _ _ hlog
  · exact hpack _ _ hlog.le

/-- One is a power of two in units; it is not computed. -/
theorem Binary64.exists_one_eq : ∃ j, j = 1074 ∧ one = Nat.pow 2 j := by
  unfold one
  exact ⟨_, rfl, rfl⟩

namespace Number

variable {k : Nat}

/-- A quotient of integers is a finite value unless it is huge. -/
theorem exists_quotient (hk : k ≤ 1020) {num : Int} {den : Nat} (h : num.natAbs ≤ 2 ^ k * den) :
    ∃ x, quotient num den = .ok x := by
  have hunits : num.natAbs * Binary64.one / den ≤ 2 ^ k * Binary64.one := by
    refine Nat.div_le_of_le_mul ?_
    calc num.natAbs * Binary64.one
      _ ≤ 2 ^ k * den * Binary64.one := Nat.mul_le_mul_right _ h
      _ = den * (2 ^ k * Binary64.one) := by rw [Nat.mul_comm (2 ^ k) den, Nat.mul_assoc]
  obtain ⟨j, hj, hone⟩ := Binary64.exists_one_eq
  have hlarge : 2 ^ k * Binary64.one < 2 ^ (k + j + 1) := by
    rw [hone, Nat.pow_eq, ← Nat.pow_add]
    exact Nat.pow_lt_pow_succ Nat.one_lt_two
  have hfinite : (Binary64.ofFraction num den).isInfinite = false :=
    Binary64.isInfinite_ofUnits _ (by omega) (hunits.trans_lt hlarge)
  rw [quotient, hfinite]
  exact ⟨_, rfl⟩

theorem exists_divide (hk : k ≤ 1020) {m n : Int} (h : m.natAbs ≤ 2 ^ k * n.toNat) :
    ∃ x, (int m).divide (int n) = .ok (real x) := by
  obtain ⟨x, hx⟩ := exists_quotient hk h
  refine ⟨x, ?_⟩
  show (quotient m n.toNat).map real = _
  rw [hx]
  rfl

theorem exists_percentage (hk : k ≤ 1020) {m n : Int} (h : m.natAbs ≤ 2 ^ k * n.toNat) :
    ∃ x, (int m).percentage (int n) = .ok (real x) := by
  obtain ⟨x, hx⟩ := exists_divide hk h
  refine ⟨x.mul (constant 100 1), ?_⟩
  rw [percentage, hx]
  rfl

end Number

namespace Metrics

theorem cyclesOrOne_int (cycles : Int) : cyclesOrOne (.int cycles) = .int (max cycles 1) := by
  rw [cyclesOrOne, Number.lt_int]
  split
  · rename_i hlt
    rw [decide_eq_true_eq] at hlt
    rw [max_eq_right hlt.le]
  · rename_i hle
    rw [decide_eq_true_eq, Int.not_lt] at hle
    rw [max_eq_left hle]

end Metrics

namespace State

variable {s t : State}

/-- What the figures are made of. -/
theorem exists_of_metrics_eq_ok {m : Metrics} (h : s.metrics = .ok m) :
    ∃ cpi speedup efficiency : Number, m = {
      totalCycles := .int s.cycle
      executed := .int s.completed
      cpi := cpi.round 2
      dataStalls := s.unresolved .data
      controlStalls := s.unresolved .control
      structuralStalls := s.unresolved .structural
      speedup := speedup.round 2
      efficiency := efficiency.round 1 } := by
  obtain ⟨cpi, -, h⟩ := exists_of_bind_eq_ok h
  obtain ⟨speedup, -, h⟩ := exists_of_bind_eq_ok h
  obtain ⟨efficiency, -, h⟩ := exists_of_bind_eq_ok h
  exact ⟨cpi, speedup, efficiency, (Except.ok.inj h).symm⟩

theorem of_metrics_eq_ok {m : Metrics} (h : s.metrics = .ok m) :
    m.dataStalls = s.unresolved .data ∧ m.controlStalls = s.unresolved .control ∧
      m.structuralStalls = s.unresolved .structural := by
  obtain ⟨_, _, _, rfl⟩ := exists_of_metrics_eq_ok h
  exact ⟨rfl, rfl, rfl⟩

/-- There are figures for a program that is not huge. -/
theorem exists_metrics {k : Nat} (hk : k ≤ 1010) (hsize : s.instructions.size ≤ 2 ^ k) (hcycle : 0 ≤ s.cycle)
    (hbound : s.cycle ≤ 2 * s.instructions.size + 4) : ∃ m, s.metrics = .ok m := by
  have hexponent : k + 4 ≤ 1020 := by omega
  have hlarge : ∀ m n : Int, m.natAbs ≤ 5 * s.instructions.size + 5 → 1 ≤ n →
      m.natAbs ≤ 2 ^ (k + 4) * n.toNat := by
    intro m n hm hn
    have hpos : 1 ≤ 2 ^ k := Nat.one_le_two_pow
    have hmul : 2 ^ (k + 4) * 1 ≤ 2 ^ (k + 4) * n.toNat := Nat.mul_le_mul_left _ (by omega)
    rw [Nat.pow_add] at hmul ⊢
    omega
  obtain ⟨cpi, hcpi⟩ : ∃ x, Metrics.cyclesEach (.int s.cycle) (.int s.completed) = .ok x := by
    unfold Metrics.cyclesEach
    split
    · rename_i hpos
      rw [Number.lt_int, decide_eq_true_eq] at hpos
      obtain ⟨x, hx⟩ := Number.exists_divide hexponent (hlarge s.cycle s.completed (by omega) (by omega))
      exact ⟨_, hx⟩
    · exact ⟨_, rfl⟩
  obtain ⟨speedup, hspeedup⟩ : ∃ x, Metrics.speedupOf s.instructions.size (.int s.cycle) = .ok x := by
    unfold Metrics.speedupOf
    split
    · have htotal : Metrics.sequentialCycles s.instructions.size = s.instructions.size * 5 := rfl
      have hmax : 1 ≤ max s.cycle 1 := le_max_right _ _
      rw [Metrics.cyclesOrOne_int, htotal]
      obtain ⟨x, hx⟩ := Number.exists_divide hexponent (hlarge (s.instructions.size * 5 : Nat) _ (by omega) hmax)
      exact ⟨_, hx⟩
    · exact ⟨_, rfl⟩
  obtain ⟨efficiency, hefficiency⟩ : ∃ x, Metrics.efficiencyOf s.instructions.size (.int s.cycle) = .ok x := by
    have hideal : Metrics.idealCycles s.instructions.size = s.instructions.size + 4 := rfl
    have hmax : 1 ≤ max s.cycle 1 := le_max_right _ _
    rw [Metrics.efficiencyOf, Metrics.cyclesOrOne_int, hideal]
    obtain ⟨x, hx⟩ := Number.exists_percentage hexponent (hlarge (s.instructions.size + 4 : Nat) _ (by omega) hmax)
    exact ⟨_, hx⟩
  rw [metrics, hcpi, hspeedup, hefficiency]
  exact ⟨_, rfl⟩

/-- There is an analysis if no more instructions were completed than cycles have passed. -/
theorem exists_analysis (hcompleted : 0 ≤ s.completed) (hcycle : s.completed ≤ s.cycle) :
    ∃ a, s.analysis = .ok a ∧ a.breakdown = s.breakdown ∧ a.formats = s.formats := by
  obtain ⟨share, hshare⟩ : ∃ x, s.cycleEfficiency = .ok x := by
    unfold cycleEfficiency
    split
    · have hone : s.completed.natAbs ≤ 2 ^ 0 * s.cycle.toNat := by omega
      obtain ⟨x, hx⟩ := Number.exists_percentage (Nat.zero_le _) hone
      exact ⟨_, hx⟩
    · exact ⟨_, rfl⟩
  rw [analysis, hshare]
  exact ⟨_, rfl, rfl, rfl⟩

/-! ## The log -/

/-- The log of hazards fits the counters: its hazards are classed, and there is one for each stall. -/
structure Booked (s : State) : Prop where
  classed : ∀ h ∈ s.hazards, h.Classed
  stalls_le : s.stalls ≤ s.hazards.countP Hazard.stalls

theorem classed_executeHazards (s : State) : ∀ h ∈ s.executeHazards, h.Classed := by
  unfold executeHazards
  split
  · exact nofun
  · exact fun h hmem => Hazard.classed_of_mem_dataHazards hmem

theorem classed_decodeHazards (s : State) : ∀ h ∈ s.decodeHazards, h.Classed := by
  unfold decodeHazards
  split
  · exact nofun
  · exact fun h hmem => Hazard.classed_of_mem_controlHazards hmem

namespace Booked

theorem fresh (storage : Storage) : ({ storage } : State).Booked :=
  ⟨nofun, Int.le_refl 0⟩

theorem load (s : State) (program : List Instruction) : (s.load program).Booked :=
  ⟨nofun, Int.le_refl 0⟩

/-- From execute to the end of a cycle, hazards are added to the log, and a stall is counted only with one of them. -/
theorem advanceFront (h : s.Booked) : s.advanceFront.Booked := by
  obtain ⟨_, _, _, hfront⟩ := s.advanceFront_frame
  have hstalls := h.stalls_le
  refine { classed := ?_, stalls_le := ?_ }
  · rw [hfront]
    dsimp only
    simp only [List.forall_mem_append]
    exact ⟨h.classed, classed_executeHazards s, classed_decodeHazards s.execute⟩
  · have hone : (if s.mustStall then 1 else 0 : Int) ≤ s.executeHazards.countP Hazard.stalls := by
      split
      · rename_i hwaits
        obtain ⟨hazard, hmem, hcounts⟩ := List.any_eq_true.1 hwaits
        have hpos := List.countP_pos_iff.2 ⟨hazard, hmem, hcounts⟩
        omega
      · exact Int.natCast_nonneg _
    rw [hfront]
    dsimp only
    rw [List.countP_append, List.countP_append, Int.natCast_add, Int.natCast_add]
    omega

theorem step (h : s.Booked) (hok : s.step = .ok t) : t.Booked := by
  rcases step_cases hok with ⟨retired, hretired, ⟨-, rfl⟩ | ⟨-, accessed, haccessed, rfl⟩⟩
  · obtain ⟨_, _, _, _, hframe, -⟩ := writeBack_frame hretired
    rw [hframe]
    exact ⟨h.classed, h.stalls_le⟩
  · obtain ⟨_, _, _, _, hframe, -⟩ := accessed_frame hretired haccessed
    have hbooked : accessed.Booked := by
      rw [hframe]
      exact ⟨h.classed, h.stalls_le⟩
    exact hbooked.advanceFront

end Booked

/-! ## The counters -/

variable {program : List Instruction} {p : Phase} {cycles : List Cycle}

/-- The first instruction is completed in the cycle after the fourth one at the earliest, and then one in a cycle at
most. -/
theorem InPhase.completed_le (h : s.InPhase program p) (hcycle : s.cycle = p.front + s.stalls)
    (hstalls : 0 ≤ s.stalls) :
    0 ≤ s.completed ∧ s.completed ≤ s.cycle ∧ (s.completed = 0 ∨ s.completed ≤ s.cycle - 4) := by
  have hcompleted := h.stands.completed
  have hretired : p.retired ≤ p.front - 4 := by
    unfold Phase.retired
    split <;> omega
  exact ⟨by omega, by omega, by omega⟩

/-- A program takes fewer cycles than two for each instruction and four more. -/
theorem Paced.cycle_le (h : s.Paced program p cycles) (hfits : p.Fits program.length) :
    s.cycle ≤ 2 * program.length + 4 := by
  have hcycle := h.cycle
  have hstalls := h.stalls_le
  have hfront := hfits.front_le
  unfold Phase.waited at hstalls
  omega

/-- The excess of a complete program over the least possible number of cycles is the number of its stalls. -/
theorem InPhase.overhead_eq (h : s.InPhase program p) (hpaced : s.Paced program p cycles) (hstalls : 0 ≤ s.stalls)
    (hcomplete : s.isComplete = true) : ∃ c, s.comparison = .ok c ∧ c.overhead = .int s.stalls := by
  have hideal : Metrics.idealCycles s.instructions.size = s.instructions.size + 4 := rfl
  have hsize := h.stands.size_eq
  have hcycle := hpaced.cycle
  have hexcess : s.cycle - ((s.instructions.size + 4 : Nat) : Int) = s.stalls ∨
      s.cycle - ((s.instructions.size + 4 : Nat) : Int) ≤ 0 ∧ s.stalls = 0 := by
    by_cases hne : program = []
    · have hwaited := hpaced.stalls_le
      have hfront := h.fits.front_le
      rw [hne] at hsize hwaited hfront
      simp only [Phase.waited, List.length_nil] at hsize hwaited hfront
      omega
    · have hfront := h.front_of_isComplete hne hcomplete
      omega
  refine ⟨_, rfl, ?_⟩
  rw [hideal]
  simp only [Number.lt_int, decide_eq_true_eq]
  split
  · rename_i hpos
    congr 1
    omega
  · rename_i hle
    congr 1
    omega

end State

/-! ## Engines -/

/-- The figures agree with the log of hazards, with its analysis and with the counter of stalls. -/
structure Metrics.Reconciles (m : Metrics) (a : Analysis) (s : State) : Prop where
  stalls : m.stalls = s.hazards.countP fun h => !h.resolved
  structuralStalls : m.structuralStalls = 0
  dataStalls : m.dataStalls = a.count .waw + s.hazards.countP fun h => h.subtype = .raw && !h.resolved
  stalls_le : s.stalls ≤ m.dataStalls
  controlStalls_le : m.controlStalls ≤ a.count .branch

theorem State.Booked.figures {s : State} {m : Metrics} {a : Analysis} (h : s.Booked) (hm : s.metrics = .ok m)
    (ha : a.breakdown = s.breakdown) : m.Reconciles a s := by
  obtain ⟨hdata, hcontrol, hstructural⟩ := of_metrics_eq_ok hm
  have hcount : ∀ kind, a.count kind = (s.hazards.map (·.subtype)).count kind := by
    intro kind
    rw [Analysis.count, ha, breakdown, Analysis.lookup_breakdownOf]
    rfl
  have hstalls := h.stalls_le
  have hmono := Hazard.countP_stalls_le s.hazards
  refine
    { stalls := ?_, structuralStalls := ?_, dataStalls := ?_, stalls_le := ?_, controlStalls_le := ?_ }
  · rw [Metrics.stalls, hdata, hcontrol, hstructural]
    exact Hazard.countP_classes s.hazards
  · rw [hstructural]
    exact Hazard.countP_structural h.classed
  · rw [hdata, hcount]
    exact Hazard.countP_data h.classed
  · rw [hdata]
    unfold State.unresolved
    omega
  · rw [hcontrol, hcount]
    exact Hazard.countP_control_le h.classed

namespace Engine

open State

theorem Reachable.booked {e : Engine State} (h : Reachable e) : e.state.Booked :=
  h.induction (P := Booked) Booked.fresh (fun s _ _ => Booked.load s _) (fun _ _ hs hok => hs.step hok)
    fun _ _ hs => ⟨hs.classed, hs.stalls_le⟩

/-- **Figures.** For whatever has become of a new engine, the hazards by kind add up to the log and the instructions by
class to the program. No instruction is completed in the first four cycles, and not more than one in a cycle after
that. A complete program exceeds the least possible number of cycles by its stalls. The figures, which exist unless the
program is huge, agree with the log and with the counter of stalls. -/
theorem Reachable.reconciles {e : Engine State} (h : Reachable e) :
    let s := e.state
    ∃ a c, s.analysis = .ok a ∧ s.comparison = .ok c ∧
      Analysis.total a.breakdown = s.hazards.length ∧ Analysis.total a.formats = s.instructions.size ∧
      (s.completed = 0 ∨ s.completed ≤ s.cycle - 4) ∧
      (s.isComplete = true → c.overhead = .int s.stalls) ∧
      (s.instructions.size ≤ 2 ^ 1000 → ∃ m, s.metrics = .ok m) ∧
      ∀ m, s.metrics = .ok m → m.Reconciles a s := by
  intro s
  obtain ⟨start, program, cycles, hcourse⟩ := h.exists_course
  obtain ⟨p, hp, hpaced, hnoted⟩ := hcourse.paced
  have hstalls : 0 ≤ s.stalls := by
    rw [hnoted.stalls]
    exact Int.natCast_nonneg _
  obtain ⟨hnonneg, hle, hfill⟩ := hp.completed_le hpaced.cycle hstalls
  obtain ⟨a, ha, hbreakdown, hformats⟩ := exists_analysis hnonneg hle
  refine ⟨a, _, ha, rfl, ?_, ?_, hfill, ?_, ?_, ?_⟩
  · rw [hbreakdown]
    exact sum_breakdown s
  · rw [hformats, formats, Analysis.total_formatsOf, List.length_map, Array.length_toList]
  · intro hcomplete
    obtain ⟨c, hc, hoverhead⟩ := hp.overhead_eq hpaced hstalls hcomplete
    rw [Except.ok.inj hc]
    exact hoverhead
  · intro hsize
    refine exists_metrics (by decide) hsize (hnonneg.trans hle) ?_
    rw [hp.stands.size_eq]
    exact hpaced.cycle_le hp.fits
  · exact fun m hm => h.booked.figures hm hbreakdown

/-- A sum waits for a word that is loaded to its own destination, while a branch is held in decode. -/
theorem Reachable.reconciles_held_branch :
    let new : Engine State := { source := .seeded 0, state := { storage := .zero } }
    ∃ e a c m, (new.load "LW R1, 0(R2)\nADD R1, R1, R3\nBEQ R1, R2, 8").run 100 = .ok e ∧ Reachable e ∧
      e.state.analysis = .ok a ∧ e.state.comparison = .ok c ∧ e.state.metrics = .ok m ∧ m.Reconciles a e.state ∧
      c.overhead = .int e.state.stalls ∧ e.state.stalls = 1 ∧ m.dataStalls = 2 ∧ m.controlStalls = 2 := by
  intro new
  have hok : ((new.load "LW R1, 0(R2)\nADD R1, R1, R3\nBEQ R1, R2, 8").run 100).toOption.any (fun e =>
      e.state.isComplete && decide (e.state.instructions.size = 3) && decide (e.state.stalls = 1) &&
        decide (e.state.unresolved .data = 2) && decide (e.state.unresolved .control = 2)) = true := by
    decide +kernel
  obtain ⟨e, he, hresult⟩ := exists_of_any_toOption hok
  simp only [Bool.and_eq_true, decide_eq_true_eq] at hresult
  obtain ⟨⟨⟨⟨hcomplete, hthree⟩, hstalls⟩, hdata⟩, hcontrol⟩ := hresult
  have hreachable : Reachable e := ((Reachable.fresh (.seeded 0) .zero).load _).run 100 he
  have hsize : e.state.instructions.size ≤ 2 ^ 1000 := by
    have hpow : ∀ k, 2 ≤ k → 3 ≤ 2 ^ k :=
      fun k hk => Nat.le_trans (by decide : 3 ≤ 2 ^ 2) (Nat.pow_le_pow_right Nat.two_pos hk)
    rw [hthree]
    exact hpow 1000 (by decide)
  obtain ⟨a, c, ha, hc, -, -, -, hoverhead, hfigures, hreconciles⟩ := hreachable.reconciles
  obtain ⟨m, hm⟩ := hfigures hsize
  obtain ⟨hdataStalls, hcontrolStalls, -⟩ := of_metrics_eq_ok hm
  exact ⟨e, a, c, m, he, hreachable, ha, hc, hm, hreconciles m hm, hoverhead hcomplete, hstalls,
    hdataStalls.trans hdata, hcontrolStalls.trans hcontrol⟩

end Engine

end FiveStage
