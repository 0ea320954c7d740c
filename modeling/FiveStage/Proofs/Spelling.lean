import FiveStage.Decimal
import FiveStage.Proofs.Neighbours
import FiveStage.State.Datapath

/-!
# Spelling

Two operands that denote one register need not be equal texts, and equal texts are what the data hazards go by. The case
of the letter does not matter, because register names are put into upper case when a program is read; leading zeros do.

Main statements:
* `RegisterName.IsPlain.eq_of_find`: registers have one plain name in upper case;
* `Program.normalized_or_offset_of_mem_parse`: the operands of a program are normalized, but for offsets;
* `Hazard.raw_mem_between_iff`: a read after a write is noticed exactly between equal texts;
* `Hazard.raw_mem_dataHazards`: so a read of a register after a write to it is noticed if both are spelled plainly;
* `Hazard.dataHazards_leading_zero`: it goes unnoticed if one of them has a leading zero.
-/

namespace FiveStage

/-! ## Plain names -/

namespace RegisterName

/-- The text is the letter R, in either case, and the number of a register in decimal without leading zeros. -/
def IsPlain (cs : List Char) : Prop :=
  ∃ letter, isLetter letter = true ∧ ∃ k : Fin registerCount, cs = letter :: Decimal.digits k

theorem isLetter_iff {c : Char} : isLetter c = true ↔ c = 'R' ∨ c = 'r' := by
  simp [isLetter]

/-- A plain text is a register name as a whole, and denotes the register with its number. -/
theorem isName_and_find_plain {letter : Char} (h : isLetter letter = true) (k : Fin registerCount) :
    isName (letter :: Decimal.digits k) = true ∧ find (letter :: Decimal.digits k) = .ok (some k) := by
  have hupper : ∀ k : Fin registerCount,
      isName ('R' :: Decimal.digits k) = true ∧ find ('R' :: Decimal.digits k) = .ok (some k) := by
    decide +kernel
  have hlower : ∀ k : Fin registerCount,
      isName ('r' :: Decimal.digits k) = true ∧ find ('r' :: Decimal.digits k) = .ok (some k) := by
    decide +kernel
  obtain rfl | rfl := isLetter_iff.1 h
  · exact hupper k
  · exact hlower k

theorem IsPlain.isName {cs : List Char} (h : IsPlain cs) : isName cs = true := by
  obtain ⟨letter, hletter, k, rfl⟩ := h
  exact (isName_and_find_plain hletter k).1

/-- A register has one plain name in upper case. -/
theorem IsPlain.eq_of_find {cs : List Char} {k : Fin registerCount} (h : IsPlain cs) (hupper : cs.head? = some 'R')
    (hk : find cs = .ok (some k)) : cs = 'R' :: Decimal.digits k := by
  obtain ⟨letter, hletter, j, rfl⟩ := h
  rw [(isName_and_find_plain hletter j).2] at hk
  rw [Option.some.inj hupper, Option.some.inj (Except.ok.inj hk)]

end RegisterName

/-! ## Operands of a program -/

namespace Program

open Text

/-- A register name that is normalized has its letter in upper case. -/
theorem head?_normalize {part : List Char} (h : RegisterName.isName (normalize part) = true) :
    (normalize part).head? = some 'R' := by
  unfold normalize at h ⊢
  split
  · rename_i hname
    cases part with
    | nil => cases hname
    | cons c rest =>
      obtain rfl | rfl := RegisterName.isLetter_iff.1 ((RegisterName.isName_iff c rest).1 hname).1
      · rfl
      · rfl
  · rename_i hname
    rw [if_neg hname] at h
    exact absurd h hname

/-- An instruction of a program is read from one of its lines. -/
theorem exists_parseLine_of_mem_parseLines {before : Nat} {pc : Int} {ls : List (List Char)} {i : Instruction}
    (h : i ∈ (parseLines before pc ls).instructions) : ∃ line ∈ ls, ∃ pc id, parseLine line pc id = .ok i := by
  induction ls generalizing before pc with
  | nil => cases h
  | cons line rest ih =>
    rw [parseLines] at h
    split at h
    · rename_i first hfirst
      obtain rfl | hrest := List.mem_cons.1 h
      · exact ⟨line, List.mem_cons_self .., pc, _, hfirst⟩
      · obtain ⟨found, hfound, hline⟩ := ih hrest
        exact ⟨found, List.mem_cons_of_mem _ hfound, hline⟩
    · obtain ⟨found, hfound, hline⟩ := ih h
      exact ⟨found, List.mem_cons_of_mem _ hfound, hline⟩

/-- The operands of an instruction as a text. -/
def operandText (i : Instruction) : List Char :=
  join [' '] (words i.raw.toList).tail

/-- What stands in front of a base in the operands. -/
def offsets (i : Instruction) : List (List Char) :=
  (splitOn ',' (operandText i)).filterMap fun part => (offsetAndBase? (normalize (trim part))).map (trim ·.1)

theorem operands_of_parseLine {line : List Char} {pc : Int} {id : String} {i : Instruction}
    (h : parseLine line pc id = .ok i) :
    i.operands = [] ∨ i.operands = (parseOperands (operandText i) i.opcode).map String.ofList := by
  unfold parseLine at h
  dsimp only at h
  split at h
  · cases h
  · rename_i token rest hwords
    split at h
    · cases h
    · rw [← Except.ok.inj h, operandText, String.toList_ofList, hwords, List.tail_cons]
      by_cases hrest : rest.isEmpty = true
      · exact .inl (by rw [if_pos hrest]; rfl)
      · exact .inr (by rw [if_neg hrest])

theorem mem_splitBase {part operand : List Char} (h : operand ∈ splitBase part) :
    operand = part ∨ (∃ base, operand = normalize base) ∨ operand ∈ (offsetAndBase? part).map (trim ·.1) := by
  unfold splitBase at h
  split at h
  · rename_i offset base hsplit
    obtain rfl | hbase := List.mem_cons.1 h
    · exact .inr (.inr (by rw [hsplit]; rfl))
    · exact .inr (.inl ⟨trim base, List.mem_singleton.1 hbase⟩)
  · exact .inl (List.mem_singleton.1 h)

/-- An operand of a program is normalized or stands in front of a base. -/
theorem normalized_or_offset_of_mem_parse {text : String} {i : Instruction} {operand : String}
    (h : i ∈ (parse text).instructions) (ho : operand ∈ i.operands) :
    (∃ part, operand.toList = normalize part) ∨ operand.toList ∈ offsets i := by
  obtain ⟨line, -, pc, id, hline⟩ := exists_parseLine_of_mem_parseLines h
  obtain hnone | hoperands := operands_of_parseLine hline
  · rw [hnone] at ho
    cases ho
  · rw [hoperands] at ho
    obtain ⟨found, hfound, rfl⟩ := List.mem_map.1 ho
    rw [String.toList_ofList]
    unfold parseOperands at hfound
    dsimp only at hfound
    split at hfound
    · obtain ⟨_, hpart, hbase⟩ := List.mem_flatMap.1 hfound
      obtain ⟨part, hmem, rfl⟩ := List.mem_map.1 hpart
      obtain rfl | hnormal | hoffset := mem_splitBase hbase
      · exact .inl ⟨trim part, rfl⟩
      · exact .inl hnormal
      · exact .inr (List.mem_filterMap.2 ⟨part, hmem, hoffset⟩)
    · obtain ⟨part, -, rfl⟩ := List.mem_map.1 hfound
      exact .inl ⟨trim part, rfl⟩

end Program

/-! ## Dependencies -/

/-- The operand is a plain register name. In front of a base, where it is read as it stands, its letter is in upper
case. -/
def Instruction.SpellsPlainly (i : Instruction) (operand : String) : Prop :=
  RegisterName.IsPlain operand.toList ∧ (operand.toList ∈ Program.offsets i → operand.toList.head? = some 'R')

theorem Instruction.mem_of_mem_operandsAt {i : Instruction} {positions : List Nat} {operand : String}
    (h : operand ∈ i.operandsAt positions) : operand ∈ i.operands := by
  obtain ⟨position, -, ho⟩ := List.mem_filterMap.1 h
  exact List.mem_of_getElem? ho

/-- The operands of a program that denote a register and are spelled plainly are one text. -/
theorem Instruction.SpellsPlainly.eq {text : String} {i : Instruction} {operand : String} {k : Fin registerCount}
    (h : i.SpellsPlainly operand) (hi : i ∈ (Program.parse text).instructions) (ho : operand ∈ i.operands)
    (hk : registerOf operand = .ok (some k)) : operand = String.ofList ('R' :: Decimal.digits k) := by
  have hupper : operand.toList.head? = some 'R' := by
    obtain ⟨part, hpart⟩ | hoffset := Program.normalized_or_offset_of_mem_parse hi ho
    · have hname := h.1.isName
      rw [hpart] at hname ⊢
      exact Program.head?_normalize hname
    · exact h.2 hoffset
  rw [← h.1.eq_of_find hupper hk, String.ofList_toList]

namespace Hazard

theorem mem_pairs_iff {xs ys : List String} {hazard : String → Hazard} {h : Hazard} :
    h ∈ pairs xs ys hazard ↔ ∃ x ∈ xs, x ∈ ys ∧ h = hazard x := by
  simp only [pairs, List.mem_flatMap, List.mem_map, List.mem_filter, decide_eq_true_eq]
  constructor
  · rintro ⟨x, hx, y, ⟨hy, rfl⟩, rfl⟩
    exact ⟨x, hx, hy, rfl⟩
  · rintro ⟨x, hx, hy, rfl⟩
    exact ⟨x, hx, x, ⟨hy, rfl⟩, rfl⟩

/-- A read after a write is noticed exactly between equal texts. -/
theorem raw_mem_between_iff {consumer producer : Instruction} {forwarding : Bool} {cycle : Int} {h : Hazard} :
    h ∈ between consumer producer forwarding cycle ∧ h.subtype = .raw ↔
      ∃ register ∈ consumer.reads, register ∈ producer.writes ∧
        h = raw consumer producer forwarding cycle register := by
  simp only [between, List.mem_append, mem_pairs_iff]
  constructor
  · rintro ⟨(hraw | ⟨register, -, -, rfl⟩) | ⟨register, -, -, rfl⟩, hsubtype⟩
    · exact hraw
    · cases hsubtype
    · cases hsubtype
  · rintro ⟨register, hr, hw, rfl⟩
    exact ⟨.inl (.inl ⟨register, hr, hw, rfl⟩), rfl⟩

theorem exists_raw_iff {consumer producer : Instruction} {forwarding : Bool} {cycle : Int} :
    (∃ h ∈ between consumer producer forwarding cycle, h.subtype = .raw) ↔
      ∃ register ∈ consumer.reads, register ∈ producer.writes := by
  simp only [raw_mem_between_iff]
  constructor
  · rintro ⟨_, register, hread, hwritten, -⟩
    exact ⟨register, hread, hwritten⟩
  · rintro ⟨register, hread, hwritten⟩
    exact ⟨_, register, hread, hwritten, rfl⟩

/-- **Dependencies.** Of two instructions of a program, let one be in one of the last three stages and write a register
that the other reads. If both spell the register plainly, then a data hazard of the kind of a read after a write names
the two instructions and this register. In general there is such a hazard exactly if a text that the one reads is a text
that the other writes. -/
theorem raw_mem_dataHazards {text : String} {producer consumer : Placed} {pipeline : Pipeline Placed} {stage : Stage}
    {written read : String} {k : Fin registerCount} (forwarding : Bool) (cycle? : Option Int)
    (hproducer : producer.code ∈ (Program.parse text).instructions)
    (hconsumer : consumer.code ∈ (Program.parse text).instructions) (hne : producer.index ≠ consumer.index)
    (hstage : stage ∈ comparedStages) (hget : pipeline.get stage = some producer)
    (hwritten : written ∈ producer.code.writes) (hread : read ∈ consumer.code.reads)
    (hkw : registerOf written = .ok (some k)) (hkr : registerOf read = .ok (some k))
    (hplainw : producer.code.SpellsPlainly written) (hplainr : consumer.code.SpellsPlainly read) :
    raw consumer.code producer.code forwarding (cycle?.getD consumer.fetched) read ∈
        dataHazards consumer pipeline forwarding cycle? ∧
      (∃ h ∈ dataHazards consumer pipeline forwarding cycle?, h.type = .data ∧ h.subtype = .raw ∧
        h.instruction1 = producer.code.raw ∧ h.instruction2 = consumer.code.raw ∧
        h.description = consumer.code.raw ++ " reads " ++ read ++ " written by " ++ producer.code.raw) ∧
      ∀ cycle, (∃ h ∈ between consumer.code producer.code forwarding cycle, h.subtype = .raw) ↔
        ∃ register ∈ consumer.code.reads, register ∈ producer.code.writes := by
  have hw := hplainw.eq hproducer (Instruction.mem_of_mem_operandsAt hwritten) hkw
  have hr := hplainr.eq hconsumer (Instruction.mem_of_mem_operandsAt hread) hkr
  have hsame : read ∈ producer.code.writes := by
    rw [hr, ← hw]
    exact hwritten
  have hfound : raw consumer.code producer.code forwarding (cycle?.getD consumer.fetched) read ∈
      dataHazards consumer pipeline forwarding cycle? :=
    (mem_dataHazards_iff_exists ..).2
      ⟨stage, hstage, producer, hget, hne, (raw_mem_between_iff.2 ⟨read, hread, hsame, rfl⟩).1⟩
  exact ⟨hfound, ⟨_, hfound, rfl, rfl, rfl, rfl, rfl⟩, fun cycle => exists_raw_iff⟩

/-- A load into a register and a sum that reads it, with the letter in either case. -/
theorem raw_mem_dataHazards_lower_case :
    let text := "lw r1, 0(r2)\nadd r3, r1, R4"
    let load : Placed := ⟨0, ⟨"0", 0x400000, .lw, ["R1", "0", "R2"], "lw r1, 0(r2)"⟩, 1⟩
    let sum : Placed := ⟨1, ⟨"1", 0x400004, .add, ["R3", "R1", "R4"], "add r3, r1, R4"⟩, 2⟩
    (Program.parse text).instructions = [load.code, sum.code] ∧
      ∃ h ∈ dataHazards sum { memory := some load } true (some 5), h.type = .data ∧ h.subtype = .raw ∧
        h.instruction1 = "lw r1, 0(r2)" ∧ h.instruction2 = "add r3, r1, R4" ∧
        h.description = "add r3, r1, R4 reads R1 written by lw r1, 0(r2)" := by
  intro text load sum
  have hparse : (Program.parse text).instructions = [load.code, sum.code] := by
    decide +kernel
  have hplain : RegisterName.IsPlain "R1".toList := ⟨'R', rfl, 1, by decide +kernel⟩
  have hone : registerOf "R1" = .ok (some 1) := by
    decide +kernel
  have hload : load.code ∈ (Program.parse text).instructions := by
    simp [hparse]
  have hsum : sum.code ∈ (Program.parse text).instructions := by
    simp [hparse]
  have hget : ({ memory := some load } : Pipeline Placed).get .memory = some load := rfl
  have hwritten : "R1" ∈ load.code.writes := by
    decide
  have hread : "R1" ∈ sum.code.reads := by
    decide
  obtain ⟨-, hfound, -⟩ := raw_mem_dataHazards true (some 5) hload hsum (by decide) (by decide) hget hwritten hread hone
    hone ⟨hplain, fun _ => by decide⟩ ⟨hplain, fun _ => by decide⟩
  exact ⟨hparse, hfound⟩

/-- A sum is put into a register that the next one reads under another name: each name denotes register 1, but no hazard
is noticed. -/
theorem dataHazards_leading_zero :
    let first : Placed := ⟨0, ⟨"0", 0x400000, .add, ["R01", "R2", "R3"], "ADD R01, R2, R3"⟩, 1⟩
    let second : Placed := ⟨1, ⟨"1", 0x400004, .add, ["R4", "R1", "R5"], "ADD R4, R1, R5"⟩, 2⟩
    (Program.parse "ADD R01, R2, R3\nADD R4, R1, R5").instructions = [first.code, second.code] ∧
      first.code.writes = ["R01"] ∧ second.code.reads = ["R1", "R5"] ∧
      registerOf "R01" = .ok (some 1) ∧ registerOf "R1" = .ok (some 1) ∧
      dataHazards second { execute := some first } false (some 5) = [] := by
  decide +kernel

end Hazard

end FiveStage
