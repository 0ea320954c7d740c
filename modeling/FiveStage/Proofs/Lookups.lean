import FiveStage.Proofs.Faults
import FiveStage.Proofs.Pieces
import FiveStage.Proofs.Stalls

/-!
# Looking up registers

Whether an operand is a register name is judged of the operand as a whole, but it is looked up by the first register
that is named anywhere in it. The two agree unless a register is named among other characters: such an operand is no
register name, and still stands for this register.

Main statements:
* `RegisterName.number?_eq_some_iff`: the digits that are looked up are those of the first register that is named;
* `Program.IsOperand.isName_iff_exists`: the operands that are register names;
* `registerOf_operand`: what an operand denotes, and which operands are looked up as a whole;
* `registerOf_surrounded`: one for which it does not.
-/

namespace FiveStage

open Text
open Grammar (Register)

/-! ## Registers in a text -/

namespace Text

variable {c : Char} {cs back : List Char}

/-- The values of the digits at the beginning are those of the longest row of digits there. -/
theorem leadingDigits_eq (cs : List Char) :
    leadingDigits cs = (cs.takeWhile isDecimalDigit).filterMap decimalDigit? := by
  induction cs with
  | nil => rfl
  | cons c cs ih =>
    rw [leadingDigits, List.takeWhile_cons, isDecimalDigit]
    cases hc : decimalDigit? c with
    | none => rfl
    | some d => simp [hc, ih]

theorem leadingDigits_append {digits : List Char} (hdigits : ∀ c ∈ digits, isDecimalDigit c = true)
    (hback : ∀ c ∈ back.head?, isDecimalDigit c = false) :
    leadingDigits (digits ++ back) = digits.filterMap decimalDigit? := by
  have hnone : back.takeWhile isDecimalDigit = [] := by
    cases back with
    | nil => rfl
    | cons c back => exact List.takeWhile_cons_of_neg (by rw [hback c rfl]; exact Bool.false_ne_true)
  rw [leadingDigits_eq, List.takeWhile_append_of_pos hdigits, hnone, List.append_nil]

theorem not_isDecimalDigit_of_mem_head?_dropWhile :
    ∀ c ∈ (cs.dropWhile isDecimalDigit).head?, isDecimalDigit c = false := by
  intro c hc
  have hhead := List.head?_dropWhile_not isDecimalDigit cs
  rwa [Option.mem_def.1 hc] at hhead

theorem leadingDigits_cons_ne_nil_iff : leadingDigits (c :: cs) ≠ [] ↔ isDecimalDigit c = true := by
  rw [leadingDigits, isDecimalDigit]
  cases decimalDigit? c <;> simp

end Text

namespace Grammar.Register

variable {r : Register} {c : Char} {cs front back rest : List Char}

/-- The number in the name. -/
def number (r : Register) : Nat :=
  Numeral.valueOf 10 (r.digits.filterMap decimalDigit?)

/-- The register is the first one that is named in the text, with all the digits that stand there. -/
def IsFirstIn (r : Register) (cs : List Char) : Prop :=
  ∃ front back, cs = front ++ r.text ++ back ∧ (∀ other : Register, ¬other.text <:+: front) ∧
    ∀ c ∈ back.head?, isDecimalDigit c = false

theorem not_isDecimalDigit_letter (r : Register) : isDecimalDigit r.letter = false := by
  obtain h | h := RegisterName.isLetter_iff.1 r.isLetter <;> rw [h] <;> decide +kernel

/-- A letter R in front of a digit names a register. -/
theorem exists_text_append (hletter : RegisterName.isLetter c = true) (hdigits : leadingDigits rest ≠ []) :
    ∃ r : Register, c :: rest = r.text ++ rest.dropWhile isDecimalDigit ∧
      r.digits.filterMap decimalDigit? = leadingDigits rest := by
  rw [leadingDigits_eq] at hdigits ⊢
  have hne : rest.takeWhile isDecimalDigit ≠ [] := by
    intro hnil
    rw [hnil] at hdigits
    exact hdigits rfl
  refine ⟨⟨c, rest.takeWhile isDecimalDigit, hletter, fun _ hc => List.mem_takeWhile_imp hc, hne⟩, ?_, rfl⟩
  rw [text, List.cons_append, List.takeWhile_append_dropWhile]

theorem leadingDigits_digits_append (r : Register) (back : List Char) : leadingDigits (r.digits ++ back) ≠ [] := by
  obtain ⟨c, digits, hdigits⟩ := List.exists_cons_of_ne_nil r.ne_nil
  rw [hdigits, List.cons_append, leadingDigits_cons_ne_nil_iff]
  exact r.isDigit c (by rw [hdigits]; exact List.mem_cons_self ..)

theorem not_infix_nil (r : Register) : ¬r.text <:+: [] :=
  fun h => List.cons_ne_nil _ _ (List.infix_nil.1 h)

end Grammar.Register

namespace RegisterName

variable {cs : List Char} {ds : List Nat}

theorem number?_cons (c : Char) (rest : List Char) :
    number? (c :: rest) =
      if isLetter c = true ∧ leadingDigits rest ≠ [] then some (leadingDigits rest) else number? rest := by
  simp [number?]

/-- What is looked up are the digits of the first register that is named. -/
theorem number?_eq_some_iff :
    number? cs = some ds ↔ ∃ r : Register, r.IsFirstIn cs ∧ r.digits.filterMap decimalDigit? = ds := by
  constructor
  · intro h
    induction cs with
    | nil => cases h
    | cons c rest ih =>
      rw [number?_cons] at h
      split at h
      · rename_i hbegins
        obtain ⟨r, hcs, hdigits⟩ := Register.exists_text_append hbegins.1 hbegins.2
        exact ⟨r, ⟨[], _, hcs, fun other => other.not_infix_nil, not_isDecimalDigit_of_mem_head?_dropWhile⟩,
          hdigits.trans (Option.some.inj h)⟩
      · rename_i hbegins
        obtain ⟨r, ⟨front, back, rfl, hfront, hback⟩, hdigits⟩ := ih h
        refine ⟨r, ⟨c :: front, back, rfl, fun other hother => ?_, hback⟩, hdigits⟩
        obtain ⟨tail, hprefix⟩ | hwithin := List.infix_cons_iff.1 hother
        · -- A name that begins with the first character would have been found.
          rw [Register.text, List.cons_append] at hprefix
          obtain ⟨rfl, rfl⟩ := List.cons.inj hprefix
          refine hbegins ⟨other.isLetter, ?_⟩
          rw [List.append_assoc, List.append_assoc]
          exact other.leadingDigits_digits_append _
        · exact hfront other hwithin
  · rintro ⟨r, ⟨front, back, rfl, hfront, hback⟩, rfl⟩
    induction front with
    | nil =>
      rw [List.nil_append, Register.text, List.cons_append, number?_cons,
        if_pos ⟨r.isLetter, r.leadingDigits_digits_append back⟩, leadingDigits_append r.isDigit hback]
    | cons c front ih =>
      rw [List.cons_append, List.cons_append, number?_cons, if_neg]
      · exact ih fun other hother => hfront other (List.infix_cons hother)
      · rintro ⟨hletter, hdigits⟩
        cases front with
        | nil =>
          rw [List.nil_append, Register.text, List.cons_append, leadingDigits_cons_ne_nil_iff,
            r.not_isDecimalDigit_letter] at hdigits
          cases hdigits
        | cons d front =>
          rw [List.cons_append, List.cons_append, leadingDigits_cons_ne_nil_iff] at hdigits
          let other : Register := ⟨c, [d], hletter, List.forall_mem_singleton.2 hdigits, List.cons_ne_nil _ _⟩
          exact hfront other (List.prefix_append [c, d] front).isInfix

theorem find_of_readable (h : Readable cs) :
    find cs = .ok ((number? cs).bind fun ds => ofNumber? (Numeral.valueOf 10 ds)) := by
  unfold find
  cases hnumber : number? cs with
  | none => rfl
  | some ds => exact if_neg (Nat.not_lt.2 (h ds hnumber))

theorem ofNumber?_eq_some_iff {n : Nat} {k : Fin registerCount} : ofNumber? n = some k ↔ n = k := by
  unfold ofNumber?
  split
  · rw [Option.some.injEq, Fin.ext_iff]
  · have := k.isLt
    exact iff_of_false nofun (by omega)

/-- Unless its number is too long, the first register that is named is the one that is found. -/
theorem find_eq_ok_some_iff (h : Readable cs) {k : Fin registerCount} :
    find cs = .ok (some k) ↔ ∃ r : Register, r.IsFirstIn cs ∧ r.number = k := by
  rw [find_of_readable h, Except.ok.injEq, Option.bind_eq_some_iff]
  constructor
  · rintro ⟨ds, hnumber, hk⟩
    obtain ⟨r, hr, rfl⟩ := number?_eq_some_iff.1 hnumber
    exact ⟨r, hr, ofNumber?_eq_some_iff.1 hk⟩
  · rintro ⟨r, hr, hk⟩
    exact ⟨_, number?_eq_some_iff.2 ⟨r, hr, rfl⟩, ofNumber?_eq_some_iff.2 hk⟩

theorem find_eq_ok_none_iff (h : Readable cs) :
    find cs = .ok none ↔ ∀ r : Register, r.IsFirstIn cs → registerCount ≤ r.number := by
  constructor
  · intro hnone r hr
    by_contra hlt
    have hsome : find cs = .ok (some ⟨r.number, Nat.not_le.1 hlt⟩) := (find_eq_ok_some_iff h).2 ⟨r, hr, rfl⟩
    rw [hnone] at hsome
    cases hsome
  · intro hlarge
    obtain ⟨found, hfound⟩ := readable_iff.1 h
    cases found with
    | none => exact hfound
    | some k =>
      obtain ⟨r, hr, hk⟩ := (find_eq_ok_some_iff h).1 hfound
      have := hlarge r hr
      have := k.isLt
      omega

end RegisterName

/-! ## Operands -/

namespace Grammar.Register

variable {r other : Register} {cs : List Char}

/-- A register is the first one in its own name. -/
theorem isFirstIn_text (r : Register) : r.IsFirstIn r.text :=
  ⟨[], [], by rw [List.nil_append, List.append_nil], fun other => other.not_infix_nil, nofun⟩

/-- No other name begins within the name of a register, and none ends within it. -/
theorem IsFirstIn.text_eq (h : r.IsFirstIn other.text) : r.text = other.text := by
  obtain ⟨front, back, htext, -, hback⟩ := h
  cases front with
  | nil =>
    cases back with
    | nil => rw [htext, List.nil_append, List.append_nil]
    | cons c back =>
      have hmem : c ∈ other.digits := by
        rw [text, List.nil_append, text, List.cons_append] at htext
        rw [(List.cons.inj htext).2]
        exact List.mem_append_right _ (List.mem_cons_self ..)
      have hc := hback c rfl
      rw [other.isDigit c hmem] at hc
      cases hc
  | cons c front =>
    have hmem : r.letter ∈ other.digits := by
      rw [text, List.cons_append, List.cons_append] at htext
      rw [(List.cons.inj htext).2]
      exact List.mem_append_left _ (List.mem_append_right _ (List.mem_cons_self ..))
    have hletter := r.not_isDecimalDigit_letter
    rw [other.isDigit _ hmem] at hletter
    cases hletter

/-- A register name may end in a line feed, but not if it is trimmed. -/
theorem exists_text_of_trimmed (h : RegisterName.isName cs = true) (htrim : trim cs = cs) :
    ∃ r : Register, r.text = cs := by
  cases cs with
  | nil => cases h
  | cons c rest =>
    obtain ⟨hletter, hdigits, hend⟩ := (RegisterName.isName_iff c rest).1 h
    obtain ⟨r, hcs, -⟩ := exists_text_append hletter hdigits
    obtain hend | hend := hend
    · exact ⟨r, by rw [hcs, hend, List.append_nil]⟩
    · have hgap : IsGap ['\n'] := by decide +kernel
      rw [hcs, hend, trim_append_gap hgap] at htrim
      have hlength := (trim_within r.text).length_le
      rw [htrim, List.length_append, List.length_singleton] at hlength
      omega

end Grammar.Register

namespace Program

/-- The operand can come out of a text, as an opcode reads it. -/
def IsOperand (operand : String) : Prop :=
  ∃ (text : List Char) (op : Opcode), operand.toList ∈ parseOperands text op

/-- So is every operand of a program. -/
theorem isOperand_of_mem_parse {text : String} {i : Instruction} {operand : String}
    (h : i ∈ (parse text).instructions) (ho : operand ∈ i.operands) : IsOperand operand := by
  obtain ⟨line, -, pc, id, hline⟩ := exists_parseLine_of_mem_parseLines h
  obtain hnone | hoperands := operands_of_parseLine hline
  · rw [hnone] at ho
    cases ho
  · rw [hoperands] at ho
    obtain ⟨found, hfound, rfl⟩ := List.mem_map.1 ho
    exact ⟨operandText i, i.opcode, by rwa [String.toList_ofList]⟩

/-- What is trimmed stays so in upper case. -/
theorem trim_normalize_trim (cs : List Char) : trim (normalize (trim cs)) = normalize (trim cs) := by
  unfold normalize
  split
  · rename_i hname
    obtain ⟨r, hr⟩ := Register.exists_text_of_trimmed hname (trim_trim cs)
    rw [← hr]
    exact trim_of_solid r.isToken_upper.isSolid
  · exact trim_trim cs

theorem trim_of_mem_splitBase {part cs : List Char} (hpart : trim part = part) (h : cs ∈ splitBase part) :
    trim cs = cs := by
  unfold splitBase at h
  split at h
  · rename_i offset base _
    obtain rfl | h := List.mem_cons.1 h
    · exact trim_trim offset
    · obtain rfl := List.mem_singleton.1 h
      exact trim_normalize_trim base
  · obtain rfl := List.mem_singleton.1 h
    exact hpart

/-- An operand is trimmed. -/
theorem trim_of_mem_parseOperands {text cs : List Char} {op : Opcode} (h : cs ∈ parseOperands text op) :
    trim cs = cs := by
  have hpart : ∀ part ∈ (splitOn ',' text).map (fun part => normalize (trim part)), trim part = part := by
    intro part hpart
    obtain ⟨piece, -, rfl⟩ := List.mem_map.1 hpart
    exact trim_normalize_trim piece
  unfold parseOperands at h
  dsimp only at h
  split at h
  · obtain ⟨part, hmem, hcs⟩ := List.mem_flatMap.1 h
    exact trim_of_mem_splitBase (hpart part hmem) hcs
  · exact hpart cs h

/-- The operands that are register names as a whole are the registers. -/
theorem IsOperand.isName_iff_exists {operand : String} (h : IsOperand operand) :
    RegisterName.isName operand.toList = true ↔ ∃ r : Register, r.text = operand.toList := by
  obtain ⟨text, op, hmem⟩ := h
  constructor
  · exact fun hname => Register.exists_text_of_trimmed hname (trim_of_mem_parseOperands hmem)
  · rintro ⟨r, hr⟩
    rw [← hr]
    exact r.isName_text

end Program

/-! ## Reading and writing -/

/-- An operand that denotes no register is read as zero and never written. -/
theorem Storage.of_registerOf_eq_none {operand : String} (h : registerOf operand = .ok none) (st : Storage) :
    st.operandValue (some operand) = .ok 0 ∧
      ∀ i : Instruction, operand ∈ i.writes → ∀ cycle, st.retire i cycle = .ok st := by
  refine ⟨by rw [Storage.operandValue, h], fun i hi cycle => ?_⟩
  have hdestination : destination i = .ok none := by
    rw [destination, Instruction.writes_eq_of_mem hi]
    dsimp only
    rw [h]
    rfl
  rw [retire, hdestination]
  rfl

/-- The operand denotes the register that it is the name of. If it is the name of none that exists, it is read as zero
and never written. -/
structure IsLookedUpAsWhole (operand : String) : Prop where
  found : ∀ k : Fin registerCount,
    registerOf operand = .ok (some k) ↔ ∃ r : Register, r.text = operand.toList ∧ r.number = k
  missing : (∀ r : Register, r.text = operand.toList → registerCount ≤ r.number) →
    registerOf operand = .ok none ∧ ∀ st : Storage, st.operandValue (some operand) = .ok 0 ∧
      ∀ i : Instruction, operand ∈ i.writes → ∀ cycle, st.retire i cycle = .ok st

theorem isLookedUpAsWhole_iff {operand : String} (h : RegisterName.Readable operand.toList) :
    IsLookedUpAsWhole operand ↔
      ∀ r : Register, r.IsFirstIn operand.toList → r.number < registerCount → r.text = operand.toList := by
  constructor
  · intro hwhole r hr hlt
    obtain ⟨other, hother, -⟩ := (hwhole.found ⟨r.number, hlt⟩).1 ((RegisterName.find_eq_ok_some_iff h).2 ⟨r, hr, rfl⟩)
    rw [← hother] at hr ⊢
    exact hr.text_eq
  · refine fun hfirst => ⟨fun k => (RegisterName.find_eq_ok_some_iff h).trans ?_, fun hlarge => ?_⟩
    · constructor
      · rintro ⟨r, hr, hk⟩
        exact ⟨r, hfirst r hr (hk ▸ k.isLt), hk⟩
      · rintro ⟨r, hr, hk⟩
        exact ⟨r, hr ▸ r.isFirstIn_text, hk⟩
    · have hnone : registerOf operand = .ok none := by
        refine (RegisterName.find_eq_ok_none_iff h).2 fun r hr => ?_
        by_contra hlt
        exact hlt (hlarge r (hfirst r hr (Nat.not_le.1 hlt)))
      exact ⟨hnone, Storage.of_registerOf_eq_none hnone⟩

/-- **Lookups.** The operands that are register names are the registers, and what an operand denotes is the first
register that is named in it. So it is looked up as a whole exactly if no register that exists is named in it first
among other characters. -/
theorem registerOf_operand {operand : String} (ho : Program.IsOperand operand)
    (hreadable : RegisterName.Readable operand.toList) :
    (RegisterName.isName operand.toList = true ↔ ∃ r : Register, r.text = operand.toList) ∧
    (∀ k : Fin registerCount,
      registerOf operand = .ok (some k) ↔ ∃ r : Register, r.IsFirstIn operand.toList ∧ r.number = k) ∧
    (IsLookedUpAsWhole operand ↔
      ∀ r : Register, r.IsFirstIn operand.toList → r.number < registerCount → r.text = operand.toList) :=
  ⟨ho.isName_iff_exists, fun _ => RegisterName.find_eq_ok_some_iff hreadable, isLookedUpAsWhole_iff hreadable⟩

/-- A base in lower case, with digits of another script, is looked up as the register that it names. -/
theorem registerOf_operand_arabic :
    Program.IsOperand "R\u0660\u0667" ∧ RegisterName.Readable "R\u0660\u0667".toList ∧
      registerOf "R\u0660\u0667" = .ok (some 7) := by
  have ho : Program.IsOperand "R\u0660\u0667" :=
    ⟨"R1, 8(r\u0660\u0667)".toList, .lw, by decide +kernel⟩
  have hreadable : RegisterName.Readable "R\u0660\u0667".toList := by
    decide +kernel
  obtain ⟨-, hfirst, -⟩ := registerOf_operand ho hreadable
  let seven : Register := ⟨'R', ['\u0660', '\u0667'], rfl, List.all_eq_true.1 rfl, List.cons_ne_nil _ _⟩
  exact ⟨ho, hreadable, (hfirst 7).2 ⟨seven, seven.isFirstIn_text, by decide +kernel⟩⟩

/-- A register among other characters is found, although the operand is no register name. -/
theorem registerOf_surrounded :
    (Program.parse "ADD R3, XR1, R2").instructions.map (·.operands) = [["R3", "XR1", "R2"]] ∧
      Program.IsOperand "XR1" ∧ RegisterName.Readable "XR1".toList ∧ RegisterName.isName "XR1".toList = false ∧
      registerOf "XR1" = .ok (some 1) ∧ ¬IsLookedUpAsWhole "XR1" := by
  have hparse : (Program.parse "ADD R3, XR1, R2").instructions.map (·.operands) = [["R3", "XR1", "R2"]] := by
    decide +kernel
  have ho : Program.IsOperand "XR1" := by
    have hmem : ["R3", "XR1", "R2"] ∈ (Program.parse "ADD R3, XR1, R2").instructions.map (·.operands) := by
      rw [hparse]
      exact List.mem_singleton_self _
    obtain ⟨i, hi, hoperands⟩ := List.mem_map.1 hmem
    exact Program.isOperand_of_mem_parse hi (by rw [hoperands]; decide)
  have hname : RegisterName.isName "XR1".toList = false := by
    decide +kernel
  have hfound : registerOf "XR1" = .ok (some 1) := by
    decide +kernel
  refine ⟨hparse, ho, by decide +kernel, hname, hfound, fun hwhole => ?_⟩
  obtain ⟨r, hr, -⟩ := (hwhole.found 1).1 hfound
  rw [← hr, r.isName_text] at hname
  cases hname

end FiveStage
