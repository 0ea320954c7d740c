import FiveStage.Proofs.Spacing
import FiveStage.Proofs.Spelling
import Mathlib.Data.List.TakeWhile

/-!
# Pieces of a line

What stands on a line behind an opcode: registers and immediates, and marks between them, with any blanks around them.
Upper case keeps blanks and marks apart from the letters of an opcode, and leaves the digits of a register as they are.

Main statements:
* `upperChar_of_not_bare`, `of_isDecimalDigit`: blanks, marks and digits have no upper case;
* `Register.upper_text`, `Register.exists_text_eq`: registers are the texts that are register names;
* `Spaced.squeezed`: pieces that are squeezed stay the same pieces;
* `map_squeeze_splitOn`, `spaced_intersperse`: what stands between marks are the pieces.
-/

namespace FiveStage.Grammar

open Text

/-! ## Characters -/

/-- The marks that separate operands or begin a comment. -/
def marks : List Char :=
  [',', '(', ')', '#', '/']

/-- The character can stand in an operand: it is neither blank nor a mark. -/
def isBare (c : Char) : Bool :=
  !isBlank c && !marks.contains c

/-- The code points, by ranges, of the characters that are not bare. -/
def separatorRanges : List (Nat × Nat) :=
  [
    (0x9, 0xD), (0x1C, 0x20), (0x23, 0x23), (0x28, 0x29), (0x2C, 0x2C), (0x2F, 0x2F), (0x85, 0x85), (0xA0, 0xA0),
    (0x1680, 0x1680), (0x2000, 0x200A), (0x2028, 0x2029), (0x202F, 0x202F), (0x205F, 0x205F), (0x3000, 0x3000)
  ]

/-- No character between two code points has an upper case. -/
def isCaseless (low high : Nat) : Bool :=
  (high < 0x61 || 0x7A < low) && caseRuns.all (fun run => high < run.first || run.last < low) &&
    caseExpansions.all fun expansion => high < expansion.1 || expansion.1 < low

variable {c : Char} {cs : List Char} {low high : Nat}

theorem isBlank_of_isBare (h : isBare c = true) : isBlank c = false := by
  rw [isBare, Bool.and_eq_true, Bool.not_eq_true'] at h
  exact h.1

theorem exists_range_of_not_bare (h : isBare c = false) :
    ∃ range ∈ separatorRanges, range.1 ≤ c.toNat ∧ c.toNat ≤ range.2 := by
  have hmarks : ∀ mark ∈ marks, mark.toNat ∈ [0x23, 0x28, 0x29, 0x2C, 0x2F] := by
    simp [marks]
  have hcode : isBlank c = true ∨ c.toNat ∈ [0x23, 0x28, 0x29, 0x2C, 0x2F] := by
    rw [isBare, Bool.and_eq_false_iff, Bool.not_eq_false', Bool.not_eq_false', List.contains_iff_mem] at h
    exact h.imp_right (hmarks c)
  simp only [isBlank, Bool.or_eq_true, Bool.and_eq_true, decide_eq_true_eq, beq_iff_eq, List.mem_cons,
    List.not_mem_nil, or_false] at hcode
  simp only [separatorRanges, List.exists_mem_cons_iff, List.not_mem_nil, false_and, exists_false, or_false]
  omega

theorem upperChar_of_caseless (h : isCaseless low high = true) (hlow : low ≤ c.toNat) (hhigh : c.toNat ≤ high) :
    upperChar c = [c] := by
  simp only [isCaseless, Bool.and_eq_true, Bool.or_eq_true, decide_eq_true_eq, List.all_eq_true] at h
  obtain ⟨⟨hascii, hruns⟩, hexpansions⟩ := h
  unfold upperChar
  split
  · have hletter : ¬('a'.val ≤ c.val ∧ c.val ≤ 'z'.val) := by
      intro hletter
      have hfrom : 0x61 ≤ c.toNat := UInt32.le_iff_toNat_le.1 hletter.1
      have hto : c.toNat ≤ 0x7A := UInt32.le_iff_toNat_le.1 hletter.2
      omega
    have hsame : c.toUpper = c := dif_neg hletter
    rw [hsame]
  · have hexpansion : caseExpansions.lookup c.toNat = none := by
      rw [List.lookup_eq_none_iff]
      intro expansion hmem
      have := hexpansions expansion hmem
      rw [bne_iff_ne]
      omega
    have hrun : caseRuns.findSome? (·.upper? c.toNat) = none := by
      rw [List.findSome?_eq_none_iff]
      intro run hmem
      have := hruns run hmem
      rw [CaseRun.upper?, if_neg]
      simp only [Bool.and_eq_true, decide_eq_true_eq]
      omega
    rw [hexpansion, hrun]

/-- Neither blanks nor marks have an upper case. -/
theorem upperChar_of_not_bare (h : isBare c = false) : upperChar c = [c] := by
  have hranges : ∀ range ∈ separatorRanges, isCaseless range.1 range.2 = true := by
    decide +kernel
  obtain ⟨range, hrange, hlow, hhigh⟩ := exists_range_of_not_bare h
  exact upperChar_of_caseless (hranges range hrange) hlow hhigh

/-- Decimal digits are bare and have no upper case. -/
theorem of_isDecimalDigit (h : isDecimalDigit c = true) : upperChar c = [c] ∧ isBare c = true := by
  have hcase : ∀ first ∈ digitZeros, isCaseless first (first + 9) = true := by
    decide +kernel
  have hapart : ∀ first ∈ digitZeros, ∀ range ∈ separatorRanges, first + 9 < range.1 ∨ range.2 < first := by
    decide +kernel
  obtain ⟨d, hd⟩ := Option.isSome_iff_exists.1 h
  obtain ⟨first, hfound, rfl⟩ := Option.map_eq_some_iff.1 hd
  have hfirst := List.mem_of_find?_eq_some hfound
  have hrange := List.find?_some hfound
  rw [Bool.and_eq_true, decide_eq_true_eq, decide_eq_true_eq] at hrange
  refine ⟨upperChar_of_caseless (hcase first hfirst) hrange.1 hrange.2, Bool.not_eq_false _ ▸ fun hbare => ?_⟩
  obtain ⟨range, hseparator, hseparated⟩ := exists_range_of_not_bare hbare
  have := hapart first hfirst range hseparator
  omega

/-- What is the name of an opcode in upper case is bare. -/
theorem isBare_of_mem_mnemonic {opcode : Opcode} {mnemonic : List Char} (h : upper mnemonic = opcode.name.toList)
    (hc : c ∈ mnemonic) : isBare c = true := by
  have hnames : ∀ opcode ∈ Opcode.all, opcode.name.toList.all isBare = true := by
    decide +kernel
  cases hbare : isBare c with
  | true => rfl
  | false =>
    have hmem : c ∈ upper mnemonic := List.mem_flatMap.2 ⟨c, hc, by rw [upperChar_of_not_bare hbare]; simp⟩
    rw [h] at hmem
    rw [← hbare, List.all_eq_true.1 (hnames opcode opcode.mem_all) c hmem]

/-! ## Pieces -/

theorem upper_of_caseless (h : ∀ c ∈ cs, upperChar c = [c]) : upper cs = cs := by
  induction cs with
  | nil => rfl
  | cons c cs ih =>
    obtain ⟨hc, hcs⟩ := List.forall_mem_cons.1 h
    rw [upper, List.flatMap_cons, hc, List.singleton_append]
    exact congrArg (c :: ·) (ih hcs)

/-- The text can stand as an operand: it has characters, and all of them are bare. -/
def IsToken (cs : List Char) : Prop :=
  cs ≠ [] ∧ ∀ c ∈ cs, isBare c = true

theorem IsToken.isSolid (h : IsToken cs) : IsSolid cs :=
  fun c hc => isBlank_of_isBare (h.2 c hc)

theorem IsToken.not_mem {mark : Char} (h : IsToken cs) (hmark : isBare mark = false) : mark ∉ cs := by
  intro hmem
  rw [h.2 mark hmem] at hmark
  cases hmark

theorem isToken_mnemonic {opcode : Opcode} {mnemonic : List Char} (h : upper mnemonic = opcode.name.toList) :
    IsToken mnemonic := by
  refine ⟨?_, fun c hc => isBare_of_mem_mnemonic h hc⟩
  rintro rfl
  cases opcode <;> cases h

/-- A register as it is written: the letter R, in either case, and decimal digits of any script. -/
structure Register where
  letter : Char
  digits : List Char
  isLetter : RegisterName.isLetter letter = true
  isDigit : ∀ c ∈ digits, isDecimalDigit c = true
  ne_nil : digits ≠ []

/-- An offset or a target as it is written: a text that is no register name and can stand in an operand. -/
structure Immediate where
  text : List Char
  isToken : IsToken text
  noName : RegisterName.isName text = false

namespace Register

variable (r : Register)

def text : List Char :=
  r.letter :: r.digits

/-- The register as an operand, which is in upper case. -/
def operand : String :=
  String.ofList (upper r.text)

theorem upper_text : upper r.text = 'R' :: r.digits := by
  have hdigits : upper r.digits = r.digits := upper_of_caseless fun c hc => (of_isDecimalDigit (r.isDigit c hc)).1
  have hletter : upperChar r.letter = ['R'] := by
    obtain h | h := RegisterName.isLetter_iff.1 r.isLetter <;> rw [h] <;> decide +kernel
  rw [text, upper, List.flatMap_cons, hletter, List.singleton_append]
  exact congrArg ('R' :: ·) hdigits

theorem isName_cons_digits {letter : Char} (h : RegisterName.isLetter letter = true) :
    RegisterName.isName (letter :: r.digits) = true := by
  refine (RegisterName.isName_iff ..).2 ⟨h, ?_, .inl (List.dropWhile_eq_nil_iff.2 r.isDigit)⟩
  obtain ⟨c, digits, hdigits⟩ := List.exists_cons_of_ne_nil r.ne_nil
  obtain ⟨d, hd⟩ := Option.isSome_iff_exists.1 (r.isDigit c (by rw [hdigits]; exact List.mem_cons_self ..))
  rw [hdigits, leadingDigits, hd]
  exact List.cons_ne_nil _ _

theorem isName_text : RegisterName.isName r.text = true :=
  r.isName_cons_digits r.isLetter

theorem isName_operand : RegisterName.isName r.operand.toList = true := by
  rw [operand, String.toList_ofList, upper_text]
  exact r.isName_cons_digits rfl

theorem isToken_cons_digits {letter : Char} (h : RegisterName.isLetter letter = true) :
    IsToken (letter :: r.digits) := by
  refine ⟨List.cons_ne_nil _ _, List.forall_mem_cons.2 ⟨?_, fun c hc => (of_isDecimalDigit (r.isDigit c hc)).2⟩⟩
  obtain h | h := RegisterName.isLetter_iff.1 h <;> rw [h] <;> decide

theorem isToken_text : IsToken r.text :=
  r.isToken_cons_digits r.isLetter

theorem isToken_upper : IsToken (upper r.text) := by
  rw [upper_text]
  exact r.isToken_cons_digits rfl

theorem normalize_text : Program.normalize r.text = upper r.text :=
  if_pos r.isName_text

/-- What is a register name as a whole is a register, unless a line feed ends it. -/
theorem exists_text_eq (h : RegisterName.isName cs = true) (hfeed : '\n' ∉ cs) : ∃ r : Register, r.text = cs := by
  cases cs with
  | nil => cases h
  | cons c rest =>
    obtain ⟨hletter, hleading, hdigits⟩ := (RegisterName.isName_iff c rest).1 h
    have hrest : rest ≠ [] := by
      rintro rfl
      exact hleading rfl
    obtain hdigits | hdigits := hdigits
    · exact ⟨⟨c, rest, hletter, List.dropWhile_eq_nil_iff.1 hdigits, hrest⟩, rfl⟩
    · have hmem : '\n' ∈ rest.dropWhile isDecimalDigit := by
        rw [hdigits]
        exact List.mem_cons_self ..
      exact absurd (List.mem_cons_of_mem c ((List.dropWhile_sublist _).subset hmem)) hfeed

end Register

/-- The immediate as an operand. -/
def Immediate.operand (k : Immediate) : String :=
  String.ofList k.text

theorem Immediate.normalize_text (k : Immediate) : Program.normalize k.text = k.text :=
  if_neg (Bool.eq_false_iff.1 k.noName)

/-! ## Spaced pieces -/

/-- The text consists of the pieces, with blanks between them and at the ends. -/
inductive Spaced : List (List Char) → List Char → Prop
  | nil {gap : List Char} (hgap : IsGap gap) : Spaced [] gap
  | cons {gap piece text : List Char} {pieces : List (List Char)} (hgap : IsGap gap) (rest : Spaced pieces text) :
    Spaced (piece :: pieces) (gap ++ piece ++ text)

variable {text piece w : List Char} {pieces ws : List (List Char)} {mark : Char}

theorem Spaced.gap_append {gap : List Char} (hgap : IsGap gap) (h : Spaced pieces text) :
    Spaced pieces (gap ++ text) := by
  cases h with
  | nil h => exact .nil (hgap.append h)
  | cons h rest =>
    rw [List.append_assoc, ← List.append_assoc, ← List.append_assoc]
    exact .cons (hgap.append h) rest

theorem Spaced.mem (h : Spaced pieces text) (hc : c ∈ text) : isBlank c = true ∨ ∃ piece ∈ pieces, c ∈ piece := by
  induction h with
  | nil hgap => exact .inl (hgap c hc)
  | cons hgap _ ih =>
    simp only [List.mem_append] at hc
    obtain (hc | hc) | hc := hc
    · exact .inl (hgap c hc)
    · exact .inr ⟨_, List.mem_cons_self .., hc⟩
    · exact (ih hc).imp_right fun ⟨piece, hpiece, hmem⟩ => ⟨piece, List.mem_cons_of_mem _ hpiece, hmem⟩

theorem Spaced.not_mem (hmark : isBlank mark = false) (h : Spaced pieces text)
    (hpieces : ∀ piece ∈ pieces, mark ∉ piece) : mark ∉ text := by
  intro hmem
  obtain hblank | ⟨piece, hpiece, hin⟩ := h.mem hmem
  · rw [hblank] at hmark
    cases hmark
  · exact hpieces piece hpiece hin

/-- Pieces that are squeezed stay the same pieces. -/
theorem Spaced.squeezed (h : Spaced pieces text) (hsolid : ∀ piece ∈ pieces, IsSolid piece) :
    Spaced pieces (squeeze text) := by
  induction h with
  | nil hgap =>
    rw [squeeze_of_gap hgap]
    exact .nil nofun
  | @cons gap piece text pieces hgap _ ih =>
    obtain ⟨hpiece, hpieces⟩ := List.forall_mem_cons.1 hsolid
    obtain ⟨n, hn⟩ := squeeze_append piece text
    rw [List.append_assoc, squeeze_gap_append hgap, hn, squeeze_of_solid hpiece, List.append_assoc]
    have hnil : IsGap [] := nofun
    exact .cons hnil ((ih hpieces).gap_append (isGap_replicate n))

/-- One piece stands between two gaps. -/
theorem Spaced.exists_gaps (h : Spaced [w] text) :
    ∃ front back, text = front ++ w ++ back ∧ IsGap front ∧ IsGap back := by
  cases h with
  | cons hfront rest =>
    cases rest with
    | nil hback => exact ⟨_, _, rfl, hfront, hback⟩

theorem Spaced.squeeze_eq (h : Spaced [w] text) (hw : IsSolid w) : squeeze text = w := by
  obtain ⟨front, back, rfl, hfront, hback⟩ := h.exists_gaps
  rw [squeeze_append_gap hback, squeeze_gap_append hfront, squeeze_of_solid hw]

theorem Spaced.trim_eq (h : Spaced [w] text) (hw : IsSolid w) : trim text = w := by
  obtain ⟨front, back, rfl, hfront, hback⟩ := h.exists_gaps
  rw [trim_append_gap hback, trim_gap_append hfront, trim_of_solid hw]

theorem Spaced.not_gap (h : Spaced (w :: pieces) text) (hw : IsToken w) : ¬IsGap text := by
  intro hblank
  cases h with
  | cons hgap rest =>
    obtain ⟨c, v, rfl⟩ := List.exists_cons_of_ne_nil hw.1
    have hc : isBlank c = true := hblank c (by simp)
    rw [hw.isSolid c (List.mem_cons_self ..)] at hc
    cases hc

/-- The first mark of a text may be one of the pieces. -/
theorem Spaced.exists_mark (h : Spaced (w :: [mark] :: pieces) text) :
    ∃ a b, text = a ++ mark :: b ∧ Spaced [w] a ∧ Spaced pieces b := by
  cases h with
  | cons hgap rest =>
    cases rest with
    | @cons gap' _ b _ hgap' rest =>
      refine ⟨_ ++ w ++ gap', b, ?_, .cons hgap (.nil hgap'), rest⟩
      simp

/-- Between marks stand the pieces. -/
theorem map_squeeze_splitOn (hmark : isBlank mark = false) (hne : ws ≠ []) (hws : ∀ w ∈ ws, IsSolid w ∧ mark ∉ w)
    (h : Spaced (ws.intersperse [mark]) text) : (splitOn mark text).map squeeze = ws := by
  induction ws generalizing text with
  | nil => exact absurd rfl hne
  | cons w ws ih =>
    obtain ⟨⟨hw, hmem⟩, hrest⟩ := List.forall_mem_cons.1 hws
    have hfirst {a : List Char} (ha : Spaced [w] a) : mark ∉ a :=
      ha.not_mem hmark (List.forall_mem_singleton.2 hmem)
    cases ws with
    | nil =>
      have hlast : Spaced [w] text := h
      rw [splitOn_of_not_mem (hfirst hlast), List.map_singleton, hlast.squeeze_eq hw]
    | cons v ws =>
      obtain ⟨a, b, rfl, ha, hb⟩ := Spaced.exists_mark h
      rw [splitOn_append (hfirst ha), List.map_cons, ha.squeeze_eq hw, ih (List.cons_ne_nil _ _) hrest hb]

/-- A text whose parts are squeezed to one word each consists of these words and the marks. -/
theorem spaced_intersperse (h : (splitOn mark text).map squeeze = ws) (hws : ∀ w ∈ ws, IsSolid w ∧ w ≠ []) :
    Spaced (ws.intersperse [mark]) text := by
  induction ws generalizing text with
  | nil => exact absurd (List.map_eq_nil_iff.1 h) (splitOn_ne_nil mark text)
  | cons w ws ih =>
    obtain ⟨⟨hw, hne⟩, hrest⟩ := List.forall_mem_cons.1 hws
    obtain ⟨part, parts, hparts, hpart, hmap⟩ := List.map_eq_cons_iff.1 h
    obtain ⟨front, back, rfl, hfront, hback⟩ := exists_of_squeeze_eq hw hne hpart
    obtain ⟨rfl, rfl⟩ | ⟨b, rfl, hb⟩ := splitOn_eq_cons hparts
    · cases hmap
      exact .cons hfront (.nil hback)
    · have htail := ih (by rw [hb]; exact hmap) hrest
      cases ws with
      | nil => exact absurd (List.map_eq_nil_iff.1 hmap) (hb ▸ splitOn_ne_nil mark b)
      | cons v ws =>
        have hspaced : Spaced ([mark] :: (v :: ws).intersperse [mark]) (back ++ [mark] ++ b) := .cons hback htail
        have hline : front ++ w ++ back ++ mark :: b = front ++ w ++ (back ++ [mark] ++ b) := by
          simp
        rw [hline]
        exact .cons hfront hspaced

end FiveStage.Grammar
