import FiveStage.Proofs.Spacing
import FiveStage.State.Datapath
import Mathlib.Data.List.TakeWhile
import Mathlib.Data.Nat.Digits.Defs

/-!
# Offsets in every notation

An offset is read as a literal, and what is no literal is read once more in decimal. The two readings complete each
other: a literal has a mark for its base but no zeros in front of a decimal number, and a decimal numeral has zeros but
no mark. So an integer is read at its value however it is written, in the four bases, with zeros in front, with letters
in either case and with underscores between the digits; only in decimal the number of digits is limited.

Main statements:
* `valueOf_paddedDigits`: zeros in front do not count;
* `readDigits_of_row`: a row of digits is read at its value;
* `literalMagnitude_or_decimalMagnitude`: one of the two readings gives a magnitude;
* `Writing.offsetValue_text`: an integer is read from all its writings.
-/

namespace FiveStage.Numeral

open Text

variable {base d : Nat} {c : Char} {cs sign rest : List Char} {ds : List Nat} {n : Int}

/-! ## Digits -/

/-- The marks that name a base, each with its base. Ten needs none. -/
def marks : List (Nat × List Char) :=
  [
    (10, []), (16, ['0', 'x']), (16, ['0', 'X']), (8, ['0', 'o']), (8, ['0', 'O']), (2, ['0', 'b']), (2, ['0', 'B'])
  ]

/-- The character is a digit; if it is a letter, it may be in upper case. -/
def IsDigit (d : Nat) (c : Char) : Prop :=
  c = d.digitChar ∨ c = d.digitChar.toUpper

/-- The digits of a number behind some zeros, most significant digit first. The number zero is written with zeros
alone. -/
def paddedDigits (base zeros n : Nat) : List Nat :=
  List.replicate zeros 0 ++ (Nat.digits base n).reverse

theorem valueOf_eq_ofDigits (base : Nat) (ds : List Nat) : valueOf base ds = Nat.ofDigits base ds.reverse := by
  rw [valueOf, Nat.ofDigits_eq_foldr, List.foldr_reverse]
  congr 1
  funext n d
  rw [Nat.cast_id, Nat.mul_comm, Nat.add_comm]

/-- Zeros in front of a number do not count. -/
theorem valueOf_paddedDigits (base zeros n : Nat) : valueOf base (paddedDigits base zeros n) = n := by
  rw [valueOf_eq_ofDigits, paddedDigits, List.reverse_append, List.reverse_reverse, List.reverse_replicate,
    Nat.ofDigits_append_replicate_zero, Nat.ofDigits_digits]

theorem lt_of_mem_paddedDigits (hbase : 1 < base) {zeros n : Nat} (h : d ∈ paddedDigits base zeros n) : d < base := by
  rw [paddedDigits, List.mem_append, List.mem_replicate, List.mem_reverse] at h
  obtain ⟨-, rfl⟩ | h := h
  · omega
  · exact Nat.digits_lt_base hbase h

/-- What holds of the digits below a bound in both cases holds of them as they are written. -/
theorem IsDigit.of_forall {bound : Nat} {p : Nat → Char → Prop} (h : IsDigit d c) (hd : d < bound)
    (hall : ∀ d : Fin bound, p d d.val.digitChar ∧ p d d.val.digitChar.toUpper) : p d c := by
  obtain rfl | rfl := h
  · exact (hall ⟨d, hd⟩).1
  · exact (hall ⟨d, hd⟩).2

/-- A digit is neither an underscore nor a sign. -/
theorem IsDigit.not_mem (h : IsDigit d c) (hd : d < 16) : c ∉ ['_', '-', '+'] :=
  h.of_forall (p := fun _ c => c ∉ ['_', '-', '+']) hd (by decide +kernel)

/-- A decimal digit is no letter of a mark. -/
theorem IsDigit.not_mem_letters (h : IsDigit d c) (hd : d < 10) : c ∉ ['x', 'X', 'o', 'O', 'b', 'B'] :=
  h.of_forall (p := fun _ c => c ∉ ['x', 'X', 'o', 'O', 'b', 'B']) hd (by decide +kernel)

/-- Digits are read at their values in all bases that have them. -/
theorem IsDigit.digitValue?_eq (h : IsDigit d c) (hd : d < 16) (hbase : d < base) : digitValue? base c = some d := by
  have hvalue : digitValue? 16 c = some d :=
    h.of_forall (p := fun d c => digitValue? 16 c = some d) hd (by decide +kernel)
  rw [digitValue?, Option.filter_eq_some_iff] at hvalue ⊢
  exact ⟨hvalue.1, decide_eq_true hbase⟩

/-- The character is no blank, and stays when the digits of all scripts are put into ASCII. -/
def IsPlain (c : Char) : Prop :=
  isBlank c = false ∧ toAsciiDigit c = c

instance (c : Char) : Decidable (IsPlain c) :=
  inferInstanceAs (Decidable (_ ∧ _))

/-- All characters are plain. -/
def ArePlain (cs : List Char) : Prop :=
  ∀ c ∈ cs, IsPlain c

instance (cs : List Char) : Decidable (ArePlain cs) :=
  decidable_of_iff (cs.all (fun c => decide (IsPlain c)) = true) (by simp [ArePlain])

theorem IsDigit.isPlain (h : IsDigit d c) (hd : d < 16) : IsPlain c :=
  h.of_forall (p := fun _ c => IsPlain c) hd (by decide +kernel)

/-! ## Rows of digits -/

/-- The digits stand in a row, with single underscores between some of them. -/
inductive Row : List Nat → List Char → Prop
  | last {d : Nat} {c : Char} (hc : IsDigit d c) : Row [d] [c]
  | next {d : Nat} {c : Char} {ds : List Nat} {cs : List Char} (hc : IsDigit d c) (rest : Row ds cs) :
    Row (d :: ds) (c :: cs)
  | apart {d : Nat} {c : Char} {ds : List Nat} {cs : List Char} (hc : IsDigit d c) (rest : Row ds cs) :
    Row (d :: ds) (c :: '_' :: cs)

/-- A row begins with a digit. -/
theorem Row.exists_cons (h : Row ds cs) : ∃ d ∈ ds, ∃ c rest, cs = c :: rest ∧ IsDigit d c := by
  cases h with
  | last hc => exact ⟨_, List.mem_cons_self .., _, _, rfl, hc⟩
  | next hc => exact ⟨_, List.mem_cons_self .., _, _, rfl, hc⟩
  | apart hc => exact ⟨_, List.mem_cons_self .., _, _, rfl, hc⟩

theorem Row.mem (h : Row ds cs) (hmem : c ∈ cs) : c = '_' ∨ ∃ d ∈ ds, IsDigit d c := by
  induction h with
  | last hc =>
    obtain rfl := List.mem_singleton.1 hmem
    exact .inr ⟨_, List.mem_cons_self .., hc⟩
  | next hc _ ih =>
    obtain rfl | hmem := List.mem_cons.1 hmem
    · exact .inr ⟨_, List.mem_cons_self .., hc⟩
    · exact (ih hmem).imp_right fun ⟨d, hd, hdigit⟩ => ⟨d, List.mem_cons_of_mem _ hd, hdigit⟩
  | apart hc _ ih =>
    obtain rfl | hmem := List.mem_cons.1 hmem
    · exact .inr ⟨_, List.mem_cons_self .., hc⟩
    · obtain rfl | hmem := List.mem_cons.1 hmem
      · exact .inl rfl
      · exact (ih hmem).imp_right fun ⟨d, hd, hdigit⟩ => ⟨d, List.mem_cons_of_mem _ hd, hdigit⟩

theorem groupedDigits?_of_row (h : Row ds cs) (hbase : base ≤ 16) (hds : ∀ d ∈ ds, d < base) :
    groupedDigits? base cs = some ds := by
  have hvalue {d : Nat} {c : Char} (hc : IsDigit d c) (hd : d < base) : digitValue? base c = some d :=
    hc.digitValue?_eq (by omega) hd
  induction h with
  | last hc =>
    rw [groupedDigits?, hvalue hc (hds _ (List.mem_singleton_self _))]
    rfl
  | next hc rest ih =>
    obtain ⟨hd, hrest⟩ := List.forall_mem_cons.1 hds
    obtain ⟨e, he, c, tail, hcs, hdigit⟩ := rest.exists_cons
    have hc' : c ≠ '_' := fun hsame => hdigit.not_mem (Nat.lt_of_lt_of_le (hrest e he) hbase) (by simp [hsame])
    rw [groupedDigits?, hvalue hc hd, ih hrest]
    · exact fun hnil => absurd (hcs.symm.trans hnil) (List.cons_ne_nil c tail)
    · exact fun _ hapart => hc' (List.cons.inj (hcs.symm.trans hapart)).1
  | apart hc rest ih =>
    obtain ⟨hd, hrest⟩ := List.forall_mem_cons.1 hds
    rw [groupedDigits?, hvalue hc hd, ih hrest]

/-- A row of digits is read at its value. -/
theorem readDigits_of_row (h : Row ds cs) (hbase : base ≤ 16) (hds : ∀ d ∈ ds, d < base) {limited : Bool}
    (hlimit : limited = true → ds.length ≤ digitLimit) : readDigits base limited cs = .ok (valueOf base ds) := by
  have hbelongs : ∀ c ∈ cs, ((digitValue? base c).isSome || decide (c = '_')) = true := by
    intro c hc
    obtain rfl | ⟨d, hd, hdigit⟩ := h.mem hc
    · exact Bool.or_true _
    · have hlt := hds d hd
      rw [hdigit.digitValue?_eq (by omega) hlt]
      rfl
  unfold readDigits
  dsimp only
  rw [List.takeWhile_eq_self_iff.2 hbelongs, List.dropWhile_eq_nil_iff.2 hbelongs, groupedDigits?_of_row h hbase hds]
  dsimp only
  rw [if_neg]
  · rfl
  · rw [Bool.and_eq_true, decide_eq_true_eq, not_and, Nat.not_lt]
    exact hlimit

/-! ## Magnitudes -/

theorem readMarked_of_row (h : Row ds cs) (hbase : base ≤ 16) (hds : ∀ d ∈ ds, d < base) :
    readMarked base cs = .ok (valueOf base ds) := by
  obtain ⟨d, hd, c, rest, rfl, hdigit⟩ := h.exists_cons
  have hc : c ≠ '_' := fun hsame => hdigit.not_mem (Nat.lt_of_lt_of_le (hds d hd) hbase) (by simp [hsame])
  rw [readMarked]
  · exact readDigits_of_row h hbase hds nofun
  · exact fun _ hcons => hc (List.cons.inj hcons).1

/-- A mark is followed by the digits of its base. -/
theorem literalMagnitude_of_mark {mark : List Char} (hmark : (base, mark) ∈ marks) (hne : mark ≠ []) (h : Row ds cs)
    (hds : ∀ d ∈ ds, d < base) : literalMagnitude (mark ++ cs) = .ok (valueOf base ds) := by
  have hread (hbase : base ≤ 16) : readMarked base cs = .ok (valueOf base ds) := readMarked_of_row h hbase hds
  simp only [marks, List.mem_cons, Prod.mk.injEq, List.not_mem_nil, or_false] at hmark
  obtain ⟨-, rfl⟩ | ⟨rfl, rfl⟩ | ⟨rfl, rfl⟩ | ⟨rfl, rfl⟩ | ⟨rfl, rfl⟩ | ⟨rfl, rfl⟩ | ⟨rfl, rfl⟩ := hmark
  · exact absurd rfl hne
  all_goals exact hread (by decide)

/-- Without a mark, a literal is a decimal numeral or nothing. -/
theorem literalMagnitude_of_row (h : Row ds cs) (hds : ∀ d ∈ ds, d < 10) (hlimit : ds.length ≤ digitLimit) :
    literalMagnitude cs = .ok (valueOf 10 ds) ∨ literalMagnitude cs = .error .malformed := by
  have hread : readDigits 10 true cs = .ok (valueOf 10 ds) := readDigits_of_row h (by decide) hds fun _ => hlimit
  unfold literalMagnitude
  split
  · rename_i second rest
    have hsecond : second ∉ ['x', 'X', 'o', 'O', 'b', 'B'] := by
      obtain rfl | ⟨d, hd, hdigit⟩ := h.mem (List.mem_cons_of_mem _ (List.mem_cons_self ..))
      · decide
      · exact hdigit.not_mem_letters (hds d hd)
    simp only [List.mem_cons, List.not_mem_nil, or_false, not_or] at hsecond
    obtain ⟨hx, hX, ho, hO, hb, hB⟩ := hsecond
    rw [if_neg (not_or.2 ⟨hx, hX⟩), if_neg (not_or.2 ⟨ho, hO⟩), if_neg (not_or.2 ⟨hb, hB⟩), hread]
    cases valueOf 10 ds with
    | zero => exact .inl rfl
    | succ value => exact .inr rfl
  · exact .inl hread

/-! ## Signs -/

/-- The sign can stand in front of the digits of an integer. -/
def IsSign (n : Int) (sign : List Char) : Prop :=
  if n < 0 then sign = ['-'] else sign = [] ∨ sign = ['+']

/-- A sign makes an integer of a magnitude, in whatever notation that is. -/
theorem readSigned_append (hsign : IsSign n sign) (hrest : c ∉ ['_', '-', '+'])
    (magnitude : List Char → Except Error Nat) :
    readSigned magnitude (sign ++ c :: rest) =
      (magnitude (c :: rest)).map fun m : Nat => if n < 0 then -(m : Int) else (m : Int) := by
  simp only [List.mem_cons, List.not_mem_nil, or_false, not_or] at hrest
  obtain ⟨-, hminus, hplus⟩ := hrest
  unfold IsSign at hsign
  split at hsign
  · rename_i hneg
    rw [hsign, List.singleton_append, readSigned]
    cases magnitude (c :: rest) <;> simp [Except.map, hneg, bind, Except.bind, pure, Except.pure]
  · rename_i hneg
    have hread : readSigned magnitude (sign ++ c :: rest) = (magnitude (c :: rest)).map fun m : Nat => (m : Int) := by
      obtain rfl | rfl := hsign
      · rw [List.nil_append, readSigned]
        · cases magnitude (c :: rest) <;> rfl
        · exact fun _ hcons => hminus (List.cons.inj hcons).1
        · exact fun _ hcons => hplus (List.cons.inj hcons).1
      · rw [List.singleton_append, readSigned]
        cases magnitude (c :: rest) <;> rfl
    simp only [hread, hneg, if_false]

theorem IsSign.arePlain (hsign : IsSign n sign) : ArePlain sign := by
  have hall : ∀ sign ∈ [[], ['-'], ['+']], ArePlain sign := by
    decide +kernel
  refine hall sign ?_
  unfold IsSign at hsign
  split at hsign
  · simp [hsign]
  · obtain rfl | rfl := hsign <;> simp

/-! ## Integers -/

/-- An integer as it is written: a sign, which may be missing if it is a plus, the mark of a base, and in this base the
digits behind any number of zeros. A decimal numeral has no more digits than may be read. -/
structure Writing (n : Int) where
  sign : List Char
  base : Nat
  mark : List Char
  zeros : Nat
  row : List Char
  isSign : IsSign n sign
  isMark : (base, mark) ∈ marks
  isRow : Row (paddedDigits base zeros n.natAbs) row
  isReadable : base = 10 → (paddedDigits base zeros n.natAbs).length ≤ digitLimit

namespace Writing

variable (w : Writing n)

def text : List Char :=
  w.sign ++ (w.mark ++ w.row)

theorem base_bounds : 1 < w.base ∧ w.base ≤ 16 := by
  have hall : ∀ mark ∈ marks, 1 < mark.1 ∧ mark.1 ≤ 16 := by
    decide
  exact hall _ w.isMark

theorem digit_lt : ∀ d ∈ paddedDigits w.base w.zeros n.natAbs, d < w.base :=
  fun _ hd => lt_of_mem_paddedDigits w.base_bounds.1 hd

theorem arePlain_text : ArePlain w.text := by
  have hmarks : ∀ mark ∈ marks, ArePlain mark.2 := by
    decide +kernel
  intro c hc
  rw [text, List.mem_append, List.mem_append] at hc
  obtain hc | hc | hc := hc
  · exact w.isSign.arePlain c hc
  · exact hmarks _ w.isMark c hc
  · obtain rfl | ⟨d, hd, hdigit⟩ := w.isRow.mem hc
    · decide +kernel
    · have hlt := w.digit_lt d hd
      have hle := w.base_bounds.2
      exact hdigit.isPlain (by omega)

/-- A mark or a digit stands behind the sign. -/
theorem exists_cons : ∃ c rest, w.mark ++ w.row = c :: rest ∧ c ∉ ['_', '-', '+'] := by
  have hmarks : ∀ mark ∈ marks, mark.2 = [] ∨ mark.2.head? = some '0' := by
    decide
  cases hmark : w.mark with
  | nil =>
    obtain ⟨d, hd, c, rest, hrow, hdigit⟩ := w.isRow.exists_cons
    have hlt := w.digit_lt d hd
    have hle := w.base_bounds.2
    exact ⟨c, rest, hrow, hdigit.not_mem (by omega)⟩
  | cons c rest =>
    have hzero := hmarks _ w.isMark
    rw [hmark] at hzero
    obtain rfl : c = '0' := Option.some.inj (hzero.resolve_left (List.cons_ne_nil c rest))
    exact ⟨'0', rest ++ w.row, rfl, by decide⟩

/-- One of the two readings gives the magnitude, and the first one gives no other. -/
theorem literalMagnitude_or_decimalMagnitude :
    literalMagnitude (w.mark ++ w.row) = .ok n.natAbs ∨
      literalMagnitude (w.mark ++ w.row) = .error .malformed ∧ decimalMagnitude (w.mark ++ w.row) = .ok n.natAbs := by
  have hvalue := valueOf_paddedDigits w.base w.zeros n.natAbs
  by_cases hne : w.mark = []
  · have hten : ∀ mark ∈ marks, mark.2 = [] → mark.1 = 10 := by
      decide
    have hbase : w.base = 10 := hten _ w.isMark hne
    have hrow := w.isRow
    have hlt := w.digit_lt
    have hlimit := w.isReadable hbase
    rw [hbase] at hvalue hrow hlt hlimit
    rw [hne, List.nil_append, ← hvalue]
    refine (literalMagnitude_of_row hrow hlt hlimit).imp_right fun herror => ⟨herror, ?_⟩
    exact readDigits_of_row hrow (by decide) hlt fun _ => hlimit
  · rw [← hvalue]
    exact .inl (literalMagnitude_of_mark w.isMark hne w.isRow w.digit_lt)

/-- The sign is read in front of the magnitude. -/
theorem readSigned_text (magnitude : List Char → Except Error Nat) :
    readSigned magnitude w.text =
      (magnitude (w.mark ++ w.row)).map fun m : Nat => if n < 0 then -(m : Int) else (m : Int) := by
  obtain ⟨c, rest, hbody, hc⟩ := w.exists_cons
  rw [text, hbody]
  exact readSigned_append w.isSign hc magnitude

theorem readSigned_text_of_ok {magnitude : List Char → Except Error Nat}
    (h : magnitude (w.mark ++ w.row) = .ok n.natAbs) : readSigned magnitude w.text = .ok n := by
  have hvalue : (if n < 0 then -(n.natAbs : Int) else n.natAbs) = n := by
    split <;> omega
  rw [readSigned_text, h, Except.map, hvalue]

/-- **Offsets.** An integer is read at its value from all its writings, with any blanks around them. -/
theorem offsetValue_text {front back : List Char} (hfront : IsGap front) (hback : IsGap back) :
    offsetValue (String.ofList (front ++ w.text ++ back)) = n := by
  have htrim : trim (front ++ w.text ++ back) = w.text := by
    rw [trim_append_gap hback, trim_gap_append hfront]
    exact trim_of_solid fun c hc => (w.arePlain_text c hc).1
  have hplain : w.text.map toAsciiDigit = w.text :=
    (List.map_congr_left fun c hc => (w.arePlain_text c hc).2).trans (List.map_id _)
  rw [offsetValue, String.toList_ofList, htrim]
  rw [readLiteral, readDecimal, hplain]
  obtain hliteral | ⟨hliteral, hdecimal⟩ := w.literalMagnitude_or_decimalMagnitude
  · rw [w.readSigned_text_of_ok hliteral]
  · rw [readSigned_text, hliteral, w.readSigned_text_of_ok hdecimal]
    rfl

/-- A zero and an underscore in front of letters in both cases, and a decimal number that is no literal. -/
theorem offsetValue_text_mixed :
    IsGap ['\u3000'] ∧ IsGap ['\t'] ∧ offsetValue "\u3000-0X0_fF\t" = -255 ∧ offsetValue "+0_07" = 7 := by
  have hhex : paddedDigits 16 1 255 = [0, 15, 15] := by
    decide +kernel
  have hdecimal : paddedDigits 10 2 7 = [0, 0, 7] := by
    decide +kernel
  let hex : Writing (-255) := {
    sign := ['-'], base := 16, mark := ['0', 'X'], zeros := 1, row := "0_fF".toList
    isSign := rfl
    isMark := by decide
    isRow := hhex ▸ .apart (.inl rfl) (.next (.inl rfl) (.last (.inr rfl)))
    isReadable := nofun }
  let decimal : Writing 7 := {
    sign := ['+'], base := 10, mark := [], zeros := 2, row := "0_07".toList
    isSign := .inr rfl
    isMark := by decide
    isRow := hdecimal ▸ .apart (.inl rfl) (.next (.inl rfl) (.last (.inl rfl)))
    isReadable := fun _ => by decide +kernel }
  have hfront : IsGap ['\u3000'] := by
    decide
  have hback : IsGap ['\t'] := by
    decide
  have hnone : IsGap [] := nofun
  exact ⟨hfront, hback, hex.offsetValue_text hfront hback, decimal.offsetValue_text hnone hnone⟩

end Writing

end FiveStage.Numeral
