import FiveStage.Json.Reader
import FiveStage.Proofs.Json.Grammar
import FiveStage.Proofs.Json.Rounding

/-!
# Numbers in documents

An integer is written by its digits, and every other number by a spelling: digits around a point, or digits in front of
a power of ten. A spelling is a number of the grammar, and the reader makes of it what its digits denote. Every layout
in which a value of `Binary64` is written is a spelling of that value.

Main statements:
* `Spelling.readMagnitude_text`: a spelling is read as its value;
* `exists_spelling_text`: every finite value is written by a spelling of it;
* `readNumber_text`, `readNumber_renderReal`: integers and values are read back.
-/

namespace FiveStage.Json

open Grammar

/-! ## Digits -/

theorem digitsValue_append (a b : List Char) :
    digitsValue (a ++ b) = digitsValue a * 10 ^ b.length + digitsValue b := by
  have hten : Nat.pow 10 b.length = 10 ^ b.length := rfl
  rw [digitsValue, List.map_append, Numeral.valueOf_append, List.length_map, hten, digitsValue, digitsValue]

theorem digitsValue_zeros (k : Nat) : digitsValue (List.replicate k '0') = 0 := by
  induction k with
  | zero => rfl
  | succ k ih => rw [List.replicate_succ', digitsValue_append, ih]; simp [digitsValue, Numeral.valueOf]

theorem digitsValue_append_zeros (cs : List Char) (k : Nat) :
    digitsValue (cs ++ List.replicate k '0') = digitsValue cs * 10 ^ k := by
  rw [digitsValue_append, digitsValue_zeros, List.length_replicate, Nat.add_zero]

theorem digitsValue_zeros_append (k : Nat) (cs : List Char) :
    digitsValue (List.replicate k '0' ++ cs) = digitsValue cs := by
  rw [digitsValue_append, digitsValue_zeros, Nat.zero_mul, Nat.zero_add]

theorem digitsValue_digits (n : Nat) : digitsValue (Decimal.digits n) = n := by
  have hfold : digitsValue (Decimal.digits n) = Nat.ofDigitChars 10 (Decimal.digits n) 0 := by
    simp only [digitsValue, Numeral.valueOf, List.foldl_map, Nat.ofDigitChars, Nat.mul_comm]
    rfl
  rw [hfold]
  exact Nat.ofDigitChars_ten_toDigits

theorem isDigit_digits {n : Nat} : ∀ c ∈ Decimal.digits n, c.isDigit = true :=
  fun _ hc => Nat.isDigit_of_mem_toDigits (by decide) (by decide) hc

theorem isDigit_zeros {k : Nat} : ∀ c ∈ List.replicate k '0', c.isDigit = true := by
  intro c hc
  rw [List.eq_of_mem_replicate hc]
  rfl

theorem isDigit_append {a b : List Char} (ha : ∀ c ∈ a, c.isDigit = true) (hb : ∀ c ∈ b, c.isDigit = true) :
    ∀ c ∈ a ++ b, c.isDigit = true :=
  fun c hc => (List.mem_append.1 hc).elim (ha c) (hb c)

/-- The digits of a number other than zero do not begin with a zero. -/
theorem head_digits {n : Nat} (h : 0 < n) : ∃ c cs, Decimal.digits n = c :: cs ∧ c ≠ '0' := by
  induction n using Nat.strongRecOn with
  | ind n ih =>
    rw [Decimal.digits, Nat.toDigits_eq_if (by decide)]
    split
    · rename_i hlt
      have hdigit : ∀ k : Fin 10, 0 < k.val → k.val.digitChar ≠ '0' := by decide
      exact ⟨_, _, rfl, hdigit ⟨n, hlt⟩ h⟩
    · rename_i hge
      obtain ⟨c, cs, heq, hc⟩ := ih (n / 10) (by omega) (by omega)
      rw [Decimal.digits] at heq
      exact ⟨c, cs ++ [(n % 10).digitChar], by rw [heq, List.cons_append], hc⟩

theorem isWhole_digits (n : Nat) : IsWhole (Decimal.digits n) := by
  rcases Nat.eq_zero_or_pos n with rfl | h
  · exact .zero
  · have hall := isDigit_digits (n := n)
    obtain ⟨c, cs, heq, hc⟩ := head_digits h
    rw [heq] at hall ⊢
    exact .positive hc (hall c List.mem_cons_self) fun d hd => hall d (List.mem_cons_of_mem c hd)

/-! ## What follows -/

/-- What may stand behind a value: a comma, a new line, or what closes an array or an object. -/
def Ends : List Char → Prop
  | [] => True
  | c :: _ => c = ',' ∨ c = '\n' ∨ c = ']' ∨ c = '}'

/-- The text does not begin with a digit. -/
def NoDigit : List Char → Prop
  | [] => True
  | c :: _ => c.isDigit = false

theorem Ends.noDigit {rest : List Char} (h : Ends rest) : NoDigit rest := by
  cases rest with
  | nil => trivial
  | cons c _ => rcases h with rfl | rfl | rfl | rfl <;> rfl

theorem spanDigits_append {cs rest : List Char} (hcs : ∀ c ∈ cs, c.isDigit = true) (hrest : NoDigit rest) :
    spanDigits (cs ++ rest) = (cs, rest) := by
  have hnone : rest.takeWhile Char.isDigit = [] ∧ rest.dropWhile Char.isDigit = rest := by
    cases rest with
    | nil => exact ⟨rfl, rfl⟩
    | cons c _ =>
      have hc : ¬c.isDigit = true := Bool.eq_false_iff.1 hrest
      exact ⟨List.takeWhile_cons_of_neg hc, List.dropWhile_cons_of_neg hc⟩
  rw [spanDigits, List.takeWhile_append_of_pos hcs, List.dropWhile_append_of_pos hcs, hnone.1, hnone.2,
    List.append_nil]

/-! ## Spellings -/

/-- A number that is no integer, as it is written: digits, digits behind a point, and a power of ten. At least one of
the last two is there. -/
structure Spelling where
  whole : List Char
  fraction : List Char
  exponent? : Option Int
  isWhole : IsWhole whole
  isDigit : ∀ c ∈ fraction, c.isDigit = true
  shown : fraction ≠ [] ∨ exponent?.isSome = true

namespace Spelling

/-- The fraction behind its point, if there is one. -/
def fractionText (fraction : List Char) : List Char :=
  if fraction.isEmpty then [] else '.' :: fraction

/-- At least two digits. -/
def twoDigits (n : Nat) : List Char :=
  List.replicate (2 - (Decimal.digits n).length) '0' ++ Decimal.digits n

/-- The exponent behind its mark, if there is one, with a sign. -/
def exponentText : Option Int → List Char
  | none => []
  | some e => 'e' :: (if e < 0 then '-' else '+') :: twoDigits e.natAbs

/-- The text. -/
def text (s : Spelling) : List Char :=
  s.whole ++ fractionText s.fraction ++ exponentText s.exponent?

/-- What it denotes, with a sign. -/
def value (s : Spelling) (negative : Bool) : Binary64 :=
  .ofScientific negative (digitsValue (s.whole ++ s.fraction)) (s.exponent?.getD 0 - s.fraction.length)

/-- A spelling begins with a digit. -/
theorem exists_cons_text (s : Spelling) : ∃ c cs, s.text = c :: cs ∧ c.isDigit = true := by
  obtain ⟨c, cs, hcs, hc⟩ := s.isWhole.exists_cons
  exact ⟨c, cs ++ fractionText s.fraction ++ exponentText s.exponent?, by rw [text, hcs]; rfl, hc⟩

/-! ### The grammar -/

theorem isDigit_twoDigits (n : Nat) : ∀ c ∈ twoDigits n, c.isDigit = true :=
  isDigit_append isDigit_zeros isDigit_digits

theorem isFraction_fractionText {fraction : List Char} (h : ∀ c ∈ fraction, c.isDigit = true) :
    IsFraction (fractionText fraction) := by
  cases fraction with
  | nil => exact .absent
  | cons c cs => exact .present ⟨List.cons_ne_nil c cs, h⟩

theorem isExponent_exponentText (exponent? : Option Int) : IsExponent (exponentText exponent?) := by
  cases exponent? with
  | none => exact .absent
  | some e =>
    have hsign : (if e < 0 then '-' else '+') = '+' ∨ (if e < 0 then '-' else '+') = '-' := by
      split <;> simp
    exact .signed (.inl rfl) hsign ⟨by simp [twoDigits, Decimal.digits, Nat.toDigits_ne_nil], isDigit_twoDigits _⟩

theorem isNumber_text (s : Spelling) (negative : Bool) : IsNumber (Binary64.signText negative ++ s.text) := by
  have hfraction := isFraction_fractionText s.isDigit
  have hexponent := isExponent_exponentText s.exponent?
  cases negative with
  | false => exact .positive s.isWhole hfraction hexponent
  | true => exact .negative s.isWhole hfraction hexponent

/-! ### The reader -/

theorem readExponent_exponentText (exponent? : Option Int) {rest : List Char} (h : Ends rest) :
    readExponent (exponentText exponent? ++ rest) = (exponent?, rest) := by
  cases exponent? with
  | none =>
    cases rest with
    | nil => rfl
    | cons c rest =>
      have hmark : ¬(c = 'e' ∨ c = 'E') := by rcases h with rfl | rfl | rfl | rfl <;> decide
      simp [exponentText, readExponent, hmark]
  | some e =>
    have hspan := spanDigits_append (isDigit_twoDigits e.natAbs) h.noDigit
    have hvalue : digitsValue (twoDigits e.natAbs) = e.natAbs := by
      rw [twoDigits, digitsValue_zeros_append, digitsValue_digits]
    by_cases hneg : e < 0
    · have he : -(digitsValue (twoDigits e.natAbs) : Int) = e := by omega
      simp [exponentText, readExponent, hneg, hspan, he]
    · have he : (digitsValue (twoDigits e.natAbs) : Int) = e := by omega
      simp [exponentText, readExponent, hneg, hspan, he]

theorem noDigit_exponentText (exponent? : Option Int) {rest : List Char} (h : Ends rest) :
    NoDigit (exponentText exponent? ++ rest) := by
  cases exponent? with
  | none => exact h.noDigit
  | some e => rfl

/-- A spelling is read as what it denotes. -/
theorem readMagnitude_text (s : Spelling) (negative : Bool) {rest : List Char} (h : Ends rest) :
    readMagnitude negative (s.text ++ rest) = some (real (s.value negative), rest) := by
  obtain ⟨whole, fraction, exponent?, hwhole, hdigit, hshown⟩ := s
  have hexponent := readExponent_exponentText exponent? h
  have hnonempty : whole.isEmpty = false := by
    obtain ⟨c, cs, rfl, _⟩ := hwhole.exists_cons
    rfl
  rw [value, text]
  dsimp only
  by_cases hfraction : fraction = []
  · subst hfraction
    obtain ⟨e, rfl⟩ := Option.isSome_iff_exists.1 (hshown.resolve_left fun hne => hne rfl)
    have hspan := spanDigits_append hwhole.isDigit (noDigit_exponentText (some e) h)
    obtain ⟨tail, htail⟩ : ∃ tail, exponentText (some e) = 'e' :: tail := ⟨_, rfl⟩
    rw [htail, List.cons_append] at hexponent hspan
    simp [htail, fractionText, readMagnitude, hspan, hnonempty, hexponent]
  · have hspan : spanDigits (whole ++ '.' :: (fraction ++ (exponentText exponent? ++ rest))) =
        (whole, '.' :: (fraction ++ (exponentText exponent? ++ rest))) :=
      spanDigits_append hwhole.isDigit rfl
    have hspan' := spanDigits_append hdigit (noDigit_exponentText exponent? h)
    simp [fractionText, readMagnitude, hspan, hspan', hnonempty, hexponent, hfraction]

end Spelling

/-! ## Layouts -/

open Binary64 (Scientific dropZeros positional exponential pointText signText)

/-- The text is a spelling of a number of units of a power of ten. -/
def Spells (text : List Char) (significand : Nat) (exponent : Int) : Prop :=
  ∃ s : Spelling, s.text = text ∧ ∀ negative, s.value negative = .ofScientific negative significand exponent

/-- Digits of which the first is no zero. -/
structure AreSignificant (digits : List Char) : Prop where
  isDigit : ∀ c ∈ digits, c.isDigit = true
  head : ∃ c cs, digits = c :: cs ∧ c ≠ '0'

namespace AreSignificant

variable {digits : List Char}

theorem isWhole_append (h : AreSignificant digits) {cs : List Char} (hcs : ∀ c ∈ cs, c.isDigit = true) :
    IsWhole (digits ++ cs) := by
  obtain ⟨hdigit, c, rest, rfl, hc⟩ := h
  obtain ⟨hfirst, hrest⟩ := List.forall_mem_cons.1 hdigit
  exact .positive hc hfirst (isDigit_append hrest hcs)

theorem isWhole (h : AreSignificant digits) : IsWhole digits := by
  simpa using h.isWhole_append (List.forall_mem_nil _)

theorem take (h : AreSignificant digits) {n : Nat} (hn : 0 < n) : AreSignificant (digits.take n) := by
  obtain ⟨hdigit, c, rest, rfl, hc⟩ := h
  obtain ⟨n, rfl⟩ := Nat.exists_eq_add_of_lt hn
  exact ⟨fun d hd => hdigit d (List.mem_of_mem_take hd), c, rest.take (0 + n), rfl, hc⟩

theorem ne_nil (h : AreSignificant digits) : digits ≠ [] := by
  obtain ⟨_, c, rest, rfl, _⟩ := h
  exact List.cons_ne_nil c rest

/-! ### Digits around a point -/

/-- The point stands in front of all digits. -/
theorem spells_behind (h : AreSignificant digits) {point : Int} (hpoint : point ≤ 0) :
    Spells (positional digits point) (digitsValue digits) (point - digits.length) := by
  refine ⟨⟨['0'], List.replicate (-point).toNat '0' ++ digits, none, .zero, isDigit_append isDigit_zeros h.isDigit,
    .inl (by simp [h.ne_nil])⟩, ?_, fun negative => ?_⟩
  · simp [Spelling.text, Spelling.fractionText, Spelling.exponentText, positional, hpoint, h.ne_nil]
  · have hvalue : digitsValue (['0'] ++ (List.replicate (-point).toNat '0' ++ digits)) = digitsValue digits := by
      rw [← digitsValue_zeros_append ((-point).toNat + 1) digits, List.replicate_succ]
      rfl
    have hexponent : (none : Option Int).getD 0 - ((List.replicate (-point).toNat '0' ++ digits).length : Int) =
        point - digits.length := by
      simp only [Option.getD_none, List.length_append, List.length_replicate]
      omega
    rw [Spelling.value, hvalue, hexponent]

/-- The point stands behind all digits, and zeros between them and the point. -/
theorem spells_before (h : AreSignificant digits) {point : Int} (hpoint : 0 < point) (hlen : digits.length ≤ point) :
    Spells (positional digits point) (digitsValue digits) (point - digits.length) := by
  have htake : digits.take point.toNat = digits := List.take_of_length_le (by omega)
  have hdrop : digits.drop point.toNat = [] := List.drop_of_length_le (by omega)
  refine ⟨⟨digits ++ List.replicate (point.toNat - digits.length) '0', ['0'], none, h.isWhole_append isDigit_zeros,
    isDigit_zeros (k := 1), .inl (by simp)⟩, ?_, fun negative => ?_⟩
  · simp [Spelling.text, Spelling.fractionText, Spelling.exponentText, positional, Int.not_le.2 hpoint, htake, hdrop]
  · have hdigits : digits ++ List.replicate (point.toNat - digits.length) '0' ++ ['0'] =
        digits ++ List.replicate (point.toNat - digits.length + 1) '0' := by
      rw [List.replicate_succ', List.append_assoc]
    have hexponent : (none : Option Int).getD 0 - (['0'].length : Int) +
        (point.toNat - digits.length + 1 : Nat) = point - digits.length := by
      simp only [Option.getD_none, List.length_singleton]
      omega
    rw [Spelling.value, hdigits, digitsValue_append_zeros, Binary64.ofScientific_mul_pow, hexponent]

/-- The point stands between the digits. -/
theorem spells_between (h : AreSignificant digits) {point : Int} (hpoint : 0 < point) (hlen : point < digits.length) :
    Spells (positional digits point) (digitsValue digits) (point - digits.length) := by
  have hfraction : digits.drop point.toNat ≠ [] := by
    rw [Ne, List.drop_eq_nil_iff]
    omega
  refine ⟨⟨digits.take point.toNat, digits.drop point.toNat, none, (h.take (by omega)).isWhole,
    fun c hc => h.isDigit c (List.mem_of_mem_drop hc), .inl hfraction⟩, ?_, fun negative => ?_⟩
  · have hzeros : point.toNat - digits.length = 0 := by omega
    simp [Spelling.text, Spelling.fractionText, Spelling.exponentText, positional, Int.not_le.2 hpoint, hzeros,
      show (digits.drop point.toNat).isEmpty = false by simpa using hfraction]
  · have hexponent : (none : Option Int).getD 0 - ((digits.drop point.toNat).length : Int) =
        point - digits.length := by
      simp only [Option.getD_none, List.length_drop]
      omega
    rw [Spelling.value, List.take_append_drop, hexponent]

theorem spells_positional (h : AreSignificant digits) (point : Int) :
    Spells (positional digits point) (digitsValue digits) (point - digits.length) := by
  rcases Int.lt_or_le 0 point with hpoint | hpoint
  · rcases Int.lt_or_le point digits.length with hlen | hlen
    · exact h.spells_between hpoint hlen
    · exact h.spells_before hpoint hlen
  · exact h.spells_behind hpoint

/-! ### Digits in front of a power of ten -/

theorem spells_exponential (h : AreSignificant digits) (exponent : Int) :
    Spells (exponential digits exponent) (digitsValue digits) (exponent + 1 - digits.length) := by
  obtain ⟨hdigit, c, cs, rfl, hc⟩ := h
  obtain ⟨hfirst, hrest⟩ := List.forall_mem_cons.1 hdigit
  refine ⟨⟨[c], cs, some exponent, .positive hc hfirst (by simp), hrest, .inr rfl⟩, ?_, fun negative => ?_⟩
  · cases cs <;>
      simp [Spelling.text, Spelling.fractionText, Spelling.exponentText, Spelling.twoDigits, exponential]
  · have hexponent : (some exponent).getD 0 - (cs.length : Int) = exponent + 1 - ((c :: cs).length : Int) := by
      simp only [Option.getD_some, List.length_cons]
      omega
    rw [Spelling.value, hexponent, List.singleton_append]

end AreSignificant

/-! ### The shortest digits -/

theorem exists_dropZeros (cs : List Char) : ∃ k, cs = dropZeros cs ++ List.replicate k '0' := by
  have hzeros : cs.reverse.takeWhile (· = '0') = List.replicate (cs.reverse.takeWhile (· = '0')).length '0' :=
    List.eq_replicate_iff.2 ⟨rfl, fun c hc => by simpa using List.all_eq_true.1 List.all_takeWhile c hc⟩
  have hsplit := congrArg List.reverse (List.takeWhile_append_dropWhile (p := (· = '0')) (l := cs.reverse))
  rw [List.reverse_append, List.reverse_reverse, hzeros, List.reverse_replicate] at hsplit
  exact ⟨_, hsplit.symm⟩

/-- Digits without the zeros at their end, of which there are some number. -/
theorem areSignificant_dropZeros {n : Nat} (h : 0 < n) : AreSignificant (dropZeros (Decimal.digits n)) := by
  obtain ⟨k, hk⟩ := exists_dropZeros (Decimal.digits n)
  obtain ⟨c, cs, hcs, hc⟩ := head_digits h
  have hsub : ∀ d ∈ dropZeros (Decimal.digits n), d ∈ Decimal.digits n := by
    intro d hd
    rw [hk]
    exact List.mem_append_left _ hd
  refine ⟨fun d hd => isDigit_digits d (hsub d hd), ?_⟩
  cases hdrop : dropZeros (Decimal.digits n) with
  | nil =>
    rw [hdrop, hcs, List.nil_append] at hk
    exact absurd (List.eq_of_mem_replicate (hk ▸ List.mem_cons_self)) hc
  | cons d ds =>
    rw [hdrop, hcs, List.cons_append] at hk
    exact ⟨d, ds, rfl, (List.cons.inj hk).1 ▸ hc⟩

theorem spells_text {d : Scientific} (h : 0 < d.significand) : Spells d.text d.significand d.exponent := by
  obtain ⟨k, hk⟩ := exists_dropZeros (Decimal.digits d.significand)
  have hdigits := areSignificant_dropZeros h
  generalize hshort : dropZeros (Decimal.digits d.significand) = digits at hk hdigits
  have hvalue : digitsValue digits * 10 ^ k = d.significand := by
    rw [← digitsValue_append_zeros, ← hk, digitsValue_digits]
  have hlength : ((Decimal.digits d.significand).length : Int) + d.exponent - digits.length = d.exponent + k := by
    rw [hk, List.length_append, List.length_replicate]
    omega
  have hspells : Spells d.text (digitsValue digits) (d.exponent + k) := by
    rw [← hlength, Scientific.text, hshort]
    split
    · exact hdigits.spells_positional _
    · have h := hdigits.spells_exponential (((Decimal.digits d.significand).length : Int) + d.exponent - 1)
      rwa [Int.sub_add_cancel] at h
  obtain ⟨s, htext, hs⟩ := hspells
  refine ⟨s, htext, fun negative => ?_⟩
  rw [hs, ← Binary64.ofScientific_mul_pow, hvalue]

/-! ### All places -/

theorem spells_pointText (places : Nat) (h : 0 < places) (n : Nat) :
    Spells (pointText places n) n (-(places : Int)) := by
  have hlt : n % 10 ^ places < 10 ^ places := Nat.mod_lt n (Nat.pow_pos (by decide))
  have hlen : (Decimal.digits (n % 10 ^ places)).length ≤ places := (Nat.length_toDigits_le_iff (by decide) h).2 hlt
  let fraction := List.replicate (places - (Decimal.digits (n % 10 ^ places)).length) '0' ++
    Decimal.digits (n % 10 ^ places)
  have hfraction : fraction.length = places := by
    simp only [fraction, List.length_append, List.length_replicate]
    omega
  have hne : fraction ≠ [] := List.ne_nil_of_length_pos (by omega)
  refine ⟨⟨Decimal.digits (n / 10 ^ places), fraction, none, isWhole_digits _,
    isDigit_append isDigit_zeros isDigit_digits, .inl hne⟩, ?_, fun negative => ?_⟩
  · simp [Spelling.text, Spelling.fractionText, Spelling.exponentText, pointText, fraction, Decimal.digits,
      Nat.toDigits_ne_nil]
  · have hvalue : digitsValue (Decimal.digits (n / 10 ^ places) ++ fraction) = n := by
      rw [digitsValue_append, digitsValue_digits, hfraction, digitsValue_zeros_append, digitsValue_digits,
        Nat.mul_comm, Nat.div_add_mod]
    rw [Spelling.value, hvalue, hfraction, Option.getD_none, Int.zero_sub]

/-! ## Values -/

theorem significand_pos_of_value {d : Scientific} {significand shift : Nat} (hpos : 0 < significand)
    (h : d.value = .finite false significand shift) : 0 < d.significand := by
  rcases Nat.eq_zero_or_pos d.significand with hzero | hd
  · rw [Scientific.value, hzero, Binary64.ofScientific_zero] at h
    cases h
    exact absurd hpos (Nat.lt_irrefl 0)
  · exact hd

/-- Every finite value is written by a spelling, and one of the format by a spelling of it. -/
theorem exists_spelling_text (negative : Bool) (significand shift : Nat) :
    ∃ s : Spelling, (Binary64.finite negative significand shift).text = signText negative ++ s.text ∧
      ((Binary64.finite negative significand shift).InFormat →
        s.value negative = .finite negative significand shift) := by
  -- unfolded by hand: the equation lemma of `text` would count the 1074 places one by one
  delta Binary64.text
  dsimp only
  split
  · rename_i heq
    cases heq
  · rename_i heq
    cases heq
    refine ⟨⟨['0'], ['0'], none, .zero, isDigit_zeros (k := 1), .inl (by simp)⟩, rfl, fun h => ?_⟩
    have hshift : shift = 0 := h.2.1.resolve_right (by decide)
    have hvalue : digitsValue (['0'] ++ ['0']) = 0 := rfl
    rw [hshift, Spelling.value, hvalue, Binary64.ofScientific_zero]
  · rename_i hne heq
    cases heq
    cases hshort : Binary64.shortest? (.finite false significand shift) with
    | some d =>
      have hvalue := Binary64.readsBack_of_shortest? hshort
      obtain ⟨s, hs, hspells⟩ := spells_text (significand_pos_of_value (Nat.pos_of_ne_zero hne) hvalue)
      refine ⟨s, by rw [hs], fun _ => ?_⟩
      rw [hspells]
      exact Binary64.ofScientific_of_positive negative hvalue
    | none =>
      obtain ⟨s, hs, hspells⟩ := spells_pointText 1074 (by decide)
        ((Binary64.finite false significand shift).inPlaces 1074)
      refine ⟨s, by rw [hs], fun h => ?_⟩
      rw [hspells]
      have hone : Binary64.one = Nat.pow 2 1074 := by delta Binary64.one; exact Eq.refl (Nat.pow 2 1074)
      exact (Binary64.ofScientific_inPlaces hone (by decide) negative _).trans (Binary64.ofUnits_units h)

theorem isNumber_renderReal (negative : Bool) (significand shift : Nat) :
    IsNumber (renderReal (.finite negative significand shift)) := by
  obtain ⟨s, hs, _⟩ := exists_spelling_text negative significand shift
  rw [renderReal, hs]
  · exact s.isNumber_text negative
  · intro b h
    cases h

theorem text_eq (n : Int) : Decimal.text n = signText (n < 0) ++ Decimal.digits n.natAbs := by
  by_cases hn : n < 0 <;> simp [Decimal.text, signText, hn]

theorem isNumber_text (n : Int) : IsNumber (Decimal.text n) := by
  have hwhole := isWhole_digits n.natAbs
  rw [Decimal.text]
  split
  · simpa using IsNumber.negative hwhole .absent .absent
  · simpa using IsNumber.positive hwhole .absent .absent

/-! ## Reading -/

theorem readMagnitude_digits (n : Nat) (negative : Bool) {rest : List Char} (h : Ends rest) :
    readMagnitude negative (Decimal.digits n ++ rest) = some (int (if negative then -(n : Int) else n), rest) := by
  have hspan := spanDigits_append (isDigit_digits (n := n)) h.noDigit
  have hexponent := Spelling.readExponent_exponentText none h
  simp only [Spelling.exponentText, List.nil_append] at hexponent
  have hne : Decimal.digits n ≠ [] := Nat.toDigits_ne_nil
  rw [readMagnitude, hspan]
  cases rest with
  | nil => simp [hexponent, hne, digitsValue_digits]
  | cons c tail => rcases h with rfl | rfl | rfl | rfl <;> simp [hexponent, hne, digitsValue_digits]

/-- A sign and a magnitude that begins with a digit are read as they stand. -/
theorem readNumber_signText (negative : Bool) {c : Char} (hc : c.isDigit = true) (cs : List Char) :
    readNumber (signText negative ++ c :: cs) = readMagnitude negative (c :: cs) := by
  have hminus : c ≠ '-' := by rintro rfl; revert hc; decide
  have hword : c ≠ 'I' := by rintro rfl; revert hc; decide
  cases negative <;> simp [signText, readNumber, hminus, hword]

/-- An integer is read back. -/
theorem readNumber_text (n : Int) {rest : List Char} (h : Ends rest) :
    readNumber (Decimal.text n ++ rest) = some (int n, rest) := by
  have hvalue : (if decide (n < 0) = true then -(n.natAbs : Int) else n.natAbs) = n := by
    simp only [decide_eq_true_eq]
    split <;> omega
  obtain ⟨c, cs, hcs, hc⟩ := (isWhole_digits n.natAbs).exists_cons
  rw [text_eq, List.append_assoc, hcs, List.cons_append, readNumber_signText _ hc, ← List.cons_append, ← hcs,
    readMagnitude_digits _ _ h, hvalue]

/-- A value of the format is read back. -/
theorem readNumber_renderReal {x : Binary64} (hx : x.InFormat) {rest : List Char} (h : Ends rest) :
    readNumber (renderReal x ++ rest) = some (real x, rest) := by
  cases x with
  | infinite negative => cases negative <;> rfl
  | finite negative significand shift =>
    obtain ⟨s, hs, hvalue⟩ := exists_spelling_text negative significand shift
    obtain ⟨c, cs, hcs, hc⟩ := s.exists_cons_text
    have hreal : renderReal (.finite negative significand shift) = signText negative ++ s.text := hs
    rw [hreal, List.append_assoc, hcs, List.cons_append, readNumber_signText _ hc, ← List.cons_append, ← hcs,
      s.readMagnitude_text negative h, hvalue hx]

end FiveStage.Json
