import FiveStage.Json

/-!
# The grammar of JSON

Which texts are documents: the grammar of the format, with white space wherever it may stand. It has no words for
numbers that are infinite or undefined.

Main statements:
* `IsDocument`: the documents;
* `IsDocument.wordless`: outside of its strings, a document has none of the letters with which the words for such
  numbers begin.
-/

namespace FiveStage.Json.Grammar

/-! ## Parts -/

/-- White space. -/
def IsSpace (cs : List Char) : Prop :=
  ∀ c ∈ cs, c = ' ' ∨ c = '\t' ∨ c = '\n' ∨ c = '\r'

theorem isSpace_nil : IsSpace [] := by
  simp [IsSpace]

theorem isSpace_blank : IsSpace [' '] := by
  simp [IsSpace]

/-- Digits, at least one. -/
structure AreDigits (cs : List Char) : Prop where
  nonempty : cs ≠ []
  digit : ∀ c ∈ cs, c.isDigit = true

/-- The digits of a whole number, which has no zero in front unless it is zero. -/
inductive IsWhole : List Char → Prop
  | zero : IsWhole ['0']
  | positive {c : Char} {cs : List Char} :
    c ≠ '0' → c.isDigit = true → (∀ d ∈ cs, d.isDigit = true) → IsWhole (c :: cs)

theorem IsWhole.isDigit {cs : List Char} (h : IsWhole cs) : ∀ c ∈ cs, c.isDigit = true := by
  cases h with
  | zero => exact List.forall_mem_singleton.2 rfl
  | positive _ hc hcs => exact List.forall_mem_cons.2 ⟨hc, hcs⟩

theorem IsWhole.exists_cons {cs : List Char} (h : IsWhole cs) : ∃ c rest, cs = c :: rest ∧ c.isDigit = true := by
  cases h with
  | zero => exact ⟨_, _, rfl, rfl⟩
  | positive _ hc _ => exact ⟨_, _, rfl, hc⟩

/-- A fraction behind its point, or none. -/
inductive IsFraction : List Char → Prop
  | absent : IsFraction []
  | present {cs : List Char} : AreDigits cs → IsFraction ('.' :: cs)

/-- An exponent behind its mark, or none. -/
inductive IsExponent : List Char → Prop
  | absent : IsExponent []
  | unsigned {mark : Char} {cs : List Char} : mark = 'e' ∨ mark = 'E' → AreDigits cs → IsExponent (mark :: cs)
  | signed {mark sign : Char} {cs : List Char} :
    mark = 'e' ∨ mark = 'E' → sign = '+' ∨ sign = '-' → AreDigits cs → IsExponent (mark :: sign :: cs)

/-- A number. -/
inductive IsNumber : List Char → Prop
  | positive {whole fraction exponent : List Char} :
    IsWhole whole → IsFraction fraction → IsExponent exponent → IsNumber (whole ++ fraction ++ exponent)
  | negative {whole fraction exponent : List Char} :
    IsWhole whole → IsFraction fraction → IsExponent exponent → IsNumber ('-' :: (whole ++ fraction ++ exponent))

/-- The character is a hexadecimal digit. -/
def IsHex (c : Char) : Prop :=
  c.isDigit = true ∨ 'a' ≤ c ∧ c ≤ 'f' ∨ 'A' ≤ c ∧ c ≤ 'F'

/-- What stands between the quotes of a string. -/
inductive IsBody : List Char → Prop
  | nil : IsBody []
  | plain {c : Char} {cs : List Char} : ' ' ≤ c → c ≠ '"' → c ≠ '\\' → IsBody cs → IsBody (c :: cs)
  | escaped {c : Char} {cs : List Char} : c ∈ "\"\\/bfnrt".toList → IsBody cs → IsBody ('\\' :: c :: cs)
  | unit {a b c d : Char} {cs : List Char} :
    IsHex a → IsHex b → IsHex c → IsHex d → IsBody cs → IsBody ('\\' :: 'u' :: a :: b :: c :: d :: cs)

/-- A string. -/
inductive IsString : List Char → Prop
  | quoted {cs : List Char} : IsBody cs → IsString ('"' :: cs ++ ['"'])

/-! ## Documents -/

mutual

/-- A value. -/
inductive IsValue : List Char → Prop
  | null : IsValue "null".toList
  | true : IsValue "true".toList
  | false : IsValue "false".toList
  | number {cs : List Char} : IsNumber cs → IsValue cs
  | string {cs : List Char} : IsString cs → IsValue cs
  | emptyArray {space : List Char} : IsSpace space → IsValue ('[' :: space ++ [']'])
  | array {cs : List Char} : AreItems cs → IsValue ('[' :: cs ++ [']'])
  | emptyObject {space : List Char} : IsSpace space → IsValue ('{' :: space ++ ['}'])
  | object {cs : List Char} : AreFields cs → IsValue ('{' :: cs ++ ['}'])

/-- Values between commas, at least one. -/
inductive AreItems : List Char → Prop
  | last {before value after : List Char} :
    IsSpace before → IsValue value → IsSpace after → AreItems (before ++ value ++ after)
  | cons {before value after rest : List Char} :
    IsSpace before → IsValue value → IsSpace after → AreItems rest →
      AreItems (before ++ value ++ after ++ ',' :: rest)

/-- Fields between commas, at least one: a name, a colon and a value. -/
inductive AreFields : List Char → Prop
  | last {before name between space value after : List Char} :
    IsSpace before → IsString name → IsSpace between → IsSpace space → IsValue value → IsSpace after →
      AreFields (before ++ name ++ between ++ ':' :: space ++ value ++ after)
  | cons {before name between space value after rest : List Char} :
    IsSpace before → IsString name → IsSpace between → IsSpace space → IsValue value → IsSpace after →
      AreFields rest → AreFields (before ++ name ++ between ++ ':' :: space ++ value ++ after ++ ',' :: rest)

end

/-- A value with white space around it. -/
inductive IsDocument : List Char → Prop
  | document {before value after : List Char} :
    IsSpace before → IsValue value → IsSpace after → IsDocument (before ++ value ++ after)

/-! ## Outside of strings -/

/-- The characters outside of strings, from inside of one or not. -/
def bare : Bool → List Char → List Char
  | _, [] => []
  | false, c :: cs => if c = '"' then bare true cs else c :: bare false cs
  | true, '\\' :: _ :: cs => bare true cs
  | true, c :: cs => if c = '"' then bare false cs else bare true cs

/-- The text has so much outside of strings and ends outside of them, whatever follows it. -/
def Bares (cs outside : List Char) : Prop :=
  ∀ rest, bare false (cs ++ rest) = outside ++ bare false rest

namespace Bares

variable {a b u w : List Char}

theorem nil : Bares [] [] :=
  fun _ => rfl

theorem append (ha : Bares a u) (hb : Bares b w) : Bares (a ++ b) (u ++ w) := by
  intro rest
  rw [List.append_assoc, ha, hb, List.append_assoc]

theorem cons {c : Char} (hc : c ≠ '"') (ha : Bares a u) : Bares (c :: a) (c :: u) := by
  intro rest
  rw [List.cons_append, bare, if_neg hc, ha, List.cons_append]

/-- A text without quotes is outside of strings. -/
theorem plain {cs : List Char} (h : ∀ c ∈ cs, c ≠ '"') : Bares cs cs := by
  induction cs with
  | nil => exact nil
  | cons c cs ih =>
    obtain ⟨hc, hcs⟩ := List.forall_mem_cons.1 h
    exact cons hc (ih hcs)

theorem unique (h : Bares a u) (h' : Bares a w) : u = w := by
  have heq := (h []).symm.trans (h' [])
  simpa [bare] using heq

end Bares

theorem IsHex.ne {c : Char} (h : IsHex c) : c ≠ '"' ∧ c ≠ '\\' := by
  constructor <;> rintro rfl <;> revert h <;> simp [IsHex]

/-- All of a string is inside of it. -/
theorem bare_body {cs : List Char} (h : IsBody cs) (rest : List Char) :
    bare true (cs ++ '"' :: rest) = bare false rest := by
  induction h with
  | nil => simp [bare]
  | plain _ hquote hbackslash _ ih => simpa [bare, hquote, hbackslash] using ih
  | escaped _ _ ih => simpa [bare] using ih
  | unit ha hb hc hd _ ih => simpa [bare, ha.ne, hb.ne, hc.ne, hd.ne] using ih

theorem IsString.bares {cs : List Char} (h : IsString cs) : Bares cs [] := by
  obtain ⟨hbody⟩ := h
  intro rest
  simpa [bare] using bare_body hbody rest

/-! ## Words -/

/-- The character neither begins a string nor one of the words `Infinity` and `NaN`. -/
def IsHarmless (c : Char) : Prop :=
  c ≠ '"' ∧ c ≠ 'I' ∧ c ≠ 'N'

/-- Outside of its strings the text has no letter that begins a word for a number. -/
def Wordless (cs : List Char) : Prop :=
  ∃ outside, Bares cs outside ∧ 'I' ∉ outside ∧ 'N' ∉ outside

namespace Wordless

variable {a b cs : List Char}

theorem append (ha : Wordless a) (hb : Wordless b) : Wordless (a ++ b) := by
  obtain ⟨u, hu, hi, hn⟩ := ha
  obtain ⟨w, hw, hi', hn'⟩ := hb
  exact ⟨u ++ w, hu.append hw, by simp [hi, hi'], by simp [hn, hn']⟩

theorem plain (h : ∀ c ∈ cs, IsHarmless c) : Wordless cs :=
  ⟨cs, .plain fun c hc => (h c hc).1, fun hi => (h _ hi).2.1 rfl, fun hn => (h _ hn).2.2 rfl⟩

theorem cons {c : Char} (hc : IsHarmless c) (h : Wordless cs) : Wordless (c :: cs) :=
  (plain (List.forall_mem_singleton.2 hc)).append h

theorem string (h : IsString cs) : Wordless cs :=
  ⟨[], h.bares, by simp, by simp⟩

theorem space (h : IsSpace cs) : Wordless cs := by
  refine plain fun c hc => ?_
  rcases h c hc with rfl | rfl | rfl | rfl <;> simp [IsHarmless]

end Wordless

theorem isHarmless_digit {c : Char} (h : c.isDigit = true) : IsHarmless c := by
  refine ⟨?_, ?_, ?_⟩ <;> rintro rfl <;> revert h <;> decide

theorem IsWhole.isHarmless {cs : List Char} (h : IsWhole cs) : ∀ c ∈ cs, IsHarmless c :=
  fun c hc => isHarmless_digit (h.isDigit c hc)

theorem AreDigits.isHarmless {cs : List Char} (h : AreDigits cs) : ∀ c ∈ cs, IsHarmless c :=
  fun c hc => isHarmless_digit (h.digit c hc)

theorem IsFraction.isHarmless {cs : List Char} (h : IsFraction cs) : ∀ c ∈ cs, IsHarmless c := by
  cases h with
  | absent => simp
  | present hdigits => exact List.forall_mem_cons.2 ⟨by simp [IsHarmless], hdigits.isHarmless⟩

theorem IsExponent.isHarmless {cs : List Char} (h : IsExponent cs) : ∀ c ∈ cs, IsHarmless c := by
  cases h with
  | absent => simp
  | unsigned hmark hdigits =>
    exact List.forall_mem_cons.2 ⟨by rcases hmark with rfl | rfl <;> simp [IsHarmless], hdigits.isHarmless⟩
  | signed hmark hsign hdigits =>
    exact List.forall_mem_cons.2 ⟨by rcases hmark with rfl | rfl <;> simp [IsHarmless],
      List.forall_mem_cons.2 ⟨by rcases hsign with rfl | rfl <;> simp [IsHarmless], hdigits.isHarmless⟩⟩

theorem IsNumber.isHarmless {cs : List Char} (h : IsNumber cs) : ∀ c ∈ cs, IsHarmless c := by
  have happend : ∀ {a b : List Char}, (∀ c ∈ a, IsHarmless c) → (∀ c ∈ b, IsHarmless c) → ∀ c ∈ a ++ b, IsHarmless c :=
    fun ha hb c hc => (List.mem_append.1 hc).elim (ha c) (hb c)
  cases h with
  | positive hwhole hfraction hexponent =>
    exact happend (happend hwhole.isHarmless hfraction.isHarmless) hexponent.isHarmless
  | negative hwhole hfraction hexponent =>
    exact List.forall_mem_cons.2 ⟨by simp [IsHarmless],
      happend (happend hwhole.isHarmless hfraction.isHarmless) hexponent.isHarmless⟩

mutual

theorem IsValue.wordless {cs : List Char} : IsValue cs → Wordless cs
  | .null => .plain (by simp [IsHarmless])
  | .true => .plain (by simp [IsHarmless])
  | .false => .plain (by simp [IsHarmless])
  | .number h => .plain h.isHarmless
  | .string h => .string h
  | .emptyArray h => ((Wordless.space h).append (.plain (by simp [IsHarmless]))).cons (by simp [IsHarmless])
  | .array h => ((AreItems.wordless h).append (.plain (by simp [IsHarmless]))).cons (by simp [IsHarmless])
  | .emptyObject h => ((Wordless.space h).append (.plain (by simp [IsHarmless]))).cons (by simp [IsHarmless])
  | .object h => ((AreFields.wordless h).append (.plain (by simp [IsHarmless]))).cons (by simp [IsHarmless])

theorem AreItems.wordless {cs : List Char} : AreItems cs → Wordless cs
  | .last before value after =>
    ((Wordless.space before).append (IsValue.wordless value)).append (.space after)
  | .cons before value after rest =>
    (((Wordless.space before).append (IsValue.wordless value)).append (.space after)).append
      ((AreItems.wordless rest).cons (by simp [IsHarmless]))

theorem AreFields.wordless {cs : List Char} : AreFields cs → Wordless cs
  | .last before name between space value after => by
    have hname := ((Wordless.space before).append (.string name)).append (.space between)
    have hvalue := ((Wordless.space space).append (IsValue.wordless value)).append (.space after)
    simpa using hname.append (hvalue.cons (c := ':') (by simp [IsHarmless]))
  | .cons before name between space value after rest => by
    have hname := ((Wordless.space before).append (.string name)).append (.space between)
    have hvalue := ((Wordless.space space).append (IsValue.wordless value)).append (.space after)
    have hrest := (AreFields.wordless rest).cons (c := ',') (by simp [IsHarmless])
    simpa using (hname.append (hvalue.cons (c := ':') (by simp [IsHarmless]))).append hrest

end

theorem IsDocument.wordless {cs : List Char} (h : IsDocument cs) : Wordless cs := by
  obtain ⟨before, value, after⟩ := h
  exact ((Wordless.space before).append value.wordless).append (.space after)

end FiveStage.Json.Grammar
