import FiveStage.Json.Reader
import FiveStage.Proofs.Json.Grammar

/-!
# Strings in documents

A string is escaped character by character, and each escape is read as its character whatever follows it: a character of
ASCII stands for itself or behind a backslash, another one is a unit of four hexadecimal digits, and one above U+FFFF a
pair of units.

Main statements:
* `isString_renderString`: a written string is a string of the grammar;
* `readString_escape`: an escaped string is read up to its end and no further.
-/

namespace FiveStage.Json

open Grammar
open Text (hex)

/-! ## Units -/

theorem digitValue?_digitChar {d : Nat} (h : d < 16) : Numeral.digitValue? 16 d.digitChar = some d := by
  have hall : ∀ d : Fin 16, Numeral.digitValue? 16 d.val.digitChar = some d.val := by decide
  exact hall ⟨d, h⟩

theorem isHex_digitChar {d : Nat} (h : d < 16) : IsHex d.digitChar := by
  have hall : ∀ d : Fin 16, d.val.digitChar.isDigit = true ∨ 'a' ≤ d.val.digitChar ∧ d.val.digitChar ≤ 'f' := by
    decide
  exact (hall ⟨d, h⟩).imp_right .inl

/-- The last digit of a number stands last. -/
theorem hex_succ {width : Nat} (h : 0 < width) (n : Nat) :
    hex (width + 1) n = hex width (n / 16) ++ [(n % 16).digitChar] := by
  simp only [hex]
  rw [Nat.toDigits_eq_if (by decide)]
  split
  · rename_i hlt
    have hzeros : width + 1 - 1 = width - 1 + 1 := by omega
    rw [Nat.div_eq_of_lt hlt, Nat.mod_eq_of_lt hlt, Nat.toDigits_zero, List.length_singleton, List.length_singleton,
      hzeros, List.replicate_succ']
  · have hzeros : width + 1 - (Nat.toDigits 16 (n / 16) ++ [(n % 16).digitChar]).length =
        width - (Nat.toDigits 16 (n / 16)).length := by
      rw [List.length_append, List.length_singleton]
      omega
    rw [hzeros, List.append_assoc]

theorem hex_four {n : Nat} (h : n < 0x10000) :
    hex 4 n = [(n / 16 / 16 / 16).digitChar, (n / 16 / 16 % 16).digitChar, (n / 16 % 16).digitChar,
      (n % 16).digitChar] := by
  have hone : hex 1 (n / 16 / 16 / 16) = [(n / 16 / 16 / 16).digitChar] := by
    rw [hex, Nat.toDigits_of_lt_base (by omega)]
    rfl
  rw [hex_succ (by decide), hex_succ (by decide), hex_succ (by decide), hone]
  rfl

theorem unit?_hex_four {n : Nat} (h : n < 0x10000) :
    unit? (n / 16 / 16 / 16).digitChar (n / 16 / 16 % 16).digitChar (n / 16 % 16).digitChar (n % 16).digitChar =
      some n := by
  have hvalue : ((n / 16 / 16 / 16 * 16 + n / 16 / 16 % 16) * 16 + n / 16 % 16) * 16 + n % 16 = n := by omega
  simp only [unit?, digitValue?_digitChar (show n / 16 / 16 / 16 < 16 by omega),
    digitValue?_digitChar (Nat.mod_lt _ (by decide : 16 > 0)), hvalue]

/-- A unit that is not the first of a pair is a character. -/
theorem readString_escapeUnit {n : Nat} (h : n < 0x10000) (hsingle : ¬(0xD800 ≤ n ∧ n < 0xDC00)) (rest : List Char) :
    readString (escapeUnit n ++ rest) = push (Char.ofNat n) (readString rest) := by
  rw [escapeUnit, hex_four h]
  simp only [List.cons_append, List.nil_append, readString, unit?_hex_four h, if_neg hsingle]

/-- A pair of units is a character. -/
theorem readString_escapeUnit_pair {m n : Nat} (hm : m < 0x400) (hn : n < 0x400) (rest : List Char) :
    readString (escapeUnit (0xD800 + m) ++ (escapeUnit (0xDC00 + n) ++ rest)) =
      push (Char.ofNat (0x10000 + m * 0x400 + n)) (readString rest) := by
  have hfirst : 0xD800 ≤ 0xD800 + m ∧ 0xD800 + m < 0xDC00 := by omega
  have hsecond : 0xDC00 ≤ 0xDC00 + n ∧ 0xDC00 + n < 0xE000 := by omega
  have h1 : 0xD800 + m < 0x10000 := by omega
  have h2 : 0xDC00 + n < 0x10000 := by omega
  rw [escapeUnit, escapeUnit, hex_four h1, hex_four h2]
  simp only [List.cons_append, List.nil_append, readString, unit?_hex_four h1, unit?_hex_four h2, if_pos hfirst,
    if_pos hsecond, Nat.add_sub_cancel_left]

/-! ## Characters -/

/-- No character has the code point of a unit of a pair, and each has at most 20 bits above U+FFFF. -/
theorem toNat_scalar (c : Char) : c.toNat < 0xD800 ∨ 0xDFFF < c.toNat ∧ c.toNat < 0x110000 :=
  c.valid

theorem readString_escapeChar (c : Char) (rest : List Char) :
    readString (escapeChar c ++ rest) = push c (readString rest) := by
  have hscalar := toNat_scalar c
  rw [escapeChar]
  split
  · rename_i h
    rcases h with rfl | rfl <;> simp [readString, escaped?]
  · rename_i hplain
    rw [not_or] at hplain
    repeat' split
    · subst_vars; simp [readString, escaped?]
    · subst_vars; simp [readString, escaped?]
    · subst_vars; simp [readString, escaped?]
    · subst_vars; simp [readString, escaped?]
    · subst_vars; simp [readString, escaped?]
    · exact readString_plain hplain.1 hplain.2 rest
    · rename_i hlt
      rw [readString_escapeUnit hlt (by omega), Char.ofNat_toNat]
    · have hvalue : 0x10000 + (c.toNat - 0x10000) / 0x400 * 0x400 + (c.toNat - 0x10000) % 0x400 = c.toNat := by omega
      dsimp only
      rw [List.append_assoc, readString_escapeUnit_pair (by omega) (by omega), hvalue, Char.ofNat_toNat]

theorem isBody_escapeUnit {n : Nat} (h : n < 0x10000) {cs : List Char} (hcs : IsBody cs) :
    IsBody (escapeUnit n ++ cs) := by
  rw [escapeUnit, hex_four h]
  exact .unit (isHex_digitChar (by omega)) (isHex_digitChar (by omega)) (isHex_digitChar (by omega))
    (isHex_digitChar (by omega)) hcs

theorem isBody_escapeChar (c : Char) {cs : List Char} (hcs : IsBody cs) : IsBody (escapeChar c ++ cs) := by
  rw [escapeChar]
  split
  · rename_i h
    rcases h with rfl | rfl <;> exact .escaped (by decide) hcs
  · rename_i hplain
    rw [not_or] at hplain
    repeat' split
    · exact .escaped (by decide) hcs
    · exact .escaped (by decide) hcs
    · exact .escaped (by decide) hcs
    · exact .escaped (by decide) hcs
    · exact .escaped (by decide) hcs
    · rename_i hrange
      exact .plain hrange.1 hplain.1 hplain.2 hcs
    · rename_i hlt
      exact isBody_escapeUnit hlt hcs
    · have hscalar := toNat_scalar c
      dsimp only
      rw [List.append_assoc]
      exact isBody_escapeUnit (by omega) (isBody_escapeUnit (by omega) hcs)

/-! ## Strings -/

/-- An escaped string is read up to the quote that ends it. -/
theorem readString_escape (cs rest : List Char) : readString (escape cs ++ '"' :: rest) = some (cs, rest) := by
  induction cs with
  | nil => simp [escape, readString]
  | cons c cs ih =>
    rw [escape, List.flatMap_cons, List.append_assoc, readString_escapeChar, ← escape, ih]
    rfl

theorem isBody_escape (cs : List Char) : IsBody (escape cs) := by
  induction cs with
  | nil => exact .nil
  | cons c cs ih =>
    rw [escape, List.flatMap_cons]
    exact isBody_escapeChar c ih

theorem isString_renderString (s : String) : IsString (renderString s) :=
  .quoted (isBody_escape s.toList)

end FiveStage.Json
