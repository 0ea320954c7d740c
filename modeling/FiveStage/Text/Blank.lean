/-!
# Blanks

Which characters are blank, and the two operations that depend on it: trimming a text and cutting it into words.

Main statements:
* `words_eq_nil_iff`: a text has no words exactly if all its characters are blank;
* `mem_words`: a word is never empty and holds no blank.
-/

namespace FiveStage.Text

/-- A character is blank if Unicode gives it the property `White_Space` or it is one of the four separators
U+001C to U+001F. -/
def isBlank (c : Char) : Bool :=
  let n := c.toNat
  (9 ≤ n && n ≤ 13) || (28 ≤ n && n ≤ 32) || n == 0x85 || n == 0xA0 || n == 0x1680 || (0x2000 ≤ n && n ≤ 0x200A) ||
    n == 0x2028 || n == 0x2029 || n == 0x202F || n == 0x205F || n == 0x3000

/-! ## Trimming -/

/-- The text without the blanks at its front. -/
def trimStart (cs : List Char) : List Char :=
  cs.dropWhile isBlank

/-- The text without the blanks at its end. -/
def trimEnd : List Char → List Char
  | [] => []
  | c :: rest =>
    match trimEnd rest with
    | [] => if isBlank c then [] else [c]
    | kept => c :: kept

/-- The text without the blanks at both ends. -/
def trim (cs : List Char) : List Char :=
  trimEnd (trimStart cs)

/-! ## Words -/

/-- The longest runs of characters that are not blank, in order. -/
def words : List Char → List (List Char)
  | [] => []
  | c :: rest =>
    if isBlank c then words rest
    else
      match rest.head?, words rest with
      | some d, w :: ws => if isBlank d then [c] :: w :: ws else (c :: w) :: ws
      | _, ws => [c] :: ws

theorem words_cons_blank {c : Char} (h : isBlank c = true) (rest : List Char) : words (c :: rest) = words rest := by
  simp [words, h]

theorem words_cons_ne_nil {c : Char} (h : isBlank c = false) (rest : List Char) : words (c :: rest) ≠ [] := by
  simp only [words, h, Bool.false_eq_true, if_false]
  split
  · split <;> simp
  · simp

theorem words_eq_nil_iff (cs : List Char) : words cs = [] ↔ ∀ c ∈ cs, isBlank c = true := by
  induction cs with
  | nil => simp [words]
  | cons c rest ih =>
    cases h : isBlank c with
    | true => simp [words_cons_blank h, ih, h]
    | false => simp [words_cons_ne_nil h, h]

theorem mem_words {w : List Char} (cs : List Char) (h : w ∈ words cs) : w ≠ [] ∧ ∀ c ∈ w, isBlank c = false := by
  induction cs generalizing w with
  | nil => simp [words] at h
  | cons c rest ih =>
    cases hc : isBlank c with
    | true => rw [words_cons_blank hc] at h; exact ih h
    | false =>
      simp only [words, hc, Bool.false_eq_true, if_false] at h
      split at h
      · rename_i d v ws _ hv
        rw [hv] at ih
        split at h
        · rcases List.mem_cons.1 h with rfl | h
          · exact ⟨by simp, by simpa using hc⟩
          · exact ih h
        · rcases List.mem_cons.1 h with rfl | h
          · exact ⟨by simp, by simpa [hc] using (ih (List.mem_cons_self ..)).2⟩
          · exact ih (List.mem_cons_of_mem _ h)
      · rcases List.mem_cons.1 h with rfl | h
        · exact ⟨by simp, by simpa using hc⟩
        · exact ih h

end FiveStage.Text
