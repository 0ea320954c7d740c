import FiveStage.Text.Blank

/-!
# Lines

Cutting a text at its line breaks. A carriage return followed by a line feed is one break, and a break at the very end
opens no further line.

Main statement: `lines_append_newline`, which says that a line feed is a seam of the lines of a text.
-/

namespace FiveStage.Text

/-- A character ends a line if it is one of the breaks of ASCII (line feed, vertical tab, form feed, carriage return,
the separators U+001C to U+001E), the next-line control U+0085, or one of U+2028 and U+2029. -/
def isLineBreak (c : Char) : Bool :=
  let n := c.toNat
  (10 ≤ n && n ≤ 13) || (28 ≤ n && n ≤ 30) || n == 0x85 || n == 0x2028 || n == 0x2029

/-- The character set in front of the first of the lines. -/
def extendFirst (c : Char) : List (List Char) → List (List Char)
  | [] => [[c]]
  | l :: ls => (c :: l) :: ls

/-- The lines of a text, without the breaks that end them. -/
def lines : List Char → List (List Char)
  | [] => []
  | '\r' :: '\n' :: rest => [] :: lines rest
  | c :: rest => if isLineBreak c then [] :: lines rest else extendFirst c (lines rest)

theorem lines_cons_of_not_pair {c : Char} {rest : List Char} (h : c = '\r' → rest.head? ≠ some '\n') :
    lines (c :: rest) = if isLineBreak c then [] :: lines rest else extendFirst c (lines rest) := by
  rw [lines]
  intro r hc hr
  exact h hc (by simp [hr])

theorem extendFirst_append {c : Char} {a b : List (List Char)} (h : a ≠ []) :
    extendFirst c (a ++ b) = extendFirst c a ++ b := by
  cases a with
  | nil => exact absurd rfl h
  | cons l ls => rfl

theorem lines_ne_nil {cs : List Char} (h : cs ≠ []) : lines cs ≠ [] := by
  fun_cases lines cs with
  | case1 => exact absurd rfl h
  | case2 => simp
  | case3 => simp
  | case4 c rest =>
    intro he
    cases hl : lines rest <;> simp [hl, extendFirst] at he

theorem lines_append_newline (a b : List Char) : lines (a ++ '\n' :: b) = lines (a ++ ['\n']) ++ lines b := by
  fun_induction lines a with
  | case1 => rfl
  | case2 rest ih => simpa [lines] using ih
  | case3 c rest hpair hbreak ih =>
    cases rest with
    | nil =>
      by_cases hc : c = '\r'
      · subst hc; rfl
      · have hl : ∀ t, lines (c :: '\n' :: t) = [] :: [] :: lines t := by
          intro t
          rw [lines_cons_of_not_pair (fun he => absurd he hc), if_pos hbreak]
          rfl
        exact (hl b).trans (by simp [hl, lines])
    | cons d r =>
      have hd : ∀ t, c = '\r' → (d :: r ++ t).head? ≠ some '\n' := by
        intro t hc he
        exact hpair r hc (by simpa using he)
      simp only [List.cons_append] at hd ih ⊢
      rw [lines_cons_of_not_pair (hd _), lines_cons_of_not_pair (hd _)]
      simp [hbreak, ih]
  | case4 c rest hpair hbreak ih =>
    cases rest with
    | nil =>
      have hc : c ≠ '\r' := by
        rintro rfl
        exact hbreak rfl
      have hl : ∀ t, lines (c :: '\n' :: t) = [c] :: lines t := by
        intro t
        rw [lines_cons_of_not_pair (fun he => absurd he hc), if_neg hbreak]
        rfl
      exact (hl b).trans (by simp [hl, lines])
    | cons d r =>
      have hd : ∀ t, c = '\r' → (d :: r ++ t).head? ≠ some '\n' := by
        intro t hc he
        exact hpair r hc (by simpa using he)
      simp only [List.cons_append] at hd ih ⊢
      rw [lines_cons_of_not_pair (hd _), lines_cons_of_not_pair (hd _)]
      simp only [hbreak, ih, Bool.false_eq_true, if_false]
      exact extendFirst_append (lines_ne_nil (by simp))

theorem lines_newline (a : List Char) : lines (a ++ ['\n']) = lines a ∨ lines (a ++ ['\n']) = lines a ++ [[]] := by
  fun_induction lines a with
  | case1 => exact .inr rfl
  | case2 rest ih => exact ih.imp (congrArg ([] :: ·)) (congrArg ([] :: ·))
  | case3 c rest hpair hbreak ih =>
    cases rest with
    | nil =>
      by_cases hc : c = '\r'
      · subst hc
        exact .inl rfl
      · right
        show lines [c, '\n'] = _
        rw [lines_cons_of_not_pair (fun he => absurd he hc), if_pos hbreak]
        rfl
    | cons d r =>
      have hd : c = '\r' → (d :: r ++ ['\n']).head? ≠ some '\n' := fun hc he => hpair r hc (by simpa using he)
      simp only [List.cons_append] at hd ih ⊢
      rw [lines_cons_of_not_pair hd, if_pos hbreak]
      exact ih.imp (congrArg ([] :: ·)) (congrArg ([] :: ·))
  | case4 c rest hpair hbreak ih =>
    cases rest with
    | nil =>
      have hc : c ≠ '\r' := by
        rintro rfl
        exact hbreak rfl
      left
      show lines [c, '\n'] = _
      rw [lines_cons_of_not_pair (fun he => absurd he hc), if_neg hbreak]
      rfl
    | cons d r =>
      have hd : c = '\r' → (d :: r ++ ['\n']).head? ≠ some '\n' := fun hc he => hpair r hc (by simpa using he)
      simp only [List.cons_append] at hd ih ⊢
      rw [lines_cons_of_not_pair hd, if_neg hbreak]
      refine ih.imp (congrArg (extendFirst c)) fun h => ?_
      rw [h, extendFirst_append (lines_ne_nil (by simp))]

/-- With every line break of two characters, and every carriage return, written as a line feed. -/
def unifyBreaks : List Char → List Char
  | [] => []
  | '\r' :: '\n' :: rest => '\n' :: unifyBreaks rest
  | c :: rest => (if c = '\r' then '\n' else c) :: unifyBreaks rest

end FiveStage.Text
