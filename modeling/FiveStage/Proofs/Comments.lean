import FiveStage.Proofs.Rereading

/-!
# Comments

Two marks begin a comment, and a line is cut at the first of the one kind before it is cut at the first of the other.
The order makes no difference: read from its front, the line is kept up to the first place where a mark of either kind
begins. What stands behind this place does not count, so a comment that is added to a line is cut off again. Only a
slash at the end of a line can be taken for the first one of the comment that is added.

Main statements:
* `code_cons`: a line is cut at the first mark of either kind;
* `endsBeforeMarks_code`, `EndsBeforeMarks.length_le`: what is kept is the longest part in front of all marks;
* `code_append_comment`, `code_append_slashes`: what is kept of a line with a comment behind it;
* `stripComment_first_mark`: the line without its comment.
-/

namespace FiveStage.Program

open Text Grammar

variable {c : Char} {cs line part rest comment : List Char}

/-! ## Marks -/

/-- The marks that begin a comment. -/
def commentMarks : List (List Char) :=
  [['/', '/'], ['#']]

/-- A mark stands in the text. -/
def HasMark (cs : List Char) : Prop :=
  ∃ mark ∈ commentMarks, mark <:+: cs

/-- The part is the beginning of the line and ends in front of all marks. -/
structure EndsBeforeMarks (line part : List Char) : Prop where
  isPrefix : part <+: line
  length_le_front : ∀ mark ∈ commentMarks, ∀ front back, line = front ++ mark ++ back → part.length ≤ front.length

theorem isComment_iff : isComment cs = true ↔ ∃ mark ∈ commentMarks, mark <+: cs := by
  simp only [commentMarks, List.exists_mem_cons_iff, List.not_mem_nil, false_and, exists_false, or_false,
    isComment_eq_true_iff]

theorem not_hasMark_nil : ¬HasMark [] := by
  simp [HasMark, commentMarks]

/-- A mark stands at the front of a text or behind its first character. -/
theorem hasMark_cons : HasMark (c :: cs) ↔ isComment (c :: cs) = true ∨ HasMark cs := by
  rw [isComment_iff]
  simp only [HasMark, List.infix_cons_iff, and_or_left, exists_or]

/-! ## The first mark -/

/-- A line is cut at the first mark of either kind. -/
theorem code_cons (c : Char) (cs : List Char) :
    code (c :: cs) = if isComment (c :: cs) = true then [] else c :: code cs := by
  cases hcomment : isComment (c :: cs) with
  | true =>
    unfold isComment at hcomment
    split at hcomment
    · rename_i hline
      rw [hline]
      rfl
    · rename_i hline
      rw [hline]
      rfl
    · cases hcomment
  | false =>
    have hslashes : beforeSlashes (c :: cs) = c :: beforeSlashes cs := by
      rw [beforeSlashes]
      rintro rest rfl rfl
      cases hcomment
    have hhash : beforeHash (c :: beforeSlashes cs) = c :: beforeHash (beforeSlashes cs) :=
      List.takeWhile_cons_of_pos (decide_eq_true (ne_hash_of_isComment hcomment))
    rw [code, hslashes, hhash]
    rfl

/-- What is kept of a line ends in front of all marks. -/
theorem endsBeforeMarks_code (line : List Char) : EndsBeforeMarks line (code line) where
  isPrefix := by
    obtain ⟨comment, hline, -⟩ := exists_comment line
    exact ⟨comment, hline.symm⟩
  length_le_front mark hmark front back hline := by
    induction front generalizing line with
    | nil =>
      have hcomment : isComment line = true :=
        isComment_iff.2 ⟨mark, hmark, back, by rw [hline, List.nil_append]⟩
      cases line with
      | nil => exact Nat.le_refl 0
      | cons c cs => rw [code_cons, if_pos hcomment, List.length_nil]
    | cons d front ih =>
      cases line with
      | nil => cases hline
      | cons c cs =>
        obtain ⟨-, hcs⟩ := List.cons.inj hline
        rw [code_cons]
        split
        · exact Nat.zero_le _
        · exact Nat.succ_le_succ (ih cs hcs)

/-- No part that ends in front of all marks is longer. -/
theorem EndsBeforeMarks.length_le (h : EndsBeforeMarks line part) : part.length ≤ (code line).length := by
  obtain ⟨comment, hline, hcomment⟩ := exists_comment line
  obtain rfl | hcomment := hcomment
  · rw [List.append_nil] at hline
    rw [code, ← hline]
    exact h.isPrefix.length_le
  · obtain ⟨mark, hmark, back, rfl⟩ := isComment_iff.1 hcomment
    exact h.length_le_front mark hmark (code line) back (hline.trans (List.append_assoc ..).symm)

/-- All of a text is kept exactly if it has no mark. -/
theorem code_eq_self_iff : code cs = cs ↔ ¬HasMark cs := by
  constructor
  · rintro hkept ⟨mark, hmark, front, back, hcs⟩
    have hle := (endsBeforeMarks_code cs).length_le_front mark hmark front back hcs.symm
    have hpos : ∀ mark ∈ commentMarks, 0 < mark.length := by decide
    have := hpos mark hmark
    have hlength : cs.length = front.length + mark.length + back.length := by
      rw [← hcs, List.length_append, List.length_append]
    rw [hkept] at hle
    omega
  · intro hmark
    obtain ⟨comment, hcs, rfl | hcomment⟩ := exists_comment cs
    · rw [List.append_nil] at hcs
      exact hcs.symm
    · obtain ⟨mark, hmem, back, rfl⟩ := isComment_iff.1 hcomment
      exact absurd ⟨mark, hmem, code cs, back, (List.append_assoc ..).trans hcs.symm⟩ hmark

theorem not_hasMark_stripComment (line : List Char) : ¬HasMark (stripComment line) :=
  code_eq_self_iff.1 (code_of_within (trim_within (code line)))

/-! ## A comment behind a line -/

/-- Whether a mark begins with a character does not depend on what is added, unless two slashes meet. -/
theorem isComment_append (h : cs ≠ [] ∨ c ≠ '/' ∨ rest.head? ≠ some '/') :
    isComment (c :: (cs ++ rest)) = isComment (c :: cs) := by
  rw [Bool.eq_iff_iff, isComment_iff, isComment_iff]
  cases cs with
  | nil =>
    cases rest with
    | nil => rfl
    | cons d rest =>
      have hpair : '/' = c → '/' = d → '#' = c := by
        rintro rfl rfl
        simp at h
      simpa [commentMarks] using hpair
  | cons d cs => simp [commentMarks]

/-- A comment behind a line is cut off, unless its first slash makes a mark with the last one of the line. -/
theorem code_append_comment (hcomment : isComment comment = true)
    (hseam : HasMark line ∨ line.getLast? ≠ some '/' ∨ comment.head? ≠ some '/') :
    code (line ++ comment) = code line := by
  induction line with
  | nil =>
    cases comment with
    | nil => cases hcomment
    | cons c rest =>
      rw [List.nil_append, code_cons, if_pos hcomment]
      rfl
  | cons c cs ih =>
    cases hmark : isComment (c :: cs) with
    | true =>
      obtain ⟨mark, hmem, back, hline⟩ := isComment_iff.1 hmark
      have hlonger : isComment (c :: cs ++ comment) = true :=
        isComment_iff.2 ⟨mark, hmem, back ++ comment, by rw [← hline, List.append_assoc]⟩
      rw [List.cons_append] at hlonger ⊢
      rw [code_cons, code_cons, hmark, hlonger]
      rfl
    | false =>
      have hrest : HasMark cs ∨ (c :: cs).getLast? ≠ some '/' ∨ comment.head? ≠ some '/' :=
        hseam.imp_left fun h => (hasMark_cons.1 h).resolve_left (by rw [hmark]; exact Bool.false_ne_true)
      have hapart : cs ≠ [] ∨ c ≠ '/' ∨ comment.head? ≠ some '/' := by
        cases cs with
        | nil => simpa [not_hasMark_nil] using hrest
        | cons d cs => exact .inl (List.cons_ne_nil d cs)
      have hkept : HasMark cs ∨ cs.getLast? ≠ some '/' ∨ comment.head? ≠ some '/' := by
        cases cs with
        | nil => exact .inr (.inl nofun)
        | cons d cs => simpa only [List.getLast?_cons_cons] using hrest
      rw [List.cons_append, code_cons, code_cons, isComment_append hapart, hmark, ih hkept]

/-- If a line without marks ends in a slash, this one begins the comment that slashes are to begin. -/
theorem code_append_slashes (h : ¬HasMark (cs ++ ['/'])) (rest : List Char) :
    code (cs ++ ['/'] ++ '/' :: '/' :: rest) = cs := by
  have hmark : ¬HasMark cs := fun ⟨mark, hmem, hwithin⟩ =>
    h ⟨mark, hmem, hwithin.trans (List.prefix_append cs ['/']).isInfix⟩
  have hlast : cs.getLast? ≠ some '/' := by
    intro hlast
    obtain ⟨front, rfl⟩ := List.getLast?_eq_some_iff.1 hlast
    exact h ⟨['/', '/'], List.mem_cons_self .., front, [], by simp⟩
  have hcomment : isComment ('/' :: '/' :: '/' :: rest) = true := rfl
  rw [List.append_assoc, List.singleton_append, code_append_comment hcomment (.inr (.inl hlast))]
  exact code_eq_self_iff.2 hmark

/-- Trimming leaves off blanks only. -/
theorem count_trim (h : isBlank c = false) (cs : List Char) : (trim cs).count c = cs.count c := by
  obtain ⟨front, back, hcs, hfront, hback⟩ := exists_gaps_trim cs
  have hnone {gap : List Char} (hgap : IsGap gap) : gap.count c = 0 :=
    List.count_eq_zero_of_not_mem (not_mem_gap h hgap)
  calc (trim cs).count c
    _ = (front ++ trim cs ++ back).count c := by
      rw [List.count_append, List.count_append, hnone hfront, hnone hback, Nat.zero_add, Nat.add_zero]
    _ = cs.count c := by rw [← hcs]

theorem stripComment_append_slashes (line rest : List Char) :
    stripComment (line ++ '/' :: '/' :: rest) = stripComment line ↔ HasMark line ∨ line.getLast? ≠ some '/' := by
  constructor
  · intro hsame
    by_contra hno
    obtain ⟨hmark, hlast⟩ := not_or.1 hno
    obtain ⟨front, rfl⟩ := List.getLast?_eq_some_iff.1 (not_not.1 hlast)
    rw [stripComment_eq, stripComment_eq, code_append_slashes hmark, code_eq_self_iff.2 hmark] at hsame
    -- The slash is lost, and trimming does not make up for it.
    have hslashes := congrArg (List.count '/') hsame
    have hblank : isBlank '/' = false := rfl
    rw [count_trim hblank, count_trim hblank, List.count_append] at hslashes
    exact absurd hslashes (by simp)
  · intro hseam
    rw [stripComment_eq, stripComment_eq, code_append_comment rfl (hseam.imp_right .inl)]

/-! ## Lines -/

/-- **Comments.** A line without its comment is the longest part of it that ends in front of all marks, trimmed. No mark
is left in it, so nothing more is cut off from it. A comment that is added behind a line is cut off again, and does so
with two slashes exactly if the line has a mark already or does not end in a slash. -/
theorem stripComment_first_mark (line : List Char) :
    (∃ part, EndsBeforeMarks line part ∧ (∀ other, EndsBeforeMarks line other → other.length ≤ part.length) ∧
      stripComment line = trim part) ∧
    ¬HasMark (stripComment line) ∧
    stripComment (stripComment line) = stripComment line ∧
    (∀ rest, stripComment (line ++ '#' :: rest) = stripComment line) ∧
    (∀ rest, stripComment (line ++ '/' :: '/' :: rest) = stripComment line ↔
      HasMark line ∨ line.getLast? ≠ some '/') := by
  refine ⟨⟨code line, endsBeforeMarks_code line, fun other hother => hother.length_le, rfl⟩,
    not_hasMark_stripComment line, stripComment_stripComment line, fun rest => ?_,
    stripComment_append_slashes line⟩
  have hhash : ('#' :: rest).head? ≠ some '/' := by simp
  rw [stripComment_eq, stripComment_eq, code_append_comment rfl (.inr (.inr hhash))]

/-- Marks in each other and next to each other, and a slash that takes another one with it. -/
example : stripComment "a #b// c".toList = ['a'] ∧ stripComment "a/#/b".toList = ['a', '/'] ∧
    stripComment "a///b".toList = ['a'] := by
  decide +kernel

end FiveStage.Program
