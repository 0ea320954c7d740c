import FiveStage.Proofs.Listing

/-!
# Spacing

A line is cut into words, and the words are set one space apart before they are cut again, at commas. So it makes no
difference how wide a gap is, or of which blanks; a gap next to a comma makes no difference at all, since the parts are
trimmed.

Main statements:
* `words_gap_append`, `words_append_gap`, `words_append`, `exists_of_words_eq_cons`: how a text falls into words;
* `squeeze_append`: what is squeezed in two pieces;
* `exists_of_squeeze_eq`: a text that is squeezed to one word is this word with blanks around it;
* `map_trim_splitOn_squeeze`: the trimmed parts of a squeezed text are the squeezed parts of the text.
-/

namespace FiveStage.Text

/-- The text is blank. -/
def IsGap (cs : List Char) : Prop :=
  ∀ c ∈ cs, isBlank c = true

/-- The text has no blanks. -/
def IsSolid (cs : List Char) : Prop :=
  ∀ c ∈ cs, isBlank c = false

/-- The text does not go on with what stands before it: it is empty, or it begins with a blank. -/
def Detached (cs : List Char) : Prop :=
  cs.head?.all isBlank = true

/-- The text with one space between any two words, and none at its ends. -/
def squeeze (cs : List Char) : List Char :=
  join [' '] (words cs)

variable {c : Char} {cs a b gap w : List Char}

instance (cs : List Char) : Decidable (IsGap cs) :=
  decidable_of_iff (cs.all isBlank = true) List.all_eq_true

theorem IsGap.append (ha : IsGap a) (hb : IsGap b) : IsGap (a ++ b) :=
  fun c hc => (List.mem_append.1 hc).elim (ha c) (hb c)

theorem isGap_replicate (n : Nat) : IsGap (List.replicate n ' ') := by
  intro c hc
  rw [List.eq_of_mem_replicate hc]
  rfl

theorem IsGap.detached (h : IsGap gap) : Detached gap := by
  cases gap with
  | nil => rfl
  | cons c gap => exact h c (List.mem_cons_self ..)

theorem IsSolid.tail (h : IsSolid (c :: cs)) : IsSolid cs :=
  fun d hd => h d (List.mem_cons_of_mem _ hd)

/-! ## Words -/

theorem words_gap_append (h : IsGap gap) (cs : List Char) : words (gap ++ cs) = words cs := by
  induction gap with
  | nil => rfl
  | cons c gap ih =>
    obtain ⟨hc, hgap⟩ := List.forall_mem_cons.1 h
    rw [List.cons_append, words_cons_blank hc, ih hgap]

/-- A character that is not blank is a word by itself or begins the next one. -/
theorem words_cons_of_detached (hc : isBlank c = false) (h : Detached cs) : words (c :: cs) = [c] :: words cs := by
  rw [words, if_neg (by rw [hc]; exact Bool.false_ne_true)]
  split
  · rename_i d w ws hd hw
    rw [Detached, hd] at h
    have hblank : isBlank d = true := h
    rw [if_pos hblank, hw]
  · rfl

theorem words_cons_of_attached (hc : isBlank c = false) {d : Char} (hd : isBlank d = false) (cs : List Char) :
    ∃ w ws, words (d :: cs) = w :: ws ∧ words (c :: d :: cs) = (c :: w) :: ws := by
  obtain ⟨w, ws, hw⟩ := List.exists_cons_of_ne_nil (words_cons_ne_nil hd cs)
  refine ⟨w, ws, hw, ?_⟩
  rw [words, if_neg (by rw [hc]; exact Bool.false_ne_true), hw]
  simp [hd]

/-- A text without blanks is one word, if nothing goes on with it. -/
theorem words_append (hw : IsSolid w) (hne : w ≠ []) (h : Detached cs) : words (w ++ cs) = w :: words cs := by
  induction w with
  | nil => exact absurd rfl hne
  | cons c w ih =>
    have hc := hw c (List.mem_cons_self ..)
    cases w with
    | nil => exact words_cons_of_detached hc h
    | cons d w =>
      have hd := hw d (List.mem_cons_of_mem _ (List.mem_cons_self ..))
      obtain ⟨v, vs, hv, hcons⟩ := words_cons_of_attached hc hd (w ++ cs)
      have hrest : words (d :: (w ++ cs)) = (d :: w) :: words cs := ih hw.tail (List.cons_ne_nil _ _)
      rw [hrest] at hv
      obtain ⟨rfl, rfl⟩ := List.cons.inj hv
      exact hcons

/-- The first word of a text stands behind blanks, and nothing goes on with it. -/
theorem exists_of_words_eq_cons {ws : List (List Char)} (h : words cs = w :: ws) :
    ∃ gap rest, cs = gap ++ w ++ rest ∧ IsGap gap ∧ Detached rest ∧ words rest = ws := by
  induction cs generalizing w with
  | nil => cases h
  | cons c cs ih =>
    cases hc : isBlank c with
    | true =>
      rw [words_cons_blank hc] at h
      obtain ⟨gap, rest, rfl, hgap, hrest⟩ := ih h
      exact ⟨c :: gap, rest, rfl, List.forall_mem_cons.2 ⟨hc, hgap⟩, hrest⟩
    | false =>
      by_cases hdetached : Detached cs
      · rw [words_cons_of_detached hc hdetached] at h
        obtain ⟨rfl, rfl⟩ := List.cons.inj h
        exact ⟨[], cs, rfl, nofun, hdetached, rfl⟩
      · cases cs with
        | nil => exact absurd rfl hdetached
        | cons d cs =>
          have hd : isBlank d = false := Bool.eq_false_iff.2 hdetached
          obtain ⟨v, vs, hv, hcons⟩ := words_cons_of_attached hc hd cs
          rw [hcons] at h
          obtain ⟨rfl, rfl⟩ := List.cons.inj h
          obtain ⟨gap, rest, hsame, hgap, hrest⟩ := ih hv
          -- There is no gap in front of a character that is not blank.
          cases gap with
          | nil => exact ⟨[], rest, congrArg (c :: ·) hsame, nofun, hrest⟩
          | cons g gap =>
            have hg := hgap g (List.mem_cons_self ..)
            rw [← (List.cons.inj hsame).1, hd] at hg
            cases hg

theorem words_append_gap (h : IsGap gap) (cs : List Char) : words (cs ++ gap) = words cs := by
  induction cs with
  | nil => exact (words_eq_nil_iff gap).2 h
  | cons c cs ih =>
    cases hc : isBlank c with
    | true => rw [List.cons_append, words_cons_blank hc, words_cons_blank hc, ih]
    | false =>
      cases cs with
      | nil =>
        have hnil : Detached [] := rfl
        rw [List.singleton_append, words_cons_of_detached hc h.detached, words_cons_of_detached hc hnil,
          (words_eq_nil_iff gap).2 h]
        rfl
      | cons d cs =>
        cases hd : isBlank d with
        | true =>
          have hlonger : Detached (d :: cs ++ gap) := hd
          have hshorter : Detached (d :: cs) := hd
          rw [List.cons_append, words_cons_of_detached hc hlonger, words_cons_of_detached hc hshorter, ih]
        | false =>
          obtain ⟨v, vs, hv, hcons⟩ := words_cons_of_attached hc hd cs
          obtain ⟨v', vs', hv', hcons'⟩ := words_cons_of_attached hc hd (cs ++ gap)
          rw [List.cons_append, hv', hv] at ih
          obtain ⟨rfl, rfl⟩ := List.cons.inj ih
          exact hcons'.trans hcons.symm

theorem exists_gap_trimStart (cs : List Char) : ∃ gap, cs = gap ++ trimStart cs ∧ IsGap gap :=
  ⟨cs.takeWhile isBlank, (List.takeWhile_append_dropWhile).symm, List.all_eq_true.1 List.all_takeWhile⟩

theorem exists_gap_trimEnd (cs : List Char) : ∃ gap, cs = trimEnd cs ++ gap ∧ IsGap gap := by
  induction cs with
  | nil => exact ⟨[], rfl, nofun⟩
  | cons c cs ih =>
    obtain ⟨gap, hcs, hgap⟩ := ih
    rw [trimEnd]
    split
    · rename_i hnil
      rw [hnil, List.nil_append] at hcs
      subst hcs
      split
      · rename_i hc
        exact ⟨c :: cs, rfl, List.forall_mem_cons.2 ⟨hc, hgap⟩⟩
      · exact ⟨cs, rfl, hgap⟩
    · exact ⟨gap, congrArg (c :: ·) hcs, hgap⟩

/-- Trimming takes a text out of the blanks around it. -/
theorem exists_gaps_trim (cs : List Char) : ∃ front back, cs = front ++ trim cs ++ back ∧ IsGap front ∧ IsGap back := by
  obtain ⟨front, hfront, hgap⟩ := exists_gap_trimStart cs
  obtain ⟨back, hback, hgap'⟩ := exists_gap_trimEnd (trimStart cs)
  refine ⟨front, back, ?_, hgap, hgap'⟩
  rw [List.append_assoc]
  exact hfront.trans (congrArg (front ++ ·) hback)

theorem words_trim (cs : List Char) : words (trim cs) = words cs := by
  obtain ⟨front, back, hcs, hfront, hback⟩ := exists_gaps_trim cs
  calc words (trim cs)
    _ = words (front ++ trim cs) := (words_gap_append hfront _).symm
    _ = words (front ++ trim cs ++ back) := (words_append_gap hback _).symm
    _ = words cs := congrArg words hcs.symm

/-! ## Squeezing -/

/-- The space that keeps the first word of a text apart from what stands in front of it. -/
def glue (cs : List Char) : List Char :=
  if cs.head?.any isBlank && !(words cs).isEmpty then [' '] else []

theorem glue_of_gap (h : IsGap cs) : glue cs = [] := by
  rw [glue, (words_eq_nil_iff cs).2 h]
  simp

theorem exists_glue_eq_replicate (cs : List Char) : ∃ n, glue cs = List.replicate n ' ' := by
  unfold glue
  split
  · exact ⟨1, rfl⟩
  · exact ⟨0, rfl⟩

theorem isGap_glue (cs : List Char) : IsGap (glue cs) := by
  obtain ⟨n, hn⟩ := exists_glue_eq_replicate cs
  rw [hn]
  exact isGap_replicate n

theorem join_cons_cons (separator : List Char) (c : Char) (w : List Char) (ws : List (List Char)) :
    join separator ((c :: w) :: ws) = c :: join separator (w :: ws) := by
  cases ws <;> rfl

theorem squeeze_cons_blank (hc : isBlank c = true) (cs : List Char) : squeeze (c :: cs) = squeeze cs :=
  congrArg (join [' ']) (words_cons_blank hc cs)

theorem squeeze_cons (hc : isBlank c = false) (cs : List Char) : squeeze (c :: cs) = c :: (glue cs ++ squeeze cs) := by
  cases cs with
  | nil => simp [squeeze, glue, words, join, hc]
  | cons d cs =>
    cases hd : isBlank d with
    | true =>
      have hdetached : Detached (d :: cs) := hd
      rw [squeeze, words_cons_of_detached hc hdetached, glue, squeeze]
      cases hwords : words (d :: cs) with
      | nil => simp [join]
      | cons w ws => simp [join, hd]
    | false =>
      obtain ⟨w, ws, hwords, hcons⟩ := words_cons_of_attached hc hd cs
      rw [squeeze, hcons, join_cons_cons, ← hwords, glue]
      simp [hd, squeeze]

theorem squeeze_of_gap (h : IsGap gap) : squeeze gap = [] := by
  rw [squeeze, (words_eq_nil_iff gap).2 h]
  rfl

theorem squeeze_gap_append (h : IsGap gap) (cs : List Char) : squeeze (gap ++ cs) = squeeze cs :=
  congrArg (join [' ']) (words_gap_append h cs)

theorem squeeze_append_gap (h : IsGap gap) (cs : List Char) : squeeze (cs ++ gap) = squeeze cs :=
  congrArg (join [' ']) (words_append_gap h cs)

theorem squeeze_of_solid (h : IsSolid w) : squeeze w = w := by
  cases w with
  | nil => rfl
  | cons c w =>
    have hwords : words (c :: w ++ []) = (c :: w) :: words [] := words_append h (List.cons_ne_nil _ _) rfl
    rw [List.append_nil] at hwords
    rw [squeeze, hwords]
    rfl

/-- What is squeezed in two pieces has spaces between them at most. -/
theorem squeeze_append (a b : List Char) : ∃ n, squeeze (a ++ b) = squeeze a ++ List.replicate n ' ' ++ squeeze b := by
  induction a with
  | nil => exact ⟨0, rfl⟩
  | cons c a ih =>
    obtain ⟨n, hn⟩ := ih
    cases hc : isBlank c with
    | true =>
      refine ⟨n, ?_⟩
      rw [List.cons_append, squeeze_cons_blank hc, squeeze_cons_blank hc, hn]
    | false =>
      rw [List.cons_append, squeeze_cons hc, squeeze_cons hc, hn]
      by_cases ha : words a = []
      · -- The space in front of the second piece stands behind the first character.
        have hgap := (words_eq_nil_iff a).1 ha
        obtain ⟨m, hm⟩ := exists_glue_eq_replicate (a ++ b)
        refine ⟨m + n, ?_⟩
        rw [hm, glue_of_gap hgap, squeeze_of_gap hgap, List.nil_append, ← List.append_assoc,
          List.replicate_append_replicate]
        rfl
      · have hglue : glue (a ++ b) = glue a := by
          cases a with
          | nil => exact absurd rfl ha
          | cons d a =>
            have hab : words (d :: a ++ b) ≠ [] := by
              intro hnil
              refine ha ((words_eq_nil_iff _).2 fun e he => ?_)
              exact (words_eq_nil_iff _).1 hnil e (List.mem_append_left _ he)
            simp [glue, ha] at hab ⊢
            simp [hab]
        refine ⟨n, ?_⟩
        rw [hglue]
        simp

/-- Nothing but spaces is added, and nothing but blanks is lost. -/
theorem mem_squeeze (h : c ∈ squeeze cs) : c = ' ' ∨ c ∈ cs ∧ isBlank c = false := by
  induction cs with
  | nil => cases h
  | cons d cs ih =>
    have hrest : c ∈ squeeze cs → c = ' ' ∨ c ∈ d :: cs ∧ isBlank c = false :=
      fun h => (ih h).imp_right fun ⟨hmem, hc⟩ => ⟨List.mem_cons_of_mem _ hmem, hc⟩
    cases hd : isBlank d with
    | true =>
      rw [squeeze_cons_blank hd] at h
      exact hrest h
    | false =>
      rw [squeeze_cons hd] at h
      obtain rfl | h := List.mem_cons.1 h
      · exact .inr ⟨List.mem_cons_self .., hd⟩
      · obtain h | h := List.mem_append.1 h
        · obtain ⟨n, hn⟩ := exists_glue_eq_replicate cs
          rw [hn] at h
          exact .inl (List.eq_of_mem_replicate h)
        · exact hrest h

theorem mem_squeeze_of_mem (h : c ∈ cs) (hc : isBlank c = false) : c ∈ squeeze cs := by
  induction cs with
  | nil => cases h
  | cons d cs ih =>
    cases hd : isBlank d with
    | true =>
      rw [squeeze_cons_blank hd]
      obtain rfl | h := List.mem_cons.1 h
      · rw [hc] at hd
        cases hd
      · exact ih h
    | false =>
      rw [squeeze_cons hd]
      obtain rfl | h := List.mem_cons.1 h
      · exact List.mem_cons_self ..
      · exact List.mem_cons_of_mem _ (List.mem_append_right _ (ih h))

theorem isGap_of_squeeze_eq_nil (h : squeeze cs = []) : IsGap cs := by
  intro c hc
  cases hblank : isBlank c with
  | true => rfl
  | false =>
    have hmem := mem_squeeze_of_mem hc hblank
    rw [h] at hmem
    cases hmem

/-- A text that is squeezed to one word is this word with blanks around it. -/
theorem exists_of_squeeze_eq (hw : IsSolid w) (hne : w ≠ []) (h : squeeze cs = w) :
    ∃ front back, cs = front ++ w ++ back ∧ IsGap front ∧ IsGap back := by
  cases hwords : words cs with
  | nil =>
    rw [squeeze, hwords] at h
    exact absurd h.symm hne
  | cons v vs =>
    obtain ⟨front, back, hcs, hfront, -, hback⟩ := exists_of_words_eq_cons hwords
    rw [squeeze, hwords] at h
    cases vs with
    | nil =>
      obtain rfl : v = w := h
      exact ⟨front, back, hcs, hfront, (words_eq_nil_iff back).1 hback⟩
    | cons u us =>
      -- There would be a space in the word.
      have hspace : ' ' ∈ w := by
        rw [← h]
        simp [join]
      cases hw ' ' hspace

/-! ## Trimming -/

theorem trimEnd_of_gap (h : IsGap gap) : trimEnd gap = [] := by
  induction gap with
  | nil => rfl
  | cons c gap ih =>
    obtain ⟨hc, hgap⟩ := List.forall_mem_cons.1 h
    rw [trimEnd, ih hgap]
    exact if_pos hc

theorem trimEnd_append_gap (h : IsGap gap) (cs : List Char) : trimEnd (cs ++ gap) = trimEnd cs := by
  induction cs with
  | nil => exact trimEnd_of_gap h
  | cons c cs ih => rw [List.cons_append, trimEnd, trimEnd, ih]

theorem trim_gap_append (h : IsGap gap) (cs : List Char) : trim (gap ++ cs) = trim cs := by
  rw [trim, trim, trimStart, List.dropWhile_append_of_pos h, trimStart]

theorem trim_append_gap (h : IsGap gap) (cs : List Char) : trim (cs ++ gap) = trim cs := by
  rw [trim, trim, trimStart, trimStart, List.dropWhile_append]
  split
  · rename_i hnil
    have hgap : List.dropWhile isBlank (gap ++ []) = [] := List.dropWhile_append_of_pos h
    rw [List.append_nil] at hgap
    rw [List.isEmpty_iff.1 hnil, hgap]
  · exact trimEnd_append_gap h _

theorem trim_within (cs : List Char) : trim cs <:+: cs := by
  obtain ⟨front, back, hcs, -, -⟩ := exists_gaps_trim cs
  exact ⟨front, back, hcs.symm⟩

theorem trim_trim (cs : List Char) : trim (trim cs) = trim cs := by
  obtain ⟨front, back, hcs, hfront, hback⟩ := exists_gaps_trim cs
  calc trim (trim cs)
    _ = trim (front ++ trim cs) := (trim_gap_append hfront _).symm
    _ = trim (front ++ trim cs ++ back) := (trim_append_gap hback _).symm
    _ = trim cs := congrArg trim hcs.symm

theorem trimEnd_of_solid (h : IsSolid w) : trimEnd w = w := by
  induction w with
  | nil => rfl
  | cons c w ih => rw [trimEnd_cons_of_not_blank (h c (List.mem_cons_self ..)), ih h.tail]

theorem trim_of_solid (h : IsSolid w) : trim w = w := by
  cases w with
  | nil => rfl
  | cons c w => rw [trim_cons_of_not_blank (h c (List.mem_cons_self ..)), trimEnd_of_solid h.tail]

theorem trimEnd_cons_of_kept (h : trimEnd cs = cs) (hne : cs ≠ []) (c : Char) : trimEnd (c :: cs) = c :: cs := by
  rw [trimEnd, h]
  cases cs with
  | nil => exact absurd rfl hne
  | cons d cs => rfl

theorem trimEnd_squeeze (cs : List Char) : trimEnd (squeeze cs) = squeeze cs := by
  induction cs with
  | nil => rfl
  | cons c cs ih =>
    cases hc : isBlank c with
    | true => rw [squeeze_cons_blank hc, ih]
    | false =>
      rw [squeeze_cons hc, trimEnd_cons_of_not_blank hc]
      unfold glue
      split
      · rename_i hglue
        have hne : squeeze cs ≠ [] := by
          intro hnil
          have hgap := isGap_of_squeeze_eq_nil hnil
          rw [(words_eq_nil_iff cs).2 hgap] at hglue
          simp at hglue
        exact congrArg (c :: ·) (trimEnd_cons_of_kept ih hne ' ')
      · exact congrArg (c :: ·) ih

theorem trim_squeeze (cs : List Char) : trim (squeeze cs) = squeeze cs := by
  induction cs with
  | nil => rfl
  | cons c cs ih =>
    cases hc : isBlank c with
    | true => rw [squeeze_cons_blank hc, ih]
    | false =>
      have hend := trimEnd_squeeze (c :: cs)
      rw [squeeze_cons hc, trimEnd_cons_of_not_blank hc] at hend
      rw [squeeze_cons hc, trim_cons_of_not_blank hc, hend]

/-! ## Parts -/

variable {mark : Char}

theorem splitOn_of_not_mem (h : mark ∉ cs) : splitOn mark cs = [cs] := by
  induction cs with
  | nil => rfl
  | cons c cs ih =>
    rw [List.mem_cons, not_or] at h
    rw [splitOn, if_neg (Ne.symm h.1), ih h.2]

theorem splitOn_append (h : mark ∉ a) (b : List Char) : splitOn mark (a ++ mark :: b) = a :: splitOn mark b := by
  induction a with
  | nil => rw [List.nil_append, splitOn, if_pos rfl]
  | cons c a ih =>
    rw [List.mem_cons, not_or] at h
    rw [List.cons_append, splitOn, if_neg (Ne.symm h.1), ih h.2]

/-- The first part of a text is all of it or ends at a separator. -/
theorem splitOn_eq_cons {parts : List (List Char)} (h : splitOn mark cs = a :: parts) :
    cs = a ∧ parts = [] ∨ ∃ b, cs = a ++ mark :: b ∧ splitOn mark b = parts := by
  by_cases hmem : mark ∈ cs
  · obtain ⟨front, back, rfl, hfront⟩ := List.eq_append_cons_of_mem hmem
    rw [splitOn_append hfront] at h
    obtain ⟨rfl, rfl⟩ := List.cons.inj h
    exact .inr ⟨back, rfl, rfl⟩
  · rw [splitOn_of_not_mem hmem] at h
    obtain ⟨rfl, rfl⟩ := List.cons.inj h
    exact .inl ⟨rfl, rfl⟩

theorem not_mem_gap (hmark : isBlank mark = false) (h : IsGap gap) : mark ∉ gap := by
  intro hmem
  rw [h mark hmem] at hmark
  cases hmark

theorem not_mem_squeeze (hmark : isBlank mark = false) (h : mark ∉ cs) : mark ∉ squeeze cs := by
  intro hmem
  obtain rfl | ⟨hcs, -⟩ := mem_squeeze hmem
  · cases hmark
  · exact h hcs

theorem map_trim_splitOn_gap_append (hmark : isBlank mark = false) (h : IsGap gap) (cs : List Char) :
    (splitOn mark (gap ++ cs)).map trim = (splitOn mark cs).map trim := by
  by_cases hmem : mark ∈ cs
  · obtain ⟨front, back, rfl, hfront⟩ := List.eq_append_cons_of_mem hmem
    have hgap : mark ∉ gap ++ front := by
      rw [List.mem_append, not_or]
      exact ⟨not_mem_gap hmark h, hfront⟩
    rw [← List.append_assoc, splitOn_append hgap, splitOn_append hfront, List.map_cons, List.map_cons,
      trim_gap_append h]
  · have hgap : mark ∉ gap ++ cs := by
      rw [List.mem_append, not_or]
      exact ⟨not_mem_gap hmark h, hmem⟩
    rw [splitOn_of_not_mem hgap, splitOn_of_not_mem hmem, List.map_singleton, List.map_singleton, trim_gap_append h]

/-- The trimmed parts of a squeezed text are the squeezed parts of the text. -/
theorem map_trim_splitOn_squeeze (hmark : isBlank mark = false) (cs : List Char) :
    (splitOn mark (squeeze cs)).map trim = (splitOn mark cs).map squeeze := by
  by_cases hmem : mark ∈ cs
  · obtain ⟨front, back, rfl, hfront⟩ := List.eq_append_cons_of_mem hmem
    obtain ⟨n, hn⟩ := squeeze_append front (mark :: back)
    have hspaces : mark ∉ squeeze front ++ List.replicate n ' ' := by
      rw [List.mem_append, not_or]
      exact ⟨not_mem_squeeze hmark hfront, not_mem_gap hmark (isGap_replicate n)⟩
    rw [hn, squeeze_cons hmark, splitOn_append hspaces, splitOn_append hfront, List.map_cons, List.map_cons,
      trim_append_gap (isGap_replicate n), trim_squeeze, map_trim_splitOn_gap_append hmark (isGap_glue back),
      map_trim_splitOn_squeeze hmark back]
  · rw [splitOn_of_not_mem hmem, splitOn_of_not_mem (not_mem_squeeze hmark hmem), List.map_singleton,
      List.map_singleton, trim_squeeze]
termination_by cs.length

end FiveStage.Text
