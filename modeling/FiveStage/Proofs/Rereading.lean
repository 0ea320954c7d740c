import FiveStage.Proofs.Grammar

/-!
# Reading a program again

An instruction keeps the text of its line without the comment. Nothing more can be cut off from this text: it has no
mark that begins a comment and no blank at its ends, and it does not break. So the texts of a program, one on each line,
are a program text again, all of whose source lines are instructions. Only their labels are counted anew.

Main statements:
* `stripComment_stripComment`: a comment is cut off once;
* `isClean_stripComment`, `sourceLines_join`: what is kept of source lines, one on each line, gives source lines;
* `parseLine_raw`, `parseLines_raws`: a kept text is read as the instruction that it was kept for;
* `parse_source`: the text of a program is read as the program.
-/

namespace FiveStage

namespace Text

variable {c : Char} {cs line : List Char}

/-! ## Lines -/

/-- The text is on one line. -/
def Unbroken (cs : List Char) : Prop :=
  ∀ c ∈ cs, isLineBreak c = false

theorem Unbroken.within (h : Unbroken cs) (hline : line <:+: cs) : Unbroken line :=
  fun c hc => h c (hline.subset hc)

theorem unbroken_nil : Unbroken [] :=
  fun _ hc => absurd hc List.not_mem_nil

theorem unbroken_of_mem_extendFirst {ls : List (List Char)} (hc : isLineBreak c = false)
    (hls : ∀ l ∈ ls, Unbroken l) (h : line ∈ extendFirst c ls) : Unbroken line := by
  cases ls with
  | nil =>
    obtain rfl := List.mem_singleton.1 h
    exact List.forall_mem_singleton.2 hc
  | cons l ls =>
    rcases List.mem_cons.1 h with rfl | h
    · exact List.forall_mem_cons.2 ⟨hc, hls l (List.mem_cons_self ..)⟩
    · exact hls line (List.mem_cons_of_mem _ h)

/-- The lines of a text do not break. -/
theorem unbroken_of_mem_lines (h : line ∈ lines cs) : Unbroken line := by
  fun_induction lines cs generalizing line with
  | case1 => cases h
  | case2 rest ih =>
    rcases List.mem_cons.1 h with rfl | h
    · exact unbroken_nil
    · exact ih h
  | case3 c rest hpair hbreak ih =>
    rcases List.mem_cons.1 h with rfl | h
    · exact unbroken_nil
    · exact ih h
  | case4 c rest hpair hbreak ih =>
    exact unbroken_of_mem_extendFirst (Bool.eq_false_iff.2 hbreak) (fun l hl => ih hl) h

/-- A text on one line is its only line. -/
theorem lines_of_unbroken (h : Unbroken cs) (hne : cs ≠ []) : lines cs = [cs] := by
  induction cs with
  | nil => exact absurd rfl hne
  | cons c cs ih =>
    obtain ⟨hc, hcs⟩ := List.forall_mem_cons.1 h
    have hpair : c = '\r' → cs.head? ≠ some '\n' := by
      rintro rfl
      cases hc
    rw [lines_cons_of_not_pair hpair, hc, if_neg Bool.false_ne_true]
    cases cs with
    | nil => rfl
    | cons d cs =>
      rw [ih hcs (List.cons_ne_nil _ _)]
      rfl

end Text

namespace Program

open Text Grammar

variable {line cs piece : List Char} {pc : Int} {id : String} {i : Instruction}

/-! ## Comments -/

/-- No two slashes are left in front of the first ones. -/
theorem no_pair_beforeSlashes (line : List Char) : ¬['/', '/'] <:+: beforeSlashes line := by
  fun_induction beforeSlashes line with
  | case1 => simp
  | case2 => simp
  | case3 c cs hpair ih =>
    rw [List.infix_cons_iff]
    rintro (hhead | hwithin)
    · -- The second slash would be the first character of the rest, which stays if there is no comment before it.
      rw [List.cons_prefix_cons] at hhead
      obtain ⟨rfl, hslash⟩ := hhead
      obtain ⟨comment, hcs, -⟩ := exists_append_beforeSlashes cs
      obtain ⟨tail, htail⟩ := hslash
      rw [← htail] at hcs
      exact hpair _ rfl hcs
    · exact ih hwithin

theorem beforeSlashes_of_no_pair (h : ¬['/', '/'] <:+: cs) : beforeSlashes cs = cs := by
  fun_induction beforeSlashes cs with
  | case1 => rfl
  | case2 rest => exact absurd (List.prefix_append ['/', '/'] rest).isInfix h
  | case3 c cs _ ih => exact congrArg (c :: ·) (ih fun hwithin => h (List.infix_cons hwithin))

theorem hash_not_mem_beforeHash (line : List Char) : '#' ∉ beforeHash line := by
  intro hmem
  have hkept := List.all_eq_true.1 List.all_takeWhile '#' hmem
  cases hkept

/-- The line without its comment. -/
def code (line : List Char) : List Char :=
  beforeHash (beforeSlashes line)

theorem stripComment_eq (line : List Char) : stripComment line = trim (code line) :=
  rfl

theorem code_within (line : List Char) : code line <:+: line := by
  obtain ⟨comment, hline, -⟩ := exists_comment line
  exact ⟨[], comment, hline.symm⟩

/-- No piece of what is left of a line holds a comment. -/
theorem code_of_within (h : piece <:+: code line) : code piece = piece := by
  have hslashes : ¬['/', '/'] <:+: piece := by
    intro hpair
    obtain ⟨comment, hcode, -⟩ := exists_append_beforeHash (beforeSlashes line)
    have hhead : code line <:+: beforeSlashes line := ⟨[], comment, hcode.symm⟩
    exact no_pair_beforeSlashes line (hpair.trans (h.trans hhead))
  have hhash : '#' ∉ piece := fun hmem => hash_not_mem_beforeHash (beforeSlashes line) (h.subset hmem)
  rw [code, beforeSlashes_of_no_pair hslashes]
  exact takeWhile_ne_of_not_mem hhash

/-- A comment is cut off once. -/
theorem stripComment_stripComment (line : List Char) : stripComment (stripComment line) = stripComment line := by
  rw [stripComment_eq line, stripComment_eq, code_of_within (trim_within (code line)), trim_trim]

theorem stripComment_within (line : List Char) : stripComment line <:+: line :=
  (trim_within (code line)).trans (code_within line)

/-! ## Clean lines -/

/-- There is something on the line, and nothing can be cut off from it. -/
structure IsClean (line : List Char) : Prop where
  unbroken : Unbroken line
  nonempty : line ≠ []
  stripped : stripComment line = line

theorem IsClean.trim_eq (h : IsClean line) : trim line = line := by
  rw [← h.stripped, stripComment_eq, trim_trim]

/-- Of a comment nothing would be left. -/
theorem IsClean.isComment_eq_false (h : IsClean line) : isComment line = false := by
  have hstripped := h.stripped
  unfold isComment
  split
  · exact absurd hstripped.symm (List.cons_ne_nil _ _)
  · rename_i rest
    have hslash : '/' ∉ ['#'] := by decide
    have hhash : beforeSlashes ('#' :: rest) = '#' :: beforeSlashes rest := beforeSlashes_append hslash rest
    rw [stripComment, hhash] at hstripped
    exact absurd hstripped.symm (List.cons_ne_nil _ _)
  · rfl

/-- What is left of a source line is clean. -/
theorem isClean_stripComment {text : List Char} (h : line ∈ sourceLines text) : IsClean (stripComment line) where
  unbroken := by
    obtain ⟨htrimmed, -⟩ := List.mem_filter.1 h
    obtain ⟨raw, hraw, rfl⟩ := List.mem_map.1 htrimmed
    exact (unbroken_of_mem_lines hraw).within ((stripComment_within _).trans (trim_within raw))
  nonempty hnil := words_stripComment_ne_nil h (by rw [hnil]; rfl)
  stripped := stripComment_stripComment line

theorem IsClean.sourceLines_eq (h : IsClean line) : sourceLines line = [line] := by
  rw [sourceLines, lines_of_unbroken h.unbroken h.nonempty, List.map_singleton, h.trim_eq]
  exact List.filter_cons_of_pos (by simp [isSource, h.nonempty, h.isComment_eq_false])

/-- Clean lines are the source lines of the text that has them one on each line. -/
theorem sourceLines_join {ls : List (List Char)} (h : ∀ line ∈ ls, IsClean line) :
    sourceLines (join ['\n'] ls) = ls := by
  induction ls with
  | nil => rfl
  | cons line ls ih =>
    obtain ⟨hline, hls⟩ := List.forall_mem_cons.1 h
    cases ls with
    | nil => exact hline.sourceLines_eq
    | cons next ls =>
      rw [join, List.append_assoc, List.singleton_append, sourceLines_append, hline.sourceLines_eq, ih hls]
      · rfl
      · exact List.cons_ne_nil _ _

/-! ## Kept texts -/

/-- The kept text is read as the instruction, with the label that is given this time. -/
theorem parseLine_raw (h : parseLine line pc id = .ok i) (id' : String) :
    parseLine i.raw.toList pc id' = .ok { i with id := id' } := by
  unfold parseLine at h
  dsimp only at h
  split at h
  · cases h
  · rename_i token rest hwords
    split at h
    · cases h
    · rename_i opcode hopcode
      obtain rfl := Except.ok.inj h
      unfold parseLine
      dsimp only
      rw [String.toList_ofList, stripComment_stripComment, hwords]
      dsimp only
      rw [hopcode]

theorem startsWithOpcode_of_parseLine (h : parseLine line pc id = .ok i) : startsWithOpcode line = true := by
  unfold parseLine at h
  dsimp only at h
  unfold startsWithOpcode
  split at h
  · cases h
  · split at h
    · cases h
    · rename_i hopcode
      rw [hopcode]
      rfl

/-- The texts that the instructions keep. -/
def raws (program : List Instruction) : List (List Char) :=
  program.map (·.raw.toList)

/-- The text with the kept texts of the instructions, one on each line. -/
def source (program : List Instruction) : String :=
  String.ofList (join ['\n'] (raws program))

/-- The program with its instructions labelled from a number on. -/
def relabel (number : Nat) (program : List Instruction) : List Instruction :=
  program.mapIdx fun k i => { i with id := toString (number + k) }

theorem relabel_cons (number : Nat) (i : Instruction) (program : List Instruction) :
    relabel number (i :: program) = { i with id := toString number } :: relabel (number + 1) program := by
  simp only [relabel, List.mapIdx_cons, Nat.add_zero, Nat.add_assoc, Nat.add_comm 1]

theorem raws_relabel (number : Nat) (program : List Instruction) : raws (relabel number program) = raws program := by
  induction program generalizing number with
  | nil => rfl
  | cons i program ih =>
    rw [relabel_cons]
    exact congrArg (i.raw.toList :: ·) (ih (number + 1))

/-- Each kept text is what is left of one of the lines, and begins with an opcode. -/
theorem mem_raws_parseLines {ls : List (List Char)} {before : Nat} {raw : List Char}
    (h : raw ∈ raws (parseLines before pc ls).instructions) :
    startsWithOpcode raw = true ∧ ∃ line ∈ ls, raw = stripComment line := by
  induction ls generalizing before pc with
  | nil => cases h
  | cons line ls ih =>
    rw [parseLines] at h
    split at h
    · rename_i i hi
      rcases List.mem_cons.1 h with rfl | h
      · obtain ⟨-, -, hraw⟩ := of_parseLine_eq_ok hi
        refine ⟨startsWithOpcode_of_parseLine (parseLine_raw hi ""), line, List.mem_cons_self .., ?_⟩
        exact (congrArg String.toList hraw).trans (String.toList_ofList ..)
      · obtain ⟨hopcode, other, hother, hraw⟩ := ih h
        exact ⟨hopcode, other, List.mem_cons_of_mem _ hother, hraw⟩
    · obtain ⟨hopcode, other, hother, hraw⟩ := ih h
      exact ⟨hopcode, other, List.mem_cons_of_mem _ hother, hraw⟩

/-- The kept texts are read as the instructions that they were kept for. -/
theorem parseLines_raws (ls : List (List Char)) (before number : Nat) (pc : Int) :
    parseLines number pc (raws (parseLines before pc ls).instructions) =
      ⟨relabel number (parseLines before pc ls).instructions, []⟩ := by
  induction ls generalizing before number pc with
  | nil => rfl
  | cons line ls ih =>
    rw [parseLines]
    split
    · rename_i i hi
      dsimp only
      rw [relabel_cons, raws, List.map_cons, parseLines, parseLine_raw hi]
      dsimp only
      rw [← raws, ih]
    · exact ih (before + 1) number pc

/-! ## Texts -/

theorem sourceLines_source (text : String) :
    sourceLines (source (parse text).instructions).toList = raws (parse text).instructions := by
  rw [source, String.toList_ofList]
  refine sourceLines_join fun raw hraw => ?_
  obtain ⟨-, line, hline, rfl⟩ := mem_raws_parseLines hraw
  exact isClean_stripComment hline

theorem source_relabel (number : Nat) (program : List Instruction) : source (relabel number program) = source program :=
  congrArg (fun texts => String.ofList (join ['\n'] texts)) (raws_relabel number program)

theorem parse_source_eq (text : String) :
    parse (source (parse text).instructions) = ⟨relabel 0 (parse text).instructions, []⟩ := by
  rw [parse, sourceLines_source]
  exact parseLines_raws (sourceLines text.toList) 0 0 baseAddress

theorem check_source_eq (text : String) : check (source (parse text).instructions) = [] := by
  rw [check, sourceLines_source, checkLines_eq, List.map_eq_nil_iff, List.filter_eq_nil_iff]
  intro x hx
  obtain ⟨hopcode, -⟩ := mem_raws_parseLines (List.fst_mem_of_mem_zipIdx hx)
  rw [hopcode]
  exact Bool.false_ne_true

/-- **A program as a text.** The kept texts of a program, one on each line, are read without a warning as the same
instructions, with the same addresses, opcodes, operands and texts, labelled from zero on; the check of this text lists
nothing. What is read has the same text, so reading it once more changes nothing. -/
theorem parse_source (text : String) :
    let program := (parse text).instructions
    let again := parse (source program)
    again.warnings = [] ∧
      again.instructions = program.mapIdx (fun k i => { i with id := toString k }) ∧
      check (source program) = [] ∧
      source again.instructions = source program ∧
      parse (source again.instructions) = again := by
  intro program again
  have hagain : again = ⟨relabel 0 program, []⟩ := parse_source_eq text
  have hsource : source again.instructions = source program := by
    rw [hagain]
    exact source_relabel 0 program
  refine ⟨by rw [hagain], ?_, check_source_eq text, hsource, congrArg parse hsource⟩
  rw [hagain]
  simp only [relabel, Nat.zero_add]

/-- A comment inside a comment, a slash that begins none, and blanks of several kinds. -/
example : source (parse "NOP # a // b\nwrong\n\u3000lw r1,4(R0)\u00A0// # \nADD R1,R2,/ R3").instructions =
    "NOP\nlw r1,4(R0)\nADD R1,R2,/ R3" := by
  decide +kernel

end Program

end FiveStage
