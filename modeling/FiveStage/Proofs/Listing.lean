import FiveStage.Program

/-!
# Checking and loading

A text is gone through twice. The check looks for an opcode at the beginning of each source line; loading reads the
lines, reports those that are no instructions and leaves them out. A source line is more than a comment, so both find a
first word in it, and nothing but this word can be wrong with the line. So they come to the same lines.

Main statements:
* `mem_sourceLines_iff`: what a source line is;
* `words_stripComment_ne_nil`: a source line has a first word;
* `checkLines_eq`, `warnings_parseLines`, `instructions_parseLines`: what both make of numbered lines;
* `check_parse`: the check lists the lines that are reported, and the others are loaded.
-/

namespace FiveStage

namespace Text

theorem isBlank_of_trimStart_eq_cons {cs rest : List Char} {c : Char} (h : trimStart cs = c :: rest) :
    isBlank c = false := by
  induction cs with
  | nil => cases h
  | cons d ds ih =>
    rw [trimStart, List.dropWhile_cons] at h
    split at h
    · exact ih h
    · rename_i hd
      rw [← (List.cons.inj h).1]
      exact Bool.eq_false_iff.2 hd

theorem trimEnd_cons_of_not_blank {c : Char} (h : isBlank c = false) (cs : List Char) :
    trimEnd (c :: cs) = c :: trimEnd cs := by
  rw [trimEnd]
  split
  · rename_i hrest
    rw [hrest, h]
    rfl
  · rfl

/-- A trimmed text does not begin with a blank. -/
theorem isBlank_of_trim_eq_cons {cs rest : List Char} {c : Char} (h : trim cs = c :: rest) : isBlank c = false := by
  rw [trim] at h
  cases hs : trimStart cs with
  | nil =>
    rw [hs] at h
    cases h
  | cons d ds =>
    have hd := isBlank_of_trimStart_eq_cons hs
    rw [hs, trimEnd_cons_of_not_blank hd] at h
    rwa [← (List.cons.inj h).1]

theorem trim_cons_of_not_blank {c : Char} (h : isBlank c = false) (cs : List Char) :
    trim (c :: cs) = c :: trimEnd cs := by
  rw [trim, trimStart, List.dropWhile_cons_of_neg (by rw [h]; exact Bool.false_ne_true), trimEnd_cons_of_not_blank h]

end Text

namespace Program

open Text

variable {line : List Char} {number : Nat}

/-! ## Source lines -/

/-- What is no comment keeps its first character. -/
theorem exists_beforeSlashes_eq_cons {c : Char} {cs : List Char} (h : isComment (c :: cs) = false) :
    ∃ rest, beforeSlashes (c :: cs) = c :: rest := by
  unfold beforeSlashes
  split
  · rename_i hnil
    cases hnil
  · rename_i hslashes
    rw [hslashes] at h
    cases h
  · rename_i d ds _ hcons
    obtain ⟨rfl, rfl⟩ := List.cons.inj hcons
    exact ⟨_, rfl⟩

theorem ne_hash_of_isComment {c : Char} {cs : List Char} (h : isComment (c :: cs) = false) : c ≠ '#' := by
  rintro rfl
  cases h

/-- Two slashes or a hash begin a comment. -/
theorem isComment_eq_true_iff {cs : List Char} : isComment cs = true ↔ ['/', '/'] <+: cs ∨ ['#'] <+: cs := by
  unfold isComment
  split
  · rename_i rest
    exact iff_of_true rfl (.inl (List.prefix_append ['/', '/'] rest))
  · rename_i rest
    exact iff_of_true rfl (.inr (List.prefix_append ['#'] rest))
  · rename_i hslashes hhash
    refine iff_of_false Bool.false_ne_true ?_
    rintro (⟨rest, rfl⟩ | ⟨rest, rfl⟩)
    · exact hslashes rest rfl
    · exact hhash rest rfl

/-- The source lines of a text are its trimmed lines that are not empty and do not begin with the mark of a comment. -/
theorem mem_sourceLines_iff {text : List Char} :
    line ∈ sourceLines text ↔
      (∃ raw ∈ lines text, line = trim raw) ∧ line ≠ [] ∧ ¬['/', '/'] <+: line ∧ ¬['#'] <+: line := by
  rw [sourceLines, List.mem_filter, List.mem_map, isSource, Bool.and_eq_true, Bool.not_eq_true', Bool.not_eq_true',
    List.isEmpty_eq_false_iff, ← Bool.not_eq_true, isComment_eq_true_iff, not_or]
  simp only [eq_comm]

/-- A source line has a first word, which is not cut off with its comment. -/
theorem words_stripComment_ne_nil {text : List Char} (h : line ∈ sourceLines text) : words (stripComment line) ≠ [] := by
  obtain ⟨⟨raw, -, rfl⟩, hne, hslashes, hhash⟩ := mem_sourceLines_iff.1 h
  cases hline : trim raw with
  | nil => exact absurd hline hne
  | cons c cs =>
    have hblank := isBlank_of_trim_eq_cons hline
    have hcomment : isComment (c :: cs) = false := by
      rw [← Bool.not_eq_true, isComment_eq_true_iff, ← hline]
      exact not_or.2 ⟨hslashes, hhash⟩
    obtain ⟨rest, hrest⟩ := exists_beforeSlashes_eq_cons hcomment
    have hhash : beforeHash (c :: rest) = c :: beforeHash rest :=
      List.takeWhile_cons_of_pos (decide_eq_true (ne_hash_of_isComment hcomment))
    rw [stripComment, hrest, hhash, trim_cons_of_not_blank hblank]
    exact words_cons_ne_nil hblank _

/-! ## One line -/

/-- The first word of a line, or nothing. -/
def firstWord (line : List Char) : List Char :=
  (words (stripComment line)).headD []

/-- A line that begins with an opcode is an instruction. -/
theorem exists_parseLine_eq_ok (h : startsWithOpcode line = true) (pc : Int) (id : String) :
    ∃ code, parseLine line pc id = .ok code := by
  unfold startsWithOpcode at h
  unfold parseLine
  dsimp only
  split at h
  · cases h
  · rename_i token rest hwords
    obtain ⟨opcode, hopcode⟩ := Option.isSome_iff_exists.1 h
    rw [hopcode]
    exact ⟨_, rfl⟩

/-- A line with another first word is none, and this word is reported. -/
theorem parseLine_eq_error (hwords : words (stripComment line) ≠ []) (h : startsWithOpcode line = false) (pc : Int)
    (id : String) : parseLine line pc id = .error (.unknownOpcode (String.ofList (upper (firstWord line)))) := by
  unfold startsWithOpcode at h
  unfold parseLine firstWord
  dsimp only
  split at h
  · rename_i hnone
    exact absurd hnone hwords
  · rename_i token rest hcons
    rw [hcons]
    rw [Option.isNone_iff_eq_none.1 (Option.isSome_eq_false_iff.1 h)]
    rfl

/-- An instruction has the address and the label that it was read with, and the text of its line. -/
theorem of_parseLine_eq_ok {pc : Int} {id : String} {code : Instruction} (h : parseLine line pc id = .ok code) :
    code.pc = pc ∧ code.id = id ∧ code.raw = String.ofList (stripComment line) := by
  unfold parseLine at h
  dsimp only at h
  split at h
  · cases h
  · split at h
    · cases h
    · rw [← Except.ok.inj h]
      exact ⟨rfl, rfl, rfl⟩

/-! ## Numbered lines -/

/-- The check lists the numbered lines that do not begin with an opcode. -/
theorem checkLines_eq (number : Nat) (ls : List (List Char)) :
    checkLines number ls =
      ((ls.zipIdx number).filter fun x => !startsWithOpcode x.1).map fun x => (x.2, String.ofList x.1) := by
  induction ls generalizing number with
  | nil => rfl
  | cons line rest ih =>
    rw [checkLines, ih, List.zipIdx_cons, List.filter_cons]
    cases startsWithOpcode line <;> rfl

/-- The lines that do not begin with an opcode are reported, with their first words. -/
theorem warnings_parseLines {ls : List (List Char)} (hls : ∀ line ∈ ls, words (stripComment line) ≠ []) (before : Nat)
    (pc : Int) :
    (parseLines before pc ls).warnings =
      ((ls.zipIdx (before + 1)).filter fun x => !startsWithOpcode x.1).map fun x =>
        ⟨x.2, String.ofList x.1, .unknownOpcode (String.ofList (upper (firstWord x.1)))⟩ := by
  induction ls generalizing before pc with
  | nil => rfl
  | cons line rest ih =>
    obtain ⟨hline, hrest⟩ := List.forall_mem_cons.1 hls
    rw [parseLines, List.zipIdx_cons, List.filter_cons]
    cases hopcode : startsWithOpcode line with
    | true =>
      obtain ⟨code, hcode⟩ := exists_parseLine_eq_ok hopcode pc (toString before)
      rw [hcode]
      exact ih hrest (before + 1) (pc + wordSize)
    | false =>
      rw [parseLine_eq_error hline hopcode]
      exact congrArg _ (ih hrest (before + 1) pc)

/-- The others are loaded, one at each address, and labelled with the number of lines before them. -/
theorem instructions_parseLines {ls : List (List Char)} (hls : ∀ line ∈ ls, words (stripComment line) ≠ [])
    (before : Nat) (pc : Int) :
    (parseLines before pc ls).instructions.map Except.ok =
      ((ls.zipIdx (before + 1)).filter fun x => startsWithOpcode x.1).mapIdx fun k x =>
        parseLine x.1 (pc + k * wordSize) (toString (x.2 - 1)) := by
  induction ls generalizing before pc with
  | nil => rfl
  | cons line rest ih =>
    obtain ⟨hline, hrest⟩ := List.forall_mem_cons.1 hls
    rw [parseLines, List.zipIdx_cons, List.filter_cons]
    cases hopcode : startsWithOpcode line with
    | true =>
      obtain ⟨code, hcode⟩ := exists_parseLine_eq_ok hopcode pc (toString before)
      rw [hcode, if_pos rfl, List.mapIdx_cons]
      have haddress : ∀ k : Nat, pc + wordSize + (k : Int) * wordSize = pc + ((k + 1 : Nat) : Int) * wordSize := by
        intro k
        rw [Int.natCast_add, Int.add_mul]
        simp only [wordSize]
        omega
      have hfirst : parseLine line (pc + ((0 : Nat) : Int) * wordSize) (toString (before + 1 - 1)) = .ok code := by
        rw [Int.natCast_zero, Int.zero_mul, Int.add_zero]
        exact hcode
      rw [hfirst]
      simp only [List.map_cons, ih hrest, haddress]
    | false =>
      rw [parseLine_eq_error hline hopcode]
      exact ih hrest (before + 1) pc

/-- The source lines of a text that begin with an opcode, with their numbers. -/
def loadedLines (text : String) : List (List Char × Nat) :=
  ((sourceLines text.toList).zipIdx 1).filter fun x => startsWithOpcode x.1

theorem instructions_parse (text : String) :
    (parse text).instructions.map .ok = (loadedLines text).mapIdx fun k x =>
      parseLine x.1 (baseAddress + k * wordSize) (toString (x.2 - 1)) :=
  instructions_parseLines (fun _ hline => words_stripComment_ne_nil hline) 0 baseAddress

/-- An instruction tells which line it was read from. -/
theorem exists_loadedLines_of_getElem? {text : String} {k : Nat} {code : Instruction}
    (h : (parse text).instructions[k]? = some code) :
    ∃ x, (loadedLines text)[k]? = some x ∧ code.pc = baseAddress + k * wordSize ∧ code.id = toString (x.2 - 1) ∧
      code.raw = String.ofList (stripComment x.1) := by
  have hread := congrArg (fun outcomes => outcomes[k]?) (instructions_parse text)
  simp only [List.getElem?_map, List.getElem?_mapIdx] at hread
  rw [h, Option.map_some, eq_comm, Option.map_eq_some_iff] at hread
  obtain ⟨x, hx, hcode⟩ := hread
  exact ⟨x, hx, of_parseLine_eq_ok hcode⟩

/-- The check is passed by the lines that begin with an opcode. -/
theorem mem_check_iff {text : String} (h : (line, number) ∈ (sourceLines text.toList).zipIdx 1) :
    (number, String.ofList line) ∈ check text ↔ startsWithOpcode line = false := by
  rw [check, checkLines_eq, List.mem_map]
  constructor
  · rintro ⟨⟨other, place⟩, hmem, hsame⟩
    obtain ⟨-, hother⟩ := Prod.mk.inj hsame
    obtain ⟨-, hopcode⟩ := List.mem_filter.1 hmem
    rw [← String.ofList_injective hother]
    exact Bool.not_eq_true' _ ▸ hopcode
  · intro hopcode
    exact ⟨(line, number), List.mem_filter.2 ⟨h, by rw [hopcode]; rfl⟩, rfl⟩

/-- **Checking and loading.** The source lines of a text are the trimmed ones that are neither empty nor a comment
(`mem_sourceLines_iff`). What the check lists are those that are reported, with the same numbers and texts, and each is
reported for its first word. All other source lines are loaded in their order: the labels tell their numbers,
counted from zero, and the addresses have no gaps. Nothing is listed exactly if all source lines are loaded. -/
theorem check_parse (text : String) :
    let lines := (sourceLines text.toList).zipIdx 1
    let loaded := lines.filter fun (line, number) => (number, String.ofList line) ∉ check text
    check text = (parse text).warnings.map (fun w => (w.line, w.text)) ∧
      (∀ w ∈ (parse text).warnings, ∃ line, (line, w.line) ∈ lines ∧ String.ofList line = w.text ∧
        w.error = .unknownOpcode (String.ofList (upper (firstWord line)))) ∧
      (parse text).instructions.map .ok = loaded.mapIdx (fun k (line, number) =>
        parseLine line (baseAddress + k * wordSize) (toString (number - 1))) ∧
      (∀ (k : Nat) (code : Instruction), (parse text).instructions[k]? = some code →
        ∃ line number, loaded[k]? = some (line, number) ∧ code.pc = baseAddress + k * wordSize ∧
          code.id = toString (number - 1) ∧ code.raw = String.ofList (stripComment line)) ∧
      (check text = [] ↔ loaded = lines) := by
  intro lines loaded
  have hcheck : check text = (lines.filter fun x => !startsWithOpcode x.1).map fun x => (x.2, String.ofList x.1) :=
    checkLines_eq 1 _
  have hwarnings : (parse text).warnings = (lines.filter fun x => !startsWithOpcode x.1).map fun x =>
      ⟨x.2, String.ofList x.1, .unknownOpcode (String.ofList (upper (firstWord x.1)))⟩ :=
    warnings_parseLines (fun _ hline => words_stripComment_ne_nil hline) 0 baseAddress
  have hloaded : loaded = loadedLines text := by
    refine List.filter_congr fun x hx => ?_
    show decide ((x.2, String.ofList x.1) ∉ check text) = startsWithOpcode x.1
    rw [Bool.eq_iff_iff, decide_eq_true_eq, mem_check_iff hx, Bool.not_eq_false]
  rw [hloaded]
  refine ⟨?_, ?_, instructions_parse text, ?_, ?_⟩
  · rw [hcheck, hwarnings, List.map_map]
    rfl
  · intro w hw
    rw [hwarnings] at hw
    obtain ⟨⟨line, number⟩, hmem, rfl⟩ := List.mem_map.1 hw
    exact ⟨line, (List.mem_filter.1 hmem).1, rfl, rfl⟩
  · intro k code hcode
    obtain ⟨⟨line, number⟩, hline, hlabels⟩ := exists_loadedLines_of_getElem? hcode
    exact ⟨line, number, hline, hlabels⟩
  · rw [loadedLines, List.filter_eq_self, hcheck, List.map_eq_nil_iff, List.filter_eq_nil_iff]
    simp [lines]

/-- A comment begins with two slashes; what begins with one is a source line, and no instruction. -/
example : check "# none\n/ ADD\nNOP // done" = [(1, "/ ADD")] ∧
    (parse "# none\n/ ADD\nNOP // done").instructions.map (fun code => (code.id, code.raw)) = [("1", "NOP")] := by
  decide +kernel

end Program

end FiveStage
