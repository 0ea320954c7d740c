import FiveStage.Proofs.Listing

/-!
# Programs joined at a line feed

Two counters go along with the reading of a text: the number of source lines, which goes on at every one of them, and
the address, which goes on at those that are instructions. They are all that one line leaves to the next. So two texts
with a line feed between them are read as the first one, and then the second one with both counters further on.

Main statements:
* `parseLines_shift`, `checkLines_shift`: reading with counters that are further on;
* `parseLines_append`, `checkLines_append`: reading lines one part after the other;
* `parse_append_newline`: reading two texts as one.
-/

namespace FiveStage

/-! ## Counters that are further on -/

/-- The number that a label writes. -/
def Instruction.number (i : Instruction) : Nat :=
  Nat.ofDigitChars 10 i.id.toList 0

/-- The instruction behind so many more source lines, so many of which are instructions. -/
def Instruction.shift (lines places : Nat) (i : Instruction) : Instruction :=
  { i with id := toString (i.number + lines), pc := i.pc + places * Program.wordSize }

theorem Instruction.number_of_id {i : Instruction} {n : Nat} (h : i.id = toString n) : i.number = n := by
  rw [number, h, Nat.toString_eq_ofList_toDigits, String.toList_ofList, Nat.ofDigitChars_ten_toDigits]

namespace Program

/-- The warning behind so many more source lines. -/
def Warning.shift (lines : Nat) (w : Warning) : Warning :=
  { w with line := w.line + lines }

/-- The listing behind so many more source lines, so many of which are instructions. -/
def Listing.shift (lines places : Nat) (l : Listing) : Listing :=
  ⟨l.instructions.map (Instruction.shift lines places), l.warnings.map (Warning.shift lines)⟩

/-- One listing after the other. -/
def Listing.append (a b : Listing) : Listing :=
  ⟨a.instructions ++ b.instructions, a.warnings ++ b.warnings⟩

/-- The counters show in the label and in the address of an instruction, and in nothing else. -/
theorem parseLine_shift (line : List Char) (before : Nat) (pc : Int) (lines places : Nat) :
    parseLine line (pc + places * wordSize) (toString (before + lines)) =
      (parseLine line pc (toString before)).map (Instruction.shift lines places) := by
  unfold parseLine
  dsimp only
  split
  · rfl
  · split
    · rfl
    · rw [Except.map, Instruction.shift, Instruction.number_of_id rfl]

theorem parseLines_shift (ls : List (List Char)) (before : Nat) (pc : Int) (lines places : Nat) :
    parseLines (before + lines) (pc + places * wordSize) ls = (parseLines before pc ls).shift lines places := by
  induction ls generalizing before pc with
  | nil => rfl
  | cons line rest ih =>
    have hlines : before + lines + 1 = before + 1 + lines := Nat.add_right_comm ..
    have haddress : pc + places * wordSize + wordSize = pc + wordSize + places * wordSize := Int.add_right_comm ..
    rw [parseLines, parseLines, parseLine_shift, hlines, haddress]
    cases parseLine line pc (toString before) with
    | ok i =>
      simp only [Except.map, ih]
      rfl
    | error e =>
      simp only [Except.map, ih]
      rfl

theorem checkLines_shift (ls : List (List Char)) (number lines : Nat) :
    checkLines (number + lines) ls = (checkLines number ls).map fun (n, text) => (n + lines, text) := by
  induction ls generalizing number with
  | nil => rfl
  | cons line rest ih =>
    have hnumber : number + lines + 1 = number + 1 + lines := Nat.add_right_comm ..
    rw [checkLines, checkLines, hnumber, ih]
    split
    · rfl
    · rfl

/-! ## One part after the other -/

/-- Every source line counts, and every instruction takes an address. -/
theorem parseLines_append (xs ys : List (List Char)) (before : Nat) (pc : Int) :
    parseLines before pc (xs ++ ys) =
      (parseLines before pc xs).append
        (parseLines (before + xs.length) (pc + (parseLines before pc xs).instructions.length * wordSize) ys) := by
  induction xs generalizing before pc with
  | nil => simp [parseLines, Listing.append]
  | cons line rest ih =>
    have hlines : before + 1 + rest.length = before + (rest.length + 1) := by omega
    have haddress : ∀ n : Nat, pc + wordSize + n * wordSize = pc + ((n + 1 : Nat) : Int) * wordSize := by
      intro n
      simp only [wordSize]
      omega
    rw [List.cons_append, List.length_cons, parseLines, parseLines]
    cases parseLine line pc (toString before) with
    | ok i =>
      dsimp only
      rw [ih, hlines, haddress, List.length_cons]
      rfl
    | error e =>
      dsimp only
      rw [ih, hlines]
      rfl

theorem checkLines_append (xs ys : List (List Char)) (number : Nat) :
    checkLines number (xs ++ ys) = checkLines number xs ++ checkLines (number + xs.length) ys := by
  induction xs generalizing number with
  | nil => rfl
  | cons line rest ih =>
    have hnumber : number + 1 + rest.length = number + (rest.length + 1) := by omega
    rw [List.cons_append, List.length_cons, checkLines, checkLines, ih, hnumber]
    split
    · rfl
    · rfl

/-- Every label writes a number. -/
theorem exists_id_parseLines {ls : List (List Char)} {before : Nat} {pc : Int} {i : Instruction}
    (h : i ∈ (parseLines before pc ls).instructions) : ∃ n : Nat, i.id = toString n := by
  induction ls generalizing before pc with
  | nil => cases h
  | cons line rest ih =>
    rw [parseLines] at h
    split at h
    · rename_i code hcode
      rcases List.mem_cons.1 h with rfl | h
      · exact ⟨before, (of_parseLine_eq_ok hcode).2.1⟩
      · exact ih h
    · exact ih h

/-! ## Texts -/

theorem sourceLines_append_newline (a b : String) :
    sourceLines (a ++ "\n" ++ b).toList = sourceLines a.toList ++ sourceLines b.toList := by
  have hseam : (a ++ "\n" ++ b).toList = a.toList ++ '\n' :: b.toList := by simp
  rw [hseam, sourceLines_append]

/-- **Two texts as one.** With a line feed between them, two texts are read as the first one and then the second one,
whose labels and line numbers count all source lines of the first, and whose addresses count only its instructions. The
check lists the lines of both in the same way. -/
theorem parse_append_newline (a b : String) :
    let lines := (sourceLines a.toList).length
    let places := (parse a).instructions.length
    (parse (a ++ "\n" ++ b)).instructions =
        (parse a).instructions ++ (parse b).instructions.map (Instruction.shift lines places) ∧
      (∀ i ∈ (parse b).instructions, ∃ n : Nat, i.id = toString n ∧
        i.shift lines places = { i with id := toString (n + lines), pc := i.pc + 4 * places }) ∧
      (parse (a ++ "\n" ++ b)).warnings =
        (parse a).warnings ++ (parse b).warnings.map (fun w => { w with line := w.line + lines }) ∧
      check (a ++ "\n" ++ b) = check a ++ (check b).map fun (n, text) => (n + lines, text) := by
  intro lines places
  have hparse : parse (a ++ "\n" ++ b) = (parse a).append ((parse b).shift lines places) := by
    have hshift := parseLines_shift (sourceLines b.toList) 0 baseAddress lines places
    rw [parse, sourceLines_append_newline, parseLines_append]
    exact congrArg (parse a).append hshift
  refine ⟨congrArg Listing.instructions hparse, ?_, congrArg Listing.warnings hparse, ?_⟩
  · intro i hi
    obtain ⟨n, hn⟩ := exists_id_parseLines hi
    refine ⟨n, hn, ?_⟩
    rw [Instruction.shift, Instruction.number_of_id hn, Int.mul_comm, wordSize]
  · rw [check, sourceLines_append_newline, checkLines_append, checkLines_shift]
    rfl

/-- A line that is skipped counts for the label, and a carriage return at the seam is part of the line feed. -/
theorem parse_append_newline_skipped_line :
    let a := "NOP\nwrong\n# none\r"
    let b := "J 8\n?"
    let jump : Instruction := ⟨"0", 0x400000, .j, ["8"], "J 8"⟩
    (parse (a ++ "\n" ++ b)).instructions.map (fun i => (i.id, i.pc, i.raw)) =
        [("0", 0x400000, "NOP"), ("2", 0x400004, "J 8")] ∧
      jump ∈ (parse b).instructions ∧
      (∃ n : Nat, jump.id = toString n ∧ jump.shift 2 1 = { jump with id := toString (n + 2), pc := 0x400004 }) ∧
      check (a ++ "\n" ++ b) = [(2, "wrong"), (4, "?")] := by
  intro a b jump
  obtain ⟨hinstructions, hshift, -, hcheck⟩ := parse_append_newline a b
  have hlines : (sourceLines a.toList).length = 2 := by decide +kernel
  have hplaces : (parse a).instructions.length = 1 := by decide +kernel
  have hjump : jump ∈ (parse b).instructions := by decide +kernel
  rw [hlines, hplaces] at hshift
  refine ⟨?_, hjump, hshift jump hjump, ?_⟩
  · rw [hinstructions]
    decide +kernel
  · rw [hcheck]
    decide +kernel

end Program

end FiveStage
