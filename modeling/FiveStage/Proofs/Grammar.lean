import FiveStage.Proofs.Pieces

/-!
# The language of a line

The instructions as they are meant, apart from how they are written. A line on which one is written has its opcode in
any spelling that is the name in upper case, then its operands with any blanks around their pieces, then a comment if
one is wanted. Such a line is read as the instruction that is meant; and a line is read as valid arithmetic only if it
is one of them.

Main statements:
* `operandsOf_intersperse`, `operandsOf_base`: what the text behind an opcode denotes;
* `Layout.exists_parseLine_eq_ok`, `exists_layout`: the lines that are read as instructions;
* `Form.operandsOf_pieces`, `Form.of_operands`: the pieces of a form denote what it means;
* `Form.parseLine_written`: a written form is read as it is meant, and valid arithmetic is a written form.
-/

namespace FiveStage.Grammar

open Text

variable {mark : Char} {cs text piece body : List Char} {ws : List (List Char)} {op : Opcode}

/-! ## Offsets and bases -/

theorem splitAtLast?_of_not_mem (h : mark ∉ cs) : splitAtLast? mark cs = none := by
  induction cs with
  | nil => rfl
  | cons c cs ih =>
    rw [List.mem_cons, not_or] at h
    rw [splitAtLast?, ih h.2]
    exact if_neg (Ne.symm h.1)

theorem splitAtLast?_append (a : List Char) {b : List Char} (h : mark ∉ b) :
    splitAtLast? mark (a ++ mark :: b) = some (a, b) := by
  induction a with
  | nil =>
    rw [List.nil_append, splitAtLast?, splitAtLast?_of_not_mem h]
    exact if_pos rfl
  | cons c a ih => rw [List.cons_append, splitAtLast?, ih]

theorem takeWhile_ne_of_not_mem (h : mark ∉ cs) : cs.takeWhile (· ≠ mark) = cs := by
  refine List.takeWhile_eq_self_iff.2 fun c hc => decide_eq_true ?_
  rintro rfl
  exact h hc

/-- An offset stands in front of the last base. -/
theorem offsetAndBase?_eq_some {offset base rest : List Char} (hoffset : offset ≠ []) (hbase : base ≠ [])
    (hopen : '(' ∉ base) (hclose : ')' ∉ rest) (hfeed : '\n' ∉ offset ++ '(' :: (base ++ ')' :: rest)) :
    Program.offsetAndBase? (offset ++ '(' :: (base ++ ')' :: rest)) = some (offset, base) := by
  -- The base has a last character, in front of which the parenthesis is looked for.
  obtain rfl | ⟨front, last, rfl⟩ := List.eq_nil_or_concat' base
  · exact absurd rfl hbase
  · have hclosed : splitAtLast? ')' (offset ++ '(' :: (front ++ [last] ++ ')' :: rest)) =
        some (offset ++ '(' :: front ++ [last], rest) := by
      have h := splitAtLast?_append (offset ++ '(' :: front ++ [last]) hclose
      simpa using h
    have hopened : splitAtLast? '(' (offset ++ '(' :: front) = some (offset, front) :=
      splitAtLast?_append offset fun hmem => hopen (List.mem_append_left _ hmem)
    have hlast : (offset ++ '(' :: front ++ [last]).drop ((offset ++ '(' :: front ++ [last]).length - 1) = [last] :=
      List.drop_left' (by simp)
    rw [Program.offsetAndBase?, takeWhile_ne_of_not_mem hfeed, hclosed]
    dsimp only
    rw [List.dropLast_concat, hopened, hlast]
    exact if_neg (by rwa [List.isEmpty_iff])

theorem offsetAndBase?_eq_none (h : ')' ∉ cs) : Program.offsetAndBase? cs = none := by
  have hmem : ')' ∉ cs.takeWhile (· ≠ '\n') := fun hmem => h ((List.takeWhile_sublist _).subset hmem)
  rw [Program.offsetAndBase?, splitAtLast?_of_not_mem hmem]

/-! ## Operands -/

/-- The operands that the text behind an opcode denotes. -/
def operandsOf (op : Opcode) (body : List Char) : List (List Char) :=
  if (words body).isEmpty then [] else Program.parseOperands (squeeze body) op

theorem operandsOf_of_gap (h : IsGap body) : operandsOf op body = [] := by
  rw [operandsOf, (words_eq_nil_iff body).2 h]
  rfl

theorem operandsOf_eq (h : ¬IsGap body) : operandsOf op body = Program.parseOperands (squeeze body) op :=
  if_neg (by rwa [List.isEmpty_iff, words_eq_nil_iff])

/-- A line that is squeezed is one line. -/
theorem feed_not_mem_squeeze (cs : List Char) : '\n' ∉ squeeze cs := by
  intro hmem
  obtain hspace | ⟨-, hblank⟩ := mem_squeeze hmem
  · exact absurd hspace (by decide)
  · cases hblank

/-- A parenthesis keeps a part from being a register name. -/
theorem normalize_squeeze (h : '(' ∈ cs) : Program.normalize (squeeze cs) = squeeze cs := by
  refine if_neg fun hname => ?_
  obtain ⟨r, hr⟩ := Register.exists_text_eq hname (feed_not_mem_squeeze cs)
  have hmem : '(' ∈ r.text := by
    rw [hr]
    exact mem_squeeze_of_mem h rfl
  exact r.isToken_text.not_mem rfl hmem

/-- The parts of a text between commas, in the form that operands have. -/
def partsOf (body : List Char) : List (List Char) :=
  ((splitOn ',' body).map squeeze).map Program.normalize

theorem map_normalize_trim (body : List Char) :
    ((splitOn ',' (squeeze body)).map fun part => Program.normalize (trim part)) = partsOf body := by
  have hblank : isBlank ',' = false := rfl
  rw [partsOf, ← map_trim_splitOn_squeeze hblank, List.map_map]
  rfl

/-- The operands of other opcodes than loads and stores are the parts between commas. -/
theorem parseOperands_eq_partsOf (h : op.isMemory = false) (body : List Char) :
    Program.parseOperands (squeeze body) op = partsOf body := by
  rw [Program.parseOperands, h]
  exact map_normalize_trim body

/-- A base counts as an operand of a load or store. -/
theorem parseOperands_eq_flatMap (h : op.isMemory = true) (hopen : '(' ∈ body) :
    Program.parseOperands (squeeze body) op = (partsOf body).flatMap Program.splitBase := by
  have hmem : (squeeze body).contains '(' = true := List.contains_iff_mem.2 (mem_squeeze_of_mem hopen rfl)
  rw [Program.parseOperands, h, hmem]
  exact congrArg (List.flatMap Program.splitBase) (map_normalize_trim body)

/-- Operands between commas are normalized. -/
theorem operandsOf_intersperse (hopcode : op.isMemory = false) (hne : ws ≠ []) (hws : ∀ w ∈ ws, IsToken w)
    (h : Spaced (ws.intersperse [',']) body) : operandsOf op body = ws.map Program.normalize := by
  have hparts : (splitOn ',' body).map squeeze = ws :=
    map_squeeze_splitOn rfl hne (fun w hw => ⟨(hws w hw).isSolid, (hws w hw).not_mem rfl⟩) h
  have hgap : ¬IsGap body := by
    obtain ⟨w, rest, rfl⟩ := List.exists_cons_of_ne_nil hne
    have hw := hws w (List.mem_cons_self ..)
    cases rest with
    | nil => exact h.not_gap hw
    | cons v rest => exact h.not_gap hw
  rw [operandsOf_eq hgap, parseOperands_eq_partsOf hopcode, partsOf, hparts]

/-- A register stays the one operand that it is. -/
theorem splitBase_register (r : Register) : Program.splitBase (upper r.text) = [upper r.text] := by
  rw [Program.splitBase, offsetAndBase?_eq_none (r.isToken_upper.not_mem rfl)]

theorem splitBase_spaced {k : Immediate} {b : Register} (h : Spaced [k.text, ['('], b.text, [')']] text)
    (hfeed : '\n' ∉ text) : Program.splitBase text = [k.text, upper b.text] := by
  obtain ⟨offset, tail, rfl, hoffset, htail⟩ := h.exists_mark
  obtain ⟨base, rest, rfl, hbase, hrest⟩ := htail.exists_mark
  have hopen : '(' ∉ base := hbase.not_mem rfl (List.forall_mem_singleton.2 (b.isToken_text.not_mem rfl))
  have hclose : ')' ∉ rest := hrest.not_mem rfl nofun
  have hoffset' : offset ≠ [] := by
    rintro rfl
    exact hoffset.not_gap k.isToken nofun
  have hbase' : base ≠ [] := by
    rintro rfl
    exact hbase.not_gap b.isToken_text nofun
  rw [Program.splitBase, offsetAndBase?_eq_some hoffset' hbase' hopen hclose hfeed]
  dsimp only
  rw [hoffset.trim_eq k.isToken.isSolid, hbase.trim_eq b.isToken_text.isSolid, b.normalize_text]

theorem isSolid_singleton (h : isBlank c = false) : IsSolid [c] :=
  List.forall_mem_singleton.2 h

/-- A load or store has a register, an offset and a base. -/
theorem operandsOf_base (hopcode : op.isMemory = true) {t b : Register} {k : Immediate}
    (h : Spaced [t.text, [','], k.text, ['('], b.text, [')']] body) :
    operandsOf op body = [upper t.text, k.text, upper b.text] := by
  have hgap := h.not_gap t.isToken_text
  obtain ⟨front, back, rfl, hfront, hback⟩ := h.exists_mark
  have hpieces : ∀ piece ∈ [k.text, ['('], b.text, [')']], IsSolid piece ∧ ',' ∉ piece := by
    intro piece hpiece
    simp only [List.mem_cons, List.not_mem_nil, or_false] at hpiece
    obtain rfl | rfl | rfl | rfl := hpiece
    · exact ⟨k.isToken.isSolid, k.isToken.not_mem rfl⟩
    · exact ⟨isSolid_singleton rfl, by decide⟩
    · exact ⟨b.isToken_text.isSolid, b.isToken_text.not_mem rfl⟩
    · exact ⟨isSolid_singleton rfl, by decide⟩
  have hcomma : ',' ∉ front := hfront.not_mem rfl (List.forall_mem_singleton.2 (t.isToken_text.not_mem rfl))
  have hcomma' : ',' ∉ back := hback.not_mem rfl fun piece hpiece => (hpieces piece hpiece).2
  have hopen : '(' ∈ back := by
    obtain ⟨offset, tail, rfl, -, -⟩ := hback.exists_mark
    exact List.mem_append_right _ (List.mem_cons_self ..)
  have hparts : partsOf (front ++ ',' :: back) = [upper t.text, squeeze back] := by
    rw [partsOf, splitOn_append hcomma, splitOn_of_not_mem hcomma', List.map_cons, List.map_singleton,
      hfront.squeeze_eq t.isToken_text.isSolid, List.map_cons, List.map_singleton, t.normalize_text,
      normalize_squeeze hopen]
  have hbase : Program.splitBase (squeeze back) = [k.text, upper b.text] :=
    splitBase_spaced (hback.squeezed fun piece hpiece => (hpieces piece hpiece).1) (feed_not_mem_squeeze back)
  rw [operandsOf_eq hgap, parseOperands_eq_flatMap hopcode (List.mem_append_right _ (List.mem_cons_of_mem _ hopen)),
    hparts, List.flatMap_cons, List.flatMap_singleton, splitBase_register, hbase]
  rfl

/-! ## Lines -/

/-- The line is an opcode in any spelling, a body that is kept apart from it, and a comment if one is wanted. -/
inductive Layout (op : Opcode) (body : List Char) : List Char → Prop
  | mk {lead mnemonic comment : List Char} (hlead : IsGap lead) (hmnemonic : upper mnemonic = op.name.toList)
    (hbody : Detached body) (hcomment : comment = [] ∨ Program.isComment comment = true) :
    Layout op body (lead ++ mnemonic ++ body ++ comment)

variable {line comment : List Char} {pc : Int} {id : String} {i : Instruction}

theorem beforeSlashes_append (h : '/' ∉ cs) (rest : List Char) :
    Program.beforeSlashes (cs ++ rest) = cs ++ Program.beforeSlashes rest := by
  induction cs with
  | nil => rfl
  | cons c cs ih =>
    rw [List.mem_cons, not_or] at h
    rw [List.cons_append, Program.beforeSlashes, ih h.2, List.cons_append]
    intro _ hslash
    exact absurd hslash.symm h.1

/-- A comment is cut off from what has no mark that begins one. -/
theorem cut_append (hslash : '/' ∉ cs) (hhash : '#' ∉ cs) (h : comment = [] ∨ Program.isComment comment = true) :
    Program.beforeHash (Program.beforeSlashes (cs ++ comment)) = cs := by
  have hcut : ∀ rest, Program.beforeHash (cs ++ rest) = cs ++ Program.beforeHash rest := fun rest =>
    List.takeWhile_append_of_pos fun c hc => decide_eq_true fun hsame => hhash (hsame ▸ hc)
  rw [beforeSlashes_append hslash, hcut]
  obtain rfl | h := h
  · exact List.append_nil cs
  · unfold Program.isComment at h
    split at h
    · exact List.append_nil cs
    · rename_i rest
      -- The slashes inside such a comment are cut first.
      have hfirst : Program.beforeSlashes ('#' :: rest) = '#' :: Program.beforeSlashes rest := by
        rw [Program.beforeSlashes]
        nofun
      rw [hfirst]
      exact List.append_nil cs
    · cases h

theorem exists_append_beforeSlashes (line : List Char) :
    ∃ rest, line = Program.beforeSlashes line ++ rest ∧ (rest = [] ∨ Program.isComment rest = true) := by
  fun_induction Program.beforeSlashes line with
  | case1 => exact ⟨[], rfl, .inl rfl⟩
  | case2 rest => exact ⟨_, rfl, .inr rfl⟩
  | case3 c cs _ ih =>
    obtain ⟨rest, hcs, hrest⟩ := ih
    exact ⟨rest, congrArg (c :: ·) hcs, hrest⟩

theorem exists_append_beforeHash (line : List Char) :
    ∃ rest, line = Program.beforeHash line ++ rest ∧ (rest = [] ∨ ∃ tail, rest = '#' :: tail) := by
  refine ⟨line.dropWhile (· ≠ '#'), List.takeWhile_append_dropWhile.symm, ?_⟩
  have hhead := List.head?_dropWhile_not (· ≠ '#') line
  cases hrest : line.dropWhile (· ≠ '#') with
  | nil => exact .inl rfl
  | cons c tail =>
    rw [hrest] at hhead
    obtain rfl : c = '#' := by simpa using hhead
    exact .inr ⟨tail, rfl⟩

/-- What is cut off from a line is a comment. -/
theorem exists_comment (line : List Char) : ∃ comment,
    line = Program.beforeHash (Program.beforeSlashes line) ++ comment ∧
      (comment = [] ∨ Program.isComment comment = true) := by
  obtain ⟨back, hline, hback⟩ := exists_append_beforeSlashes line
  obtain ⟨middle, hcode, hmiddle⟩ := exists_append_beforeHash (Program.beforeSlashes line)
  refine ⟨middle ++ back, ?_, ?_⟩
  · rw [← List.append_assoc, ← hcode]
    exact hline
  · -- If there are both, the line has a `#` in front of the slashes, and the comment begins with it.
    obtain rfl | ⟨tail, rfl⟩ := hmiddle
    · exact hback
    · exact .inr rfl

theorem words_layout {lead mnemonic : List Char} (hlead : IsGap lead) (hmnemonic : upper mnemonic = op.name.toList)
    (hbody : Detached body) : words (lead ++ mnemonic ++ body) = mnemonic :: words body := by
  have htoken := isToken_mnemonic hmnemonic
  rw [List.append_assoc, words_gap_append hlead, words_append htoken.isSolid htoken.1 hbody]

/-- A line of an opcode and a body is read as the opcode with the operands that the body denotes. -/
theorem Layout.exists_parseLine_eq_ok (h : Layout op body line) (hslash : '/' ∉ body) (hhash : '#' ∉ body)
    (pc : Int) (id : String) : ∃ i, Program.parseLine line pc id = .ok i ∧ i.opcode = op ∧
      i.operands = (operandsOf op body).map String.ofList := by
  obtain @⟨lead, mnemonic, comment, hlead, hmnemonic, hbody, hcomment⟩ := h
  have hcode {mark : Char} (hblank : isBlank mark = false) (hbare : isBare mark = false) (hmark : mark ∉ body) :
      mark ∉ lead ++ mnemonic ++ body := by
    simp only [List.mem_append, not_or]
    exact ⟨⟨not_mem_gap hblank hlead, (isToken_mnemonic hmnemonic).not_mem hbare⟩, hmark⟩
  have hwords : words (Program.stripComment (lead ++ mnemonic ++ body ++ comment)) = mnemonic :: words body := by
    rw [Program.stripComment, cut_append (hcode rfl rfl hslash) (hcode rfl rfl hhash) hcomment, words_trim,
      words_layout hlead hmnemonic hbody]
  unfold Program.parseLine
  dsimp only
  rw [hwords]
  dsimp only
  rw [(Opcode.ofToken?_eq_some_iff mnemonic op).2 hmnemonic]
  exact ⟨_, rfl, rfl, rfl⟩

/-- A line that is read as an instruction is one of its opcode and of a body that denotes the operands. -/
theorem exists_layout (h : Program.parseLine line pc id = .ok i) :
    ∃ body, Layout i.opcode body line ∧ i.operands = (operandsOf i.opcode body).map String.ofList := by
  obtain ⟨comment, hline, hcomment⟩ := exists_comment line
  unfold Program.parseLine at h
  dsimp only at h
  split at h
  · cases h
  · rename_i mnemonic rest hwords
    rw [Program.stripComment, words_trim] at hwords
    obtain ⟨lead, body, hcode, hlead, hbody, rfl⟩ := exists_of_words_eq_cons hwords
    split at h
    · cases h
    · rename_i op hopcode
      rw [← Except.ok.inj h]
      refine ⟨body, ?_, rfl⟩
      rw [hline, hcode]
      exact .mk hlead ((Opcode.ofToken?_eq_some_iff mnemonic op).1 hopcode) hbody hcomment

/-! ## Forms -/

/-- The instructions as they are meant. -/
inductive Form
  | alu (op : Opcode) (h : op.isAlu = true) (d s t : Register)
  | load (t : Register) (k : Immediate) (b : Register)
  | store (t : Register) (k : Immediate) (b : Register)
  | branch (op : Opcode) (h : op.semantics.kind = .branch) (s t : Register) (k : Immediate)
  | jump (k : Immediate)
  | nop

namespace Form

def opcode : Form → Opcode
  | alu op .. => op
  | load .. => .lw
  | store .. => .sw
  | branch op .. => op
  | jump _ => .j
  | nop => .nop

/-- The pieces that are written behind the opcode. -/
def pieces : Form → List (List Char)
  | alu _ _ d s t => [d.text, s.text, t.text].intersperse [',']
  | load t k b | store t k b => [t.text, [','], k.text, ['('], b.text, [')']]
  | branch _ _ s t k => [s.text, t.text, k.text].intersperse [',']
  | jump k => [k.text].intersperse [',']
  | nop => []

def operands : Form → List String
  | alu _ _ d s t => [d.operand, s.operand, t.operand]
  | load t k b | store t k b => [t.operand, k.operand, b.operand]
  | branch _ _ s t k => [s.operand, t.operand, k.operand]
  | jump k => [k.operand]
  | nop => []

/-- The registers that are read, as they stand among the operands. -/
def reads : Form → List String
  | alu _ _ _ s t => [s.operand, t.operand]
  | load _ _ b => [b.operand]
  | store t _ b => [t.operand, b.operand]
  | branch _ _ s t _ => [s.operand, t.operand]
  | jump _ | nop => []

/-- The registers that are written, as they stand among the operands. -/
def writes : Form → List String
  | alu _ _ d _ _ => [d.operand]
  | load t _ _ => [t.operand]
  | store .. | branch .. | jump _ | nop => []

/-- The form is written on the line, with any blanks around its pieces. -/
def Written (form : Form) (line : List Char) : Prop :=
  ∃ body, Layout form.opcode body line ∧ Spaced form.pieces body

variable {form : Form}

theorem semantics_of_isAlu (h : op.isAlu = true) : op.semantics = ⟨.r, 3, [1, 2], [0], .alu⟩ := by
  cases op <;> first | rfl | cases h

theorem semantics_of_branch (h : op.semantics.kind = .branch) : op.semantics = ⟨.i, 3, [0, 1], [], .branch⟩ := by
  cases op <;> first | rfl | cases h

theorem isMemory_of_isAlu (h : op.isAlu = true) : op.isMemory = false := by
  cases op <;> first | rfl | cases h

theorem isMemory_of_branch (h : op.semantics.kind = .branch) : op.isMemory = false := by
  cases op <;> first | rfl | cases h

theorem isToken_or_mark (h : piece ∈ form.pieces) : IsToken piece ∨ piece ∈ [[','], ['('], [')']] := by
  have hregister (r : Register) : IsToken r.text := r.isToken_text
  have himmediate (k : Immediate) : IsToken k.text := k.isToken
  cases form with
  | nop => cases h
  | _ =>
    simp only [pieces, List.intersperse, List.mem_cons, List.not_mem_nil, or_false] at h ⊢
    grind

/-- What begins a comment is no part of a form. -/
theorem not_mem_body (h : Spaced form.pieces body) (hblank : isBlank mark = false) (hbare : isBare mark = false)
    (hmark : ∀ piece ∈ [[','], ['('], [')']], mark ∉ piece) : mark ∉ body := by
  refine h.not_mem hblank fun piece hpiece => ?_
  obtain htoken | hpiece := isToken_or_mark hpiece
  · exact htoken.not_mem hbare
  · exact hmark piece hpiece

/-- The pieces of a form denote its operands. -/
theorem operandsOf_pieces (h : Spaced form.pieces body) :
    (operandsOf form.opcode body).map String.ofList = form.operands := by
  cases form with
  | alu op hop d s t =>
    have hws : ∀ w ∈ [d.text, s.text, t.text], IsToken w := by
      simp [Register.isToken_text]
    have hoperands := operandsOf_intersperse (isMemory_of_isAlu hop) (List.cons_ne_nil _ _) hws h
    rw [opcode, hoperands]
    simp [Register.normalize_text, operands, Register.operand]
  | branch op hop s t k =>
    have hws : ∀ w ∈ [s.text, t.text, k.text], IsToken w := by
      simp [Register.isToken_text, Immediate.isToken]
    have hoperands := operandsOf_intersperse (isMemory_of_branch hop) (List.cons_ne_nil _ _) hws h
    rw [opcode, hoperands]
    simp [Register.normalize_text, Immediate.normalize_text, operands, Register.operand, Immediate.operand]
  | jump k =>
    have hop : Opcode.j.isMemory = false := rfl
    have hoperands := operandsOf_intersperse hop (List.cons_ne_nil _ _) (List.forall_mem_singleton.2 k.isToken) h
    rw [opcode, hoperands]
    simp [Immediate.normalize_text, operands, Immediate.operand]
  | load t k b => exact congrArg (List.map String.ofList) (operandsOf_base rfl h)
  | store t k b => exact congrArg (List.map String.ofList) (operandsOf_base rfl h)
  | nop =>
    cases h with
    | nil hgap => rw [operandsOf_of_gap hgap]; rfl

/-- An instruction with the opcode and the operands of a form is valid, and depends on the registers of the form. -/
theorem of_operands (hopcode : i.opcode = form.opcode) (hoperands : i.operands = form.operands) :
    i.isValid = true ∧ i.reads = form.reads ∧ i.writes = form.writes := by
  cases form with
  | alu op hop d s t =>
    rw [opcode] at hopcode
    simp [Instruction.isValid, Instruction.reads, Instruction.writes, Instruction.operandsAt, hopcode, hoperands,
      semantics_of_isAlu hop, operands, reads, writes, Register.isName_operand]
  | branch op hop s t k =>
    rw [opcode] at hopcode
    simp [Instruction.isValid, Instruction.reads, Instruction.writes, Instruction.operandsAt, hopcode, hoperands,
      semantics_of_branch hop, operands, reads, writes, Opcode.isAlu]
  | _ =>
    rw [opcode] at hopcode
    simp [Instruction.isValid, Instruction.reads, Instruction.writes, Instruction.operandsAt, hopcode, hoperands,
      Opcode.semantics, operands, reads, writes, Opcode.isAlu]

theorem exists_parseLine_of_written (h : form.Written line) (pc : Int) (id : String) :
    ∃ i, Program.parseLine line pc id = .ok i ∧ i.opcode = form.opcode ∧ i.operands = form.operands := by
  obtain ⟨body, hlayout, hspaced⟩ := h
  have hslash : '/' ∉ body := not_mem_body hspaced rfl rfl (by decide)
  have hhash : '#' ∉ body := not_mem_body hspaced rfl rfl (by decide)
  obtain ⟨i, hi, hopcode, hoperands⟩ := hlayout.exists_parseLine_eq_ok hslash hhash pc id
  exact ⟨i, hi, hopcode, hoperands.trans (operandsOf_pieces hspaced)⟩

/-- A part that is a register name once it is normalized is one as it stands. -/
theorem exists_register_of_normalize (h : RegisterName.isName (Program.normalize (squeeze text)) = true) :
    ∃ r : Register, r.text = squeeze text := by
  refine Register.exists_text_eq ?_ (feed_not_mem_squeeze text)
  unfold Program.normalize at h
  split at h
  · assumption
  · exact h

/-- Valid arithmetic is written with three registers. -/
theorem exists_written_of_isValid (h : Program.parseLine line pc id = .ok i) (hop : i.opcode.isAlu = true)
    (hvalid : i.isValid = true) : ∃ d s t, (alu i.opcode hop d s t).Written line := by
  obtain ⟨body, hlayout, hoperands⟩ := exists_layout h
  simp only [Instruction.isValid, semantics_of_isAlu hop, hop, hoperands, List.length_map, Bool.and_eq_true,
    decide_eq_true_eq, Bool.not_true, Bool.false_or, List.all_map, List.all_eq_true, Function.comp_apply,
    String.toList_ofList] at hvalid
  obtain ⟨hlength, hnames⟩ := hvalid
  have hgap : ¬IsGap body := by
    intro hgap
    rw [operandsOf_of_gap hgap] at hlength
    cases hlength
  -- There are as many parts as operands, and each of them is a register name before it is normalized.
  rw [operandsOf_eq hgap, parseOperands_eq_partsOf (isMemory_of_isAlu hop), partsOf] at hlength hnames
  have hregister : ∀ part ∈ splitOn ',' body, ∃ r : Register, r.text = squeeze part := fun part hpart =>
    exists_register_of_normalize (hnames _ (List.mem_map_of_mem (List.mem_map_of_mem hpart)))
  rw [List.length_map, List.length_map] at hlength
  obtain ⟨x, y, z, hparts⟩ := List.length_eq_three.1 hlength
  simp only [hparts, List.mem_cons, List.not_mem_nil, or_false, forall_eq_or_imp, forall_eq] at hregister
  obtain ⟨⟨d, hd⟩, ⟨s, hs⟩, ⟨t, ht⟩⟩ := hregister
  have hsplit : (splitOn ',' body).map squeeze = [d.text, s.text, t.text] := by
    rw [hparts, hd, hs, ht]
    rfl
  have hws : ∀ w ∈ [d.text, s.text, t.text], IsSolid w ∧ w ≠ [] := by
    simp [Register.isToken_text, IsToken.isSolid, (Register.isToken_text _).1]
  exact ⟨d, s, t, body, hlayout, spaced_intersperse hsplit hws⟩

/-- **The language of a line.** A form is read from any line on which it is written: the instruction has the opcode of
the form and its operands, with the registers in upper case; it is valid, and it reads and writes the registers that the
form does. A line that is read as valid arithmetic is one on which such a form is written. -/
theorem parseLine_written (line : List Char) (pc : Int) (id : String) :
    (∀ form : Form, form.Written line → ∃ i, Program.parseLine line pc id = .ok i ∧ i.opcode = form.opcode ∧
      i.operands = form.operands ∧ i.isValid = true ∧ i.reads = form.reads ∧ i.writes = form.writes) ∧
    (∀ i, Program.parseLine line pc id = .ok i → i.isValid = true → ∀ hop : i.opcode.isAlu = true,
      ∃ d s t, (alu i.opcode hop d s t).Written line) := by
  refine ⟨fun form hform => ?_, fun i hi hvalid hop => exists_written_of_isValid hi hop hvalid⟩
  obtain ⟨i, hi, hopcode, hoperands⟩ := exists_parseLine_of_written hform pc id
  exact ⟨i, hi, hopcode, hoperands, of_operands hopcode hoperands⟩

/-- A difference with a long s in its opcode, a digit of another script and blanks of several kinds. -/
theorem parseLine_written_sub :
    let line := "\t\u017Fub\u3000r\u0663 ,R04,\u00A0r5 // R1, (R2)".toList
    ∃ i, Program.parseLine line 0x400000 "0" = .ok i ∧ i.opcode = .sub ∧ i.operands = ["R\u0663", "R04", "R5"] ∧
      i.isValid = true ∧ i.reads = ["R04", "R5"] ∧ i.writes = ["R\u0663"] ∧
      ∃ hop d s t, (alu i.opcode hop d s t).Written line := by
  intro line
  let d : Register := ⟨'r', ['\u0663'], rfl, List.all_eq_true.1 rfl, List.cons_ne_nil _ _⟩
  let s : Register := ⟨'R', ['0', '4'], rfl, List.all_eq_true.1 rfl, List.cons_ne_nil _ _⟩
  let t : Register := ⟨'r', ['5'], rfl, List.all_eq_true.1 rfl, List.cons_ne_nil _ _⟩
  let back := [] ++ s.text ++ ([] ++ [','] ++ (['\u00A0'] ++ t.text ++ [' ']))
  let body := ['\u3000'] ++ d.text ++ ([' '] ++ [','] ++ back)
  have hline : line = ['\t'] ++ "\u017Fub".toList ++ body ++ "// R1, (R2)".toList := by
    decide +kernel
  have hform : (alu .sub rfl d s t).Written line := by
    rw [hline]
    refine ⟨body, .mk (by decide +kernel) (by decide +kernel) rfl (.inr rfl), ?_⟩
    repeat refine .cons (by decide +kernel) ?_
    exact .nil (by decide +kernel)
  obtain ⟨hread, hback⟩ := parseLine_written line 0x400000 "0"
  obtain ⟨i, hi, hopcode, hoperands, hvalid, hreads, hwrites⟩ := hread _ hform
  have hop : i.opcode.isAlu = true := by
    rw [hopcode]
    rfl
  have hsame : [d.operand, s.operand, t.operand] = ["R\u0663", "R04", "R5"] := by
    decide +kernel
  exact ⟨i, hi, hopcode, hoperands.trans hsame, hvalid, hreads.trans (congrArg List.tail hsame),
    hwrites.trans (congrArg (List.take 1) hsame), hop, hback i hi hvalid hop⟩

end Form

end FiveStage.Grammar
