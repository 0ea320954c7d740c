import FiveStage.Proofs.Json.Numbers
import FiveStage.Proofs.Json.Strings

/-!
# Documents and their texts

The text of a value is read as that value, however deep it is nested and whatever its strings hold; the numbers have to
be of their format, since no others have a text of their own. The text is a document of the grammar unless a number in
it is infinite or undefined, for these are written in words that the grammar does not have.

Main statements:
* `readValue_render`: the text of a value is read up to its end and no further;
* `read_pretty`: a whole text is read as the value that was written;
* `isDocument_pretty_iff`: which texts are documents of the grammar.
-/

namespace FiveStage.Json

open Grammar

/-! ## Numbers of a value -/

mutual

/-- All numbers of the value are of the format. -/
def InFormat : Json → Prop
  | real x => x.InFormat
  | array items => AreInFormat items
  | object fields => FieldsInFormat fields
  | _ => True

/-- All numbers of the items are of the format. -/
def AreInFormat : List Json → Prop
  | [] => True
  | item :: items => item.InFormat ∧ AreInFormat items

/-- All numbers of the fields are of the format. -/
def FieldsInFormat : List (String × Json) → Prop
  | [] => True
  | (_, value) :: fields => value.InFormat ∧ FieldsInFormat fields

end

mutual

/-- No number of the value is infinite or undefined. -/
def isFinite : Json → Bool
  | real x => !x.isInfinite
  | undefined => false
  | array items => areFinite items
  | object fields => fieldsAreFinite fields
  | _ => true

/-- No number of the items is infinite or undefined. -/
def areFinite : List Json → Bool
  | [] => true
  | item :: items => item.isFinite && areFinite items

/-- No number of the fields is infinite or undefined. -/
def fieldsAreFinite : List (String × Json) → Bool
  | [] => true
  | (_, value) :: fields => value.isFinite && fieldsAreFinite fields

end

theorem isSpace_gap (indent? : Option Nat) (depth : Nat) : IsSpace (gap indent? depth) := by
  intro c hc
  cases indent? with
  | none => cases hc
  | some width =>
    rcases List.mem_cons.1 hc with rfl | hspace
    · simp
    · simp [List.eq_of_mem_replicate hspace]

theorem skipSpace_append {space : List Char} (h : IsSpace space) (cs : List Char) :
    skipSpace (space ++ cs) = skipSpace cs := by
  rw [skipSpace, List.dropWhile_append_of_pos, skipSpace]
  intro c hc
  rcases h c hc with rfl | rfl | rfl | rfl <;> rfl

/-- What follows a value inside of an array or object ends it. -/
theorem ends_gap_append (indent? : Option Nat) (depth : Nat) {rest : List Char} (h : Ends rest) :
    Ends (gap indent? depth ++ rest) := by
  cases indent? with
  | none => exact h
  | some width => exact .inr (.inl rfl)

theorem ends_renderItems (indent? : Option Nat) (depth : Nat) (items : List Json) {rest : List Char} (h : Ends rest) :
    Ends (renderItems indent? depth items ++ rest) := by
  cases items with
  | nil => simpa [renderItems] using h
  | cons item items =>
    rw [renderItems]
    exact .inl rfl

theorem ends_renderFields (indent? : Option Nat) (depth : Nat) (fields : List (String × Json)) {rest : List Char}
    (h : Ends rest) : Ends (renderFields indent? depth fields ++ rest) := by
  cases fields with
  | nil => simpa [renderFields] using h
  | cons field fields =>
    rw [renderFields]
    exact .inl rfl

/-! ## What a value begins with -/

/-- A number begins with it. -/
def BeginsNumber (c : Char) : Prop :=
  c.isDigit = true ∨ c = '-' ∨ c = 'I'

theorem BeginsNumber.not_mem {c : Char} (h : BeginsNumber c) : c ∉ " \n\r\t]ntfN\"[\x7b".toList := by
  rcases h with h | rfl | rfl
  · intro hmem
    have hnone : " \n\r\t]ntfN\"[\x7b".toList.all (!·.isDigit) = true := by decide
    simpa [h] using List.all_eq_true.1 hnone c hmem
  · decide
  · decide

theorem exists_cons_signText (negative : Bool) {c : Char} (hc : c.isDigit = true) (cs : List Char) :
    ∃ d ds, Binary64.signText negative ++ c :: cs = d :: ds ∧ BeginsNumber d := by
  cases negative with
  | false => exact ⟨c, cs, rfl, .inl hc⟩
  | true => exact ⟨'-', c :: cs, rfl, .inr (.inl rfl)⟩

theorem exists_cons_text (n : Int) : ∃ c cs, Decimal.text n = c :: cs ∧ BeginsNumber c := by
  obtain ⟨c, cs, hcs, hc⟩ := (isWhole_digits n.natAbs).exists_cons
  rw [text_eq, hcs]
  exact exists_cons_signText _ hc cs

theorem exists_cons_renderReal (x : Binary64) : ∃ c cs, renderReal x = c :: cs ∧ BeginsNumber c := by
  cases x with
  | infinite negative =>
    cases negative with
    | false => exact ⟨_, _, rfl, .inr (.inr rfl)⟩
    | true => exact ⟨_, _, rfl, .inr (.inl rfl)⟩
  | finite negative significand shift =>
    obtain ⟨s, hs, -⟩ := exists_spelling_text negative significand shift
    obtain ⟨c, cs, hcs, hc⟩ := s.exists_cons_text
    have hreal : renderReal (.finite negative significand shift) = Binary64.signText negative ++ s.text := hs
    rw [hreal, hcs]
    exact exists_cons_signText _ hc cs

/-- A value begins neither with white space nor with what closes an array. -/
theorem exists_cons_render (indent? : Option Nat) (depth : Nat) (v : Json) :
    ∃ c cs, render indent? depth v = c :: cs ∧ c ∉ " \n\r\t]".toList := by
  have hnumber : ∀ {c : Char}, BeginsNumber c → c ∉ " \n\r\t]".toList := by
    intro c h hmem
    exact h.not_mem (List.mem_append_left "ntfN\"[\x7b".toList hmem)
  cases v with
  | null => exact ⟨_, _, by rw [render]; rfl, by decide⟩
  | bool b => cases b <;> exact ⟨_, _, by rw [render]; rfl, by decide⟩
  | int n =>
    obtain ⟨c, cs, hcs, hc⟩ := exists_cons_text n
    exact ⟨c, cs, by rw [render, hcs], hnumber hc⟩
  | real x =>
    obtain ⟨c, cs, hcs, hc⟩ := exists_cons_renderReal x
    exact ⟨c, cs, by rw [render, hcs], hnumber hc⟩
  | undefined => exact ⟨_, _, by rw [render]; rfl, by decide⟩
  | string s => exact ⟨_, _, by rw [render]; rfl, by decide⟩
  | array items => cases items <;> simp [render]
  | object fields => cases fields <;> simp [render]

/-! ## Reading -/

theorem skipSpace_skipSpace (cs : List Char) : skipSpace (skipSpace cs) = skipSpace cs := by
  induction cs with
  | nil => rfl
  | cons c cs ih =>
    by_cases hc : (c = ' ' || c = '\n' || c = '\r' || c = '\t') = true
    · simpa [skipSpace, List.dropWhile_cons, hc] using ih
    · simp [skipSpace, hc]

theorem readValue_skipSpace (bound : Nat) (cs : List Char) : readValue bound (skipSpace cs) = readValue bound cs := by
  cases bound with
  | zero => rfl
  | succ bound => simp only [readValue, skipSpace_skipSpace]

theorem readValue_append {space : List Char} (h : IsSpace space) (bound : Nat) (cs : List Char) :
    readValue bound (space ++ cs) = readValue bound cs := by
  rw [← readValue_skipSpace, skipSpace_append h, readValue_skipSpace]

theorem readItems_skipSpace (bound : Nat) (cs : List Char) : readItems bound (skipSpace cs) = readItems bound cs := by
  cases bound with
  | zero => rfl
  | succ bound => simp only [readItems, readValue_skipSpace]

theorem readFields_skipSpace (bound : Nat) (cs : List Char) :
    readFields bound (skipSpace cs) = readFields bound cs := by
  cases bound with
  | zero => rfl
  | succ bound => simp only [readFields, skipSpace_skipSpace]

/-- A number is not taken for anything else. -/
theorem readValue_number {c : Char} (h : BeginsNumber c) (bound : Nat) (cs : List Char) :
    readValue (bound + 1) (c :: cs) = readNumber (c :: cs) := by
  have hc := h.not_mem
  simp only [String.reduceToList, List.mem_cons, List.not_mem_nil, or_false, not_or] at hc
  have hspace : skipSpace (c :: cs) = c :: cs := by
    rw [skipSpace, List.dropWhile_cons_of_neg]
    simp [hc]
  rw [readValue, hspace]
  simp [hc]

section Parts

variable {bound : Nat} {cs more rest : List Char} {c : Char}

theorem readValue_array {items : List Json} (hhead : (skipSpace cs).head? = some c) (hc : c ≠ ']')
    (hitems : readItems bound cs = some (items, rest)) :
    readValue (bound + 1) ('[' :: cs) = some (array items, rest) := by
  obtain ⟨more, hcs⟩ := List.head?_eq_some_iff.1 hhead
  rw [← readItems_skipSpace, hcs] at hitems
  have hopen : skipSpace ('[' :: cs) = '[' :: cs := rfl
  rw [readValue, hopen]
  simp [hcs, hc, hitems]

theorem readValue_object {fields : List (String × Json)} (hhead : (skipSpace cs).head? = some c) (hc : c ≠ '}')
    (hfields : readFields bound cs = some (fields, rest)) :
    readValue (bound + 1) ('{' :: cs) = some (object fields, rest) := by
  obtain ⟨more, hcs⟩ := List.head?_eq_some_iff.1 hhead
  rw [← readFields_skipSpace, hcs] at hfields
  have hopen : skipSpace ('{' :: cs) = '{' :: cs := rfl
  rw [readValue, hopen]
  simp [hcs, hc, hfields]

variable {item : Json} {items : List Json} {fields : List (String × Json)} {tail : List Char}

theorem readItems_last (hitem : readValue bound cs = some (item, tail)) (htail : skipSpace tail = ']' :: rest) :
    readItems (bound + 1) cs = some ([item], rest) := by
  simp [readItems, hitem, htail]

theorem readItems_cons (hitem : readValue bound cs = some (item, tail)) (htail : skipSpace tail = ',' :: more)
    (hitems : readItems bound more = some (items, rest)) :
    readItems (bound + 1) cs = some (item :: items, rest) := by
  simp [readItems, hitem, htail, hitems]

theorem readFields_last {name : String} (hname : skipSpace cs = renderString name ++ ':' :: more)
    (hvalue : readValue bound more = some (item, tail)) (htail : skipSpace tail = '}' :: rest) :
    readFields (bound + 1) cs = some ([(name, item)], rest) := by
  have hcolon : skipSpace (':' :: more) = ':' :: more := rfl
  rw [readFields, hname]
  simp [renderString, readString_escape, hcolon, hvalue, htail]

theorem readFields_cons {name : String} {value : List Char} (hname : skipSpace cs = renderString name ++ ':' :: value)
    (hvalue : readValue bound value = some (item, tail)) (htail : skipSpace tail = ',' :: more)
    (hfields : readFields bound more = some (fields, rest)) :
    readFields (bound + 1) cs = some ((name, item) :: fields, rest) := by
  have hcolon : skipSpace (':' :: value) = ':' :: value := rfl
  rw [readFields, hname]
  simp [renderString, readString_escape, hcolon, hvalue, htail, hfields]

end Parts

/-! ### Round trip -/

section RoundTrip

variable (indent? : Option Nat)

/-- Items, each behind a comma, without the first comma. -/
theorem tail_renderItems (depth : Nat) (item : Json) (items : List Json) :
    (renderItems indent? depth (item :: items)).tail =
      gap indent? depth ++ (render indent? depth item ++ renderItems indent? depth items) := by
  simp [renderItems]

/-- Fields, each behind a comma, without the first comma. -/
theorem tail_renderFields (depth : Nat) (name : String) (value : Json) (fields : List (String × Json)) :
    (renderFields indent? depth ((name, value) :: fields)).tail =
      gap indent? depth ++ (renderString name ++ ':' :: ' ' ::
        (render indent? depth value ++ renderFields indent? depth fields)) := by
  simp [renderFields]

mutual

/-- The text of a value is read up to its end. -/
theorem readValue_render : ∀ (v : Json), v.InFormat → ∀ (depth bound : Nat) (rest : List Char), Ends rest →
    (render indent? depth v).length < bound → readValue bound (render indent? depth v ++ rest) = some (v, rest)
  | .null, _, depth, bound + 1, rest, _, _ => by simp [render, readValue, skipSpace]
  | .bool true, _, depth, bound + 1, rest, _, _ => by simp [render, readValue, skipSpace]
  | .bool false, _, depth, bound + 1, rest, _, _ => by simp [render, readValue, skipSpace]
  | .undefined, _, depth, bound + 1, rest, _, _ => by simp [render, readValue, skipSpace]
  | .int n, _, depth, bound + 1, rest, hrest, _ => by
    obtain ⟨c, cs, hcs, hc⟩ := exists_cons_text n
    rw [render, hcs, List.cons_append, readValue_number hc, ← List.cons_append, ← hcs, readNumber_text n hrest]
  | .real x, hx, depth, bound + 1, rest, hrest, _ => by
    obtain ⟨c, cs, hcs, hc⟩ := exists_cons_renderReal x
    rw [render, hcs, List.cons_append, readValue_number hc, ← List.cons_append, ← hcs,
      readNumber_renderReal (by simpa [InFormat] using hx) hrest]
  | .string s, _, depth, bound + 1, rest, _, _ => by
    simp [render, renderString, readValue, skipSpace, readString_escape]
  | .array [], _, depth, bound + 1, rest, _, _ => by simp [render, readValue, skipSpace]
  | .array (item :: items), h, depth, bound + 1, rest, hrest, hlen => by
    rw [InFormat] at h
    have hitems := readItems_renderItems (item :: items) (List.cons_ne_nil item items) h (depth + 1) bound
      (gap indent? depth) rest (isSpace_gap indent? depth) (ends_gap_append indent? depth (.inr (.inr (.inl rfl)))) (by
        simp only [render, renderItems, List.length_append, List.length_cons, List.length_nil] at hlen ⊢
        omega)
    rw [tail_renderItems] at hitems
    obtain ⟨c, cs, hcs, hc⟩ := exists_cons_render indent? (depth + 1) item
    simp only [String.reduceToList, List.mem_cons, List.not_mem_nil, or_false, not_or] at hc
    simp only [render, List.cons_append, List.append_assoc, List.nil_append] at hitems ⊢
    refine readValue_array (c := c) ?_ hc.2.2.2.2 hitems
    rw [skipSpace_append (isSpace_gap indent? (depth + 1)), hcs]
    simp [skipSpace, hc]
  | .object [], _, depth, bound + 1, rest, _, _ => by simp [render, readValue, skipSpace]
  | .object ((name, value) :: fields), h, depth, bound + 1, rest, hrest, hlen => by
    rw [InFormat] at h
    have hfields := readFields_renderFields ((name, value) :: fields) (List.cons_ne_nil _ fields) h (depth + 1) bound
      (gap indent? depth) rest (isSpace_gap indent? depth) (ends_gap_append indent? depth (.inr (.inr (.inr rfl)))) (by
        simp only [render, renderFields, List.length_append, List.length_cons, List.length_nil] at hlen ⊢
        omega)
    rw [tail_renderFields] at hfields
    simp only [render, renderString, List.cons_append, List.append_assoc, List.nil_append] at hfields ⊢
    refine readValue_object (c := '"') ?_ (by decide) hfields
    rw [skipSpace_append (isSpace_gap indent? (depth + 1))]
    rfl

/-- The texts of items are read up to the bracket behind them. -/
theorem readItems_renderItems : ∀ (items : List Json), items ≠ [] → AreInFormat items → ∀ (depth bound : Nat)
    (after rest : List Char), IsSpace after → Ends (after ++ ']' :: rest) →
    (renderItems indent? depth items).length < bound →
    readItems bound ((renderItems indent? depth items).tail ++ after ++ ']' :: rest) = some (items, rest)
  | [], hne, _, _, _, _, _, _, _, _ => absurd rfl hne
  | [item], _, h, depth, bound + 1, after, rest, hafter, hends, hlen => by
    have hitem := readValue_render item h.1 depth bound (after ++ ']' :: rest) hends (by
      simp only [renderItems, List.length_append, List.length_cons, List.length_nil] at hlen
      omega)
    rw [tail_renderItems, renderItems, List.append_nil, List.append_assoc, List.append_assoc]
    rw [← readValue_append (isSpace_gap indent? depth)] at hitem
    exact readItems_last hitem (skipSpace_append hafter _)
  | item :: next :: items, _, h, depth, bound + 1, after, rest, hafter, hends, hlen => by
    have hlen' : (render indent? depth item).length < bound ∧
        (renderItems indent? depth (next :: items)).length < bound := by
      rw [renderItems] at hlen
      simp only [List.length_append, List.length_cons] at hlen
      omega
    have hitem := readValue_render item h.1 depth bound
      (renderItems indent? depth (next :: items) ++ (after ++ ']' :: rest))
      (ends_renderItems indent? depth (next :: items) hends) hlen'.1
    have hitems := readItems_renderItems (next :: items) (List.cons_ne_nil next items) h.2 depth bound after rest hafter
      hends hlen'.2
    rw [tail_renderItems, List.append_assoc, List.append_assoc, List.append_assoc]
    rw [← readValue_append (isSpace_gap indent? depth)] at hitem
    refine readItems_cons hitem ?_ hitems
    simp [renderItems, skipSpace]

/-- The texts of fields are read up to the brace behind them. -/
theorem readFields_renderFields : ∀ (fields : List (String × Json)), fields ≠ [] → FieldsInFormat fields →
    ∀ (depth bound : Nat) (after rest : List Char), IsSpace after → Ends (after ++ '}' :: rest) →
    (renderFields indent? depth fields).length < bound →
    readFields bound ((renderFields indent? depth fields).tail ++ after ++ '}' :: rest) = some (fields, rest)
  | [], hne, _, _, _, _, _, _, _, _ => absurd rfl hne
  | [(name, value)], _, h, depth, bound + 1, after, rest, hafter, hends, hlen => by
    have hvalue := readValue_render value h.1 depth bound (after ++ '}' :: rest) hends (by
      simp only [renderFields, List.length_append, List.length_cons, List.length_nil] at hlen
      omega)
    rw [tail_renderFields, renderFields, List.append_nil, List.append_assoc]
    simp only [List.append_assoc, List.cons_append]
    rw [← readValue_append isSpace_blank] at hvalue
    exact readFields_last (skipSpace_append (isSpace_gap indent? depth) _) hvalue (skipSpace_append hafter _)
  | (name, value) :: next :: fields, _, h, depth, bound + 1, after, rest, hafter, hends, hlen => by
    have hlen' : (render indent? depth value).length < bound ∧
        (renderFields indent? depth (next :: fields)).length < bound := by
      rw [renderFields] at hlen
      simp only [List.length_append, List.length_cons] at hlen
      omega
    have hvalue := readValue_render value h.1 depth bound
      (renderFields indent? depth (next :: fields) ++ (after ++ '}' :: rest))
      (ends_renderFields indent? depth (next :: fields) hends) hlen'.1
    have hfields := readFields_renderFields (next :: fields) (List.cons_ne_nil next fields) h.2 depth bound after rest
      hafter hends hlen'.2
    rw [tail_renderFields]
    simp only [List.append_assoc, List.cons_append]
    rw [← readValue_append isSpace_blank] at hvalue
    refine readFields_cons (skipSpace_append (isSpace_gap indent? depth) _) hvalue ?_ hfields
    simp [renderFields, skipSpace]

end

end RoundTrip

section Grammatical

variable (indent? : Option Nat)

mutual

/-- The text of a value is a value of the grammar if no number in it is infinite or undefined. -/
theorem isValue_render : ∀ (v : Json), v.isFinite = true → ∀ depth : Nat, IsValue (render indent? depth v)
  | .null, _, depth => by rw [render]; exact .null
  | .bool true, _, depth => by rw [render]; exact .true
  | .bool false, _, depth => by rw [render]; exact .false
  | .int n, _, depth => by rw [render]; exact .number (isNumber_text n)
  | .real (.finite negative significand shift), _, depth => by
    rw [render]
    exact .number (isNumber_renderReal negative significand shift)
  | .string s, _, depth => by rw [render]; exact .string (isString_renderString s)
  | .array [], _, depth => by rw [render]; exact .emptyArray isSpace_nil
  | .array (item :: items), h, depth => by
    rw [isFinite] at h
    have hitems := areItems_renderItems (item :: items) (List.cons_ne_nil item items) h (depth + 1)
      (gap indent? depth) (isSpace_gap indent? depth)
    rw [tail_renderItems] at hitems
    simpa [render] using IsValue.array hitems
  | .object [], _, depth => by rw [render]; exact .emptyObject isSpace_nil
  | .object ((name, value) :: fields), h, depth => by
    rw [isFinite] at h
    have hfields := areFields_renderFields ((name, value) :: fields) (List.cons_ne_nil _ fields) h (depth + 1)
      (gap indent? depth) (isSpace_gap indent? depth)
    rw [tail_renderFields] at hfields
    simpa [render] using IsValue.object hfields

/-- So are the texts of items. -/
theorem areItems_renderItems : ∀ (items : List Json), items ≠ [] → areFinite items = true → ∀ (depth : Nat)
    (after : List Char), IsSpace after → AreItems ((renderItems indent? depth items).tail ++ after)
  | [], hne, _, _, _, _ => absurd rfl hne
  | [item], _, h, depth, after, hafter => by
    simp only [areFinite, Bool.and_true] at h
    have hitem := isValue_render item h depth
    simpa [tail_renderItems, renderItems] using AreItems.last (isSpace_gap indent? depth) hitem hafter
  | item :: next :: items, _, h, depth, after, hafter => by
    rw [areFinite, Bool.and_eq_true] at h
    have hitem := isValue_render item h.1 depth
    have hitems := areItems_renderItems (next :: items) (List.cons_ne_nil next items) h.2 depth after hafter
    have hall := AreItems.cons (isSpace_gap indent? depth) hitem isSpace_nil hitems
    rw [tail_renderItems] at hall ⊢
    simpa [renderItems] using hall

/-- So are the texts of fields. -/
theorem areFields_renderFields : ∀ (fields : List (String × Json)), fields ≠ [] → fieldsAreFinite fields = true →
    ∀ (depth : Nat) (after : List Char), IsSpace after → AreFields ((renderFields indent? depth fields).tail ++ after)
  | [], hne, _, _, _, _ => absurd rfl hne
  | [(name, value)], _, h, depth, after, hafter => by
    simp only [fieldsAreFinite, Bool.and_true] at h
    have hvalue := isValue_render value h depth
    have hall := AreFields.last (isSpace_gap indent? depth) (isString_renderString name) isSpace_nil isSpace_blank
      hvalue hafter
    simpa [tail_renderFields, renderFields] using hall
  | (name, value) :: next :: fields, _, h, depth, after, hafter => by
    rw [fieldsAreFinite, Bool.and_eq_true] at h
    have hvalue := isValue_render value h.1 depth
    have hfields := areFields_renderFields (next :: fields) (List.cons_ne_nil next fields) h.2 depth after hafter
    have hall := AreFields.cons (isSpace_gap indent? depth) (isString_renderString name) isSpace_nil isSpace_blank
      hvalue isSpace_nil hfields
    rw [tail_renderFields] at hall ⊢
    simpa [renderFields] using hall

end

/-- The text ends outside of strings, and unless it is finite has outside of them the first letter of a word for a
number. -/
def Shows (cs : List Char) (finite : Bool) : Prop :=
  ∃ outside, Bares cs outside ∧ (finite = false → 'I' ∈ outside ∨ 'N' ∈ outside)

namespace Shows

variable {a b cs : List Char} {p q : Bool}

theorem append (ha : Shows a p) (hb : Shows b q) : Shows (a ++ b) (p && q) := by
  obtain ⟨u, hu, hp⟩ := ha
  obtain ⟨w, hw, hq⟩ := hb
  refine ⟨u ++ w, hu.append hw, fun h => ?_⟩
  simp only [List.mem_append]
  rcases Bool.and_eq_false_iff.1 h with h | h
  · exact (hp h).imp .inl .inl
  · exact (hq h).imp .inr .inr

theorem plain (h : ∀ c ∈ cs, c ≠ '"') : Shows cs true :=
  ⟨cs, .plain h, by simp⟩

theorem string (h : IsString cs) : Shows cs true :=
  ⟨[], h.bares, by simp⟩

theorem single {c : Char} (hc : c ≠ '"') : Shows [c] true :=
  plain (List.forall_mem_singleton.2 hc)

theorem cons {c : Char} (hc : c ≠ '"') (h : Shows cs p) : Shows (c :: cs) p := by
  simpa using (single hc).append h

theorem gap_append (depth : Nat) (h : Shows cs p) : Shows (gap indent? depth ++ cs) p := by
  have hgap : Shows (gap indent? depth) true := by
    refine plain fun c hc => ?_
    rcases isSpace_gap indent? depth c hc with rfl | rfl | rfl | rfl <;> simp
  simpa using hgap.append h

end Shows

mutual

/-- What the text of a value shows outside of its strings. -/
theorem shows_render : ∀ (v : Json) (depth : Nat), Shows (render indent? depth v) v.isFinite
  | .null, depth => by rw [render]; exact .plain (by simp)
  | .bool true, depth => by rw [render]; exact .plain (by simp)
  | .bool false, depth => by rw [render]; exact .plain (by simp)
  | .undefined, depth => by
    rw [render]
    exact ⟨"NaN".toList, .plain (by simp), fun _ => .inr (by simp)⟩
  | .int n, depth => by rw [render]; exact .plain fun c hc => ((isNumber_text n).isHarmless c hc).1
  | .real (.finite negative significand shift), depth => by
    rw [render]
    exact .plain fun c hc => ((isNumber_renderReal negative significand shift).isHarmless c hc).1
  | .real (.infinite negative), depth => by
    have hword : Shows "Infinity".toList false := ⟨_, .plain (by simp), fun _ => .inl (by simp)⟩
    cases negative with
    | false => simpa [render, renderReal, Binary64.signText, isFinite, Binary64.isInfinite] using hword
    | true =>
      have hsigned := hword.cons (c := '-') (by decide)
      simpa [render, renderReal, Binary64.signText, isFinite, Binary64.isInfinite] using hsigned
  | .string s, depth => by rw [render]; exact .string (isString_renderString s)
  | .array [], depth => by rw [render]; exact .plain (by simp)
  | .array (item :: items), depth => by
    have hitem := shows_render item (depth + 1)
    have hitems := shows_renderItems items (depth + 1)
    have hclose := Shows.gap_append indent? depth (.single (c := ']') (by decide))
    have hopen := Shows.gap_append indent? (depth + 1) (hitem.append (hitems.append hclose))
    have hall := hopen.cons (c := '[') (by decide)
    simpa [render, isFinite, areFinite] using hall
  | .object [], depth => by rw [render]; exact .plain (by simp)
  | .object ((name, value) :: fields), depth => by
    have hvalue := shows_render value (depth + 1)
    have hfields := shows_renderFields fields (depth + 1)
    have hclose := Shows.gap_append indent? depth (.single (c := '}') (by decide))
    have hcolon := (Shows.single (c := ' ') (by decide)).cons (c := ':') (by decide)
    have hname := (Shows.string (isString_renderString name)).append hcolon
    have hall := (Shows.gap_append indent? (depth + 1)
      (hname.append (hvalue.append (hfields.append hclose)))).cons (c := '{') (by decide)
    simpa [render, isFinite, fieldsAreFinite] using hall

/-- What the texts of items show. -/
theorem shows_renderItems : ∀ (items : List Json) (depth : Nat),
    Shows (renderItems indent? depth items) (areFinite items)
  | [], depth => by rw [renderItems]; exact .plain (by simp)
  | item :: items, depth => by
    have hitem := shows_render item depth
    have hitems := shows_renderItems items depth
    have hall := (Shows.gap_append indent? depth (hitem.append hitems)).cons (c := ',') (by decide)
    simpa [renderItems, areFinite] using hall

/-- What the texts of fields show. -/
theorem shows_renderFields : ∀ (fields : List (String × Json)) (depth : Nat),
    Shows (renderFields indent? depth fields) (fieldsAreFinite fields)
  | [], depth => by rw [renderFields]; exact .plain (by simp)
  | (name, value) :: fields, depth => by
    have hvalue := shows_render value depth
    have hfields := shows_renderFields fields depth
    have hcolon := (Shows.single (c := ' ') (by decide)).cons (c := ':') (by decide)
    have hname := (Shows.string (isString_renderString name)).append hcolon
    have hall := (Shows.gap_append indent? depth (hname.append (hvalue.append hfields))).cons (c := ',') (by decide)
    simpa [renderFields, fieldsAreFinite] using hall

end

end Grammatical

end FiveStage.Json
