import FiveStage.Json

/-!
# Reading JSON

From a text back to the value. White space is allowed between all parts of a document. A number with a point or an
exponent is a value of `Binary64`, any other is an integer.

Main statement: `readString_plain`, by which a character that needs no escape stands for itself.
-/

namespace FiveStage.Json

/-- The text without the white space at its front. -/
def skipSpace (cs : List Char) : List Char :=
  cs.dropWhile fun c => c = ' ' || c = '\n' || c = '\r' || c = '\t'

/-! ## Strings -/

/-- The number that four hexadecimal digits denote. -/
def unit? (a b c d : Char) : Option Nat :=
  match Numeral.digitValue? 16 a, Numeral.digitValue? 16 b, Numeral.digitValue? 16 c, Numeral.digitValue? 16 d with
  | some w, some x, some y, some z => some (((w * 16 + x) * 16 + y) * 16 + z)
  | _, _, _, _ => none

/-- The character that a letter stands for behind a backslash. -/
def escaped? : Char → Option Char
  | '"' => some '"'
  | '\\' => some '\\'
  | '/' => some '/'
  | 'b' => some '\x08'
  | 'f' => some '\x0c'
  | 'n' => some '\n'
  | 'r' => some '\r'
  | 't' => some '\t'
  | _ => none

/-- A character in front of what has been read. -/
def push (c : Char) : Option (List Char × List Char) → Option (List Char × List Char)
  | some (read, rest) => some (c :: read, rest)
  | none => none

/-- The characters up to the quote that ends a string, and what follows the quote. -/
def readString : List Char → Option (List Char × List Char)
  | [] => none
  | '"' :: rest => some ([], rest)
  | '\\' :: 'u' :: a :: b :: c :: d :: rest =>
    match unit? a b c d with
    | none => none
    | some n =>
      if 0xD800 ≤ n ∧ n < 0xDC00 then
        match rest with
        | '\\' :: 'u' :: e :: f :: g :: h :: rest =>
          match unit? e f g h with
          | none => none
          | some m =>
            if 0xDC00 ≤ m ∧ m < 0xE000 then
              push (Char.ofNat (0x10000 + (n - 0xD800) * 0x400 + (m - 0xDC00))) (readString rest)
            else none
        | _ => none
      else push (Char.ofNat n) (readString rest)
  | '\\' :: c :: rest =>
    match escaped? c with
    | some e => push e (readString rest)
    | none => none
  | c :: rest => push c (readString rest)

theorem readString_plain {c : Char} (hq : c ≠ '"') (hb : c ≠ '\\') (rest : List Char) :
    readString (c :: rest) = push c (readString rest) := by
  rw [readString]
  · exact hq
  · intro a b c' d r h _
    exact hb h
  · intro c' r h _
    exact hb h

/-! ## Numbers -/

/-- The decimal digits that a text begins with, and the rest. -/
def spanDigits (cs : List Char) : List Char × List Char :=
  (cs.takeWhile Char.isDigit, cs.dropWhile Char.isDigit)

/-- The number that decimal digits denote. -/
def digitsValue (cs : List Char) : Nat :=
  Numeral.valueOf 10 (cs.map fun c => c.toNat - 48)

/-- An exponent and the rest; without a mark the exponent is absent. -/
def readExponent : List Char → Option Int × List Char
  | mark :: rest =>
    if mark = 'e' ∨ mark = 'E' then
      let (negative, rest) :=
        match rest with
        | '-' :: rest => (true, rest)
        | '+' :: rest => (false, rest)
        | rest => (false, rest)
      let (digits, rest) := spanDigits rest
      let n := digitsValue digits
      (some (if negative then -(n : Int) else n), rest)
    else (none, mark :: rest)
  | [] => (none, [])

/-- A magnitude with its sign. -/
def readMagnitude (negative : Bool) (cs : List Char) : Option (Json × List Char) :=
  let (whole, rest) := spanDigits cs
  if whole.isEmpty then none
  else
    let (fraction?, rest) :=
      match rest with
      | '.' :: rest => (some (spanDigits rest).1, (spanDigits rest).2)
      | rest => (none, rest)
    let (exponent?, rest) := readExponent rest
    if fraction?.isNone && exponent?.isNone then
      some (int (if negative then -(digitsValue whole : Int) else digitsValue whole), rest)
    else
      let fraction := fraction?.getD []
      let exponent := exponent?.getD 0 - fraction.length
      some (real (Binary64.ofScientific negative (digitsValue (whole ++ fraction)) exponent), rest)

/-- A number and the rest. -/
def readNumber : List Char → Option (Json × List Char)
  | '-' :: 'I' :: 'n' :: 'f' :: 'i' :: 'n' :: 'i' :: 't' :: 'y' :: rest => some (real (.infinite true), rest)
  | 'I' :: 'n' :: 'f' :: 'i' :: 'n' :: 'i' :: 't' :: 'y' :: rest => some (real (.infinite false), rest)
  | '-' :: rest => readMagnitude true rest
  | rest => readMagnitude false rest

/-! ## Documents -/

mutual

/-- The value that a text begins with and the rest, within a bound on the nesting and the number of parts. -/
def readValue : Nat → List Char → Option (Json × List Char)
  | 0, _ => none
  | bound + 1, cs =>
    match skipSpace cs with
    | 'n' :: 'u' :: 'l' :: 'l' :: rest => some (null, rest)
    | 't' :: 'r' :: 'u' :: 'e' :: rest => some (bool true, rest)
    | 'f' :: 'a' :: 'l' :: 's' :: 'e' :: rest => some (bool false, rest)
    | 'N' :: 'a' :: 'N' :: rest => some (undefined, rest)
    | '"' :: rest => (readString rest).map fun (s, rest) => (string (String.ofList s), rest)
    | '[' :: rest =>
      match skipSpace rest with
      | ']' :: rest => some (array [], rest)
      | rest => (readItems bound rest).map fun (items, rest) => (array items, rest)
    | '{' :: rest =>
      match skipSpace rest with
      | '}' :: rest => some (object [], rest)
      | rest => (readFields bound rest).map fun (fields, rest) => (object fields, rest)
    | cs => readNumber cs

/-- The items up to the bracket that ends an array, and the rest. -/
def readItems : Nat → List Char → Option (List Json × List Char)
  | 0, _ => none
  | bound + 1, cs =>
    match readValue bound cs with
    | none => none
    | some (item, rest) =>
      match skipSpace rest with
      | ',' :: rest => (readItems bound rest).map fun (items, rest) => (item :: items, rest)
      | ']' :: rest => some ([item], rest)
      | _ => none

/-- The fields up to the brace that ends an object, and the rest. -/
def readFields : Nat → List Char → Option (List (String × Json) × List Char)
  | 0, _ => none
  | bound + 1, cs =>
    match skipSpace cs with
    | '"' :: rest =>
      match readString rest with
      | none => none
      | some (name, rest) =>
        match skipSpace rest with
        | ':' :: rest =>
          match readValue bound rest with
          | none => none
          | some (value, rest) =>
            let field := (String.ofList name, value)
            match skipSpace rest with
            | ',' :: rest => (readFields bound rest).map fun (fields, rest) => (field :: fields, rest)
            | '}' :: rest => some ([field], rest)
            | _ => none
        | _ => none
    | _ => none

end

/-- The value of a whole text. Each part takes a character, so the length of the text bounds their number. -/
def read (text : String) : Option Json :=
  match readValue (text.length + 1) text.toList with
  | some (value, rest) => if (skipSpace rest).isEmpty then some value else none
  | none => none

end FiveStage.Json
