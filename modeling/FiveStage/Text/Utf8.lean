/-!
# UTF-8

Reading bytes as text. Every sequence of the encoding is read at its shortest, surrogates and code points above
U+10FFFF are refused, and a refusal names the bytes it is about.
-/

namespace FiveStage.Text.Utf8

/-- Why bytes are no text. -/
inductive Reason
  | startByte
  | continuationByte
  | endOfData
  deriving DecidableEq, Repr

/-- The refused bytes: where they begin, how many they are, and the first of them. -/
structure Error where
  position : Nat
  count : Nat
  byte : Nat
  reason : Reason
  deriving DecidableEq, Repr

/-- What the reason is called. -/
def Reason.text : Reason → String
  | .startByte => "invalid start byte"
  | .continuationByte => "invalid continuation byte"
  | .endOfData => "unexpected end of data"

/-- A byte as two hexadecimal digits. -/
def hexByte (n : Nat) : String :=
  String.ofList (Nat.toDigits 16 (n / 16) ++ Nat.toDigits 16 (n % 16))

/-- The message about refused bytes. -/
def Error.message (e : Error) : String :=
  if e.count = 1 then
    "'utf-8' codec can't decode byte 0x" ++ hexByte e.byte ++ " in position " ++ toString e.position ++ ": " ++
      e.reason.text
  else
    "'utf-8' codec can't decode bytes in position " ++ toString e.position ++ "-" ++
      toString (e.position + e.count - 1) ++ ": " ++ e.reason.text

/-- How many bytes follow a first byte, and the bounds of the second byte. -/
def tails? (first : Nat) : Option (Nat × Nat × Nat) :=
  if first < 0xC2 then none
  else if first < 0xE0 then some (1, 0x80, 0xBF)
  else if first = 0xE0 then some (2, 0xA0, 0xBF)
  else if first = 0xED then some (2, 0x80, 0x9F)
  else if first < 0xF0 then some (2, 0x80, 0xBF)
  else if first = 0xF0 then some (3, 0x90, 0xBF)
  else if first < 0xF4 then some (3, 0x80, 0xBF)
  else if first = 0xF4 then some (3, 0x80, 0x8F)
  else none

/-- The bits that a first byte with so many followers carries. -/
def leadBits (followers first : Nat) : Nat :=
  first % Nat.pow 2 (6 - followers)

/-- Reads bytes, given where they begin, the sequence being read (its first byte, its length so far and its bits) and
what is still due to it: a number of bytes and the bounds of the next. -/
def decodeFrom (position : Nat) (open? : Option (Nat × Nat × Nat)) (due low high : Nat) :
    List Nat → Except Error (List Char)
  | [] =>
    match open? with
    | some (first, count, _) => .error ⟨position - count, count, first, .endOfData⟩
    | none => .ok []
  | b :: rest =>
    match open? with
    | some (first, count, bits) =>
      if low ≤ b && b ≤ high then
        let bits := bits * 64 + b % 64
        if due = 1 then
          (decodeFrom (position + 1) none 0 0 0 rest).map (Char.ofNat bits :: ·)
        else decodeFrom (position + 1) (some (first, count + 1, bits)) (due - 1) 0x80 0xBF rest
      else .error ⟨position - count, count, first, .continuationByte⟩
    | none =>
      if b < 0x80 then (decodeFrom (position + 1) none 0 0 0 rest).map (Char.ofNat b :: ·)
      else
        match tails? b with
        | some (followers, low, high) =>
          decodeFrom (position + 1) (some (b, 1, leadBits followers b)) followers low high rest
        | none => .error ⟨position, 1, b, .startByte⟩

/-- The text that the bytes encode. -/
def decode (bytes : List Nat) : Except Error (List Char) :=
  decodeFrom 0 none 0 0 0 bytes

end FiveStage.Text.Utf8
