import FiveStage.Binary64.Shortest
import FiveStage.Text.Quoted

/-!
# JSON documents

Values of the data format JSON and their texts. The fields of an object keep their order, integers have any size, and
all other numbers are values of `Binary64` or undefined. A text is made of printable characters of ASCII, everything
else being escaped; with an indent every item and every field stands on a line of its own.

Main statements:
* `render_array_nil`, `render_object_nil`: what is empty takes no line;
* `escape_append`: a string is escaped character by character.
-/

namespace FiveStage

/-- A JSON value. -/
inductive Json
  | null
  | bool (value : Bool)
  | int (value : Int)
  | real (value : Binary64)
  | undefined
  | string (value : String)
  | array (items : List Json)
  | object (fields : List (String × Json))
  deriving Repr

namespace Json

/-- The name of the kind of a value in messages. -/
def kindName : Json → String
  | null => "NoneType"
  | bool _ => "bool"
  | int _ => "int"
  | real _ | undefined => "float"
  | string _ => "str"
  | array _ => "list"
  | object _ => "dict"

/-- A value counts as true unless it is empty, zero, false or missing. -/
def isTruthy : Json → Bool
  | null => false
  | bool b => b
  | int n => n ≠ 0
  | real x => x.isInfinite || x.units ≠ 0
  | undefined => true
  | string s => s ≠ ""
  | array items => !items.isEmpty
  | object fields => !fields.isEmpty

/-- The value of the first field with a name. -/
def get? (name : String) : Json → Option Json
  | object fields => fields.lookup name
  | _ => none

/-- The number of fields. -/
def fieldCount : Json → Nat
  | object fields => fields.length
  | _ => 0

/-! ## Strings -/

/-- A 16-bit unit as an escape sequence. -/
def escapeUnit (n : Nat) : List Char :=
  '\\' :: 'u' :: Text.hex 4 n

/-- One character inside a string. A character above U+FFFF is written as two units. -/
def escapeChar (c : Char) : List Char :=
  if c = '"' ∨ c = '\\' then ['\\', c]
  else if c = '\n' then ['\\', 'n']
  else if c = '\r' then ['\\', 'r']
  else if c = '\t' then ['\\', 't']
  else if c = '\x08' then ['\\', 'b']
  else if c = '\x0c' then ['\\', 'f']
  else if ' ' ≤ c ∧ c ≤ '~' then [c]
  else if c.toNat < 0x10000 then escapeUnit c.toNat
  else
    let n := c.toNat - 0x10000
    escapeUnit (0xD800 + n / 0x400) ++ escapeUnit (0xDC00 + n % 0x400)

/-- The characters inside a string. -/
def escape (cs : List Char) : List Char :=
  cs.flatMap escapeChar

theorem escape_append (a b : List Char) : escape (a ++ b) = escape a ++ escape b := by
  simp [escape]

/-- A string between quotes. -/
def renderString (s : String) : List Char :=
  '"' :: escape s.toList ++ ['"']

/-! ## Numbers -/

/-- A number that is no integer. -/
def renderReal : Binary64 → List Char
  | .infinite negative => Binary64.signText negative ++ "Infinity".toList
  | x => x.text

/-! ## Documents -/

/-- The break between the parts of an array or object: with an indent, a new line and an indent for each level. -/
def gap (indent? : Option Nat) (depth : Nat) : List Char :=
  match indent? with
  | none => []
  | some width => '\n' :: List.replicate (width * depth) ' '

mutual

/-- The text of a value at a depth. -/
def render (indent? : Option Nat) (depth : Nat) : Json → List Char
  | null => "null".toList
  | bool true => "true".toList
  | bool false => "false".toList
  | int n => Decimal.text n
  | real x => renderReal x
  | undefined => "NaN".toList
  | string s => renderString s
  | array [] => ['[', ']']
  | array (item :: items) =>
    '[' :: gap indent? (depth + 1) ++ render indent? (depth + 1) item ++ renderItems indent? (depth + 1) items ++
      gap indent? depth ++ [']']
  | object [] => ['{', '}']
  | object ((name, value) :: fields) =>
    '{' :: gap indent? (depth + 1) ++ renderString name ++ [':', ' '] ++ render indent? (depth + 1) value ++
      renderFields indent? (depth + 1) fields ++ gap indent? depth ++ ['}']

/-- The texts of further items, each behind a comma. -/
def renderItems (indent? : Option Nat) (depth : Nat) : List Json → List Char
  | [] => []
  | item :: items =>
    ',' :: gap indent? depth ++ render indent? depth item ++ renderItems indent? depth items

/-- The texts of further fields, each behind a comma. -/
def renderFields (indent? : Option Nat) (depth : Nat) : List (String × Json) → List Char
  | [] => []
  | (name, value) :: fields =>
    ',' :: gap indent? depth ++ renderString name ++ [':', ' '] ++ render indent? depth value ++
      renderFields indent? depth fields

end

theorem render_array_nil (indent? : Option Nat) (depth : Nat) : render indent? depth (array []) = ['[', ']'] := by
  simp [render]

theorem render_object_nil (indent? : Option Nat) (depth : Nat) : render indent? depth (object []) = ['{', '}'] := by
  simp [render]

/-- The text on one line. -/
def compact (v : Json) : String :=
  String.ofList (v.render none 0)

/-- The text with two spaces of indent for each level. -/
def pretty (v : Json) : String :=
  String.ofList (v.render (some 2) 0)

mutual

/-- All integers of the value have a decimal text that may be written. -/
def isWritable : Json → Bool
  | int n => decide (Decimal.Writable n)
  | array items => areWritable items
  | object fields => areFieldsWritable fields
  | _ => true

/-- All items are writable. -/
def areWritable : List Json → Bool
  | [] => true
  | item :: items => item.isWritable && areWritable items

/-- All values of the fields are writable. -/
def areFieldsWritable : List (String × Json) → Bool
  | [] => true
  | (_, value) :: fields => value.isWritable && areFieldsWritable fields

end

end Json

end FiveStage
