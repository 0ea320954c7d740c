import FiveStage.Json

/-!
# Values in running text

How a JSON value is shown in the middle of a text. A string stands for itself, and inside of an array or object it
stands between quotes.

Main statement: `display_string`, by which a string is shown as it is.
-/

namespace FiveStage.Json

mutual

/-- The text of a value inside of another one. -/
def inner : Json → List Char
  | null => "None".toList
  | bool b => (if b then "True" else "False").toList
  | int n => Decimal.text n
  | real x => x.text
  | undefined => "nan".toList
  | string s => Text.quoted s.toList
  | array items => '[' :: innerItems items ++ [']']
  | object fields => '\x7b' :: innerFields fields ++ ['\x7d']

/-- The texts of the items of an array, with commas between them. -/
def innerItems : List Json → List Char
  | [] => []
  | [item] => inner item
  | item :: items => inner item ++ ", ".toList ++ innerItems items

/-- The texts of the fields of an object, with commas between them. -/
def innerFields : List (String × Json) → List Char
  | [] => []
  | [(name, value)] => Text.quoted name.toList ++ ": ".toList ++ inner value
  | (name, value) :: fields =>
    Text.quoted name.toList ++ ": ".toList ++ inner value ++ ", ".toList ++ innerFields fields

end

/-- The text of a value. -/
def display : Json → String
  | string s => s
  | v => String.ofList v.inner

theorem display_string (s : String) : (string s).display = s := rfl

end FiveStage.Json
