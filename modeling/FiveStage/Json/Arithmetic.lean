import FiveStage.Bitwise
import FiveStage.Number

/-!
# Computing with documents

Sums, differences and bits of JSON values. Numbers are computed with as numbers; a text can be put behind a text, a list
behind a list, and an object can take over the fields of another one. Everything else is a misuse.

Main statements:
* `plus_int`, `minus_int`, `increase_int`: integers are computed with as integers;
* `plus_array`: lists are put one behind the other.
-/

namespace FiveStage.Json

/-- The sum. -/
def plus (x y : Json) : Except Misuse Json :=
  match Number.ofJson? x, Number.ofJson? y with
  | some m, some n => (m.add n).map Number.toJson
  | _, _ =>
    match x, y with
    | string a, string b => .ok (string (a ++ b))
    | array a, array b => .ok (array (a ++ b))
    | string _, y => .error (.joined "str" y.kindName)
    | array _, y => .error (.joined "list" y.kindName)
    | x, y => .error (.operands "+" x.kindName y.kindName)

/-- The value after an integer has been added to it. A list takes items, and an integer has none. -/
def increase (x : Json) (n : Int) : Except Misuse Json :=
  match Number.ofJson? x with
  | some m => (m.add (.int n)).map Number.toJson
  | none =>
    match x with
    | string _ => .error (.joined "str" "int")
    | array _ => .error (.notIterable "int")
    | x => .error (.operands "+=" x.kindName "int")

/-- The difference. -/
def minus (x y : Json) : Except Misuse Json :=
  match Number.ofJson? x, Number.ofJson? y with
  | some m, some n => (m.sub n).map Number.toJson
  | _, _ => .error (.operands "-" x.kindName y.kindName)

/-- The integer that a value is, if it is one; a truth value is zero or one. -/
def integer? (x : Json) : Option Int :=
  (Number.ofJson? x).bind Number.integer?

/-- What an operation makes of two truth values, or else another one of two integers. -/
def bits (sign : String) (onTruth : Bool → Bool → Bool) (onIntegers : Int → Int → Int) (x y : Json) :
    Except Misuse Json :=
  match x, y with
  | bool a, bool b => .ok (bool (onTruth a b))
  | _, _ =>
    match x.integer?, y.integer? with
    | some m, some n => .ok (int (onIntegers m n))
    | _, _ => .error (.operands sign x.kindName y.kindName)

/-- The common bits. -/
def conj : Json → Json → Except Misuse Json :=
  bits "&" and Bitwise.conj

/-- The fields with a further one. A field of its name is replaced. -/
def putField (name : String) (value : Json) : List (String × Json) → List (String × Json)
  | [] => [(name, value)]
  | (other, old) :: rest => if other = name then (name, value) :: rest else (other, old) :: putField name value rest

/-- The bits of both together. An object takes over the fields of another one. -/
def disj (x y : Json) : Except Misuse Json :=
  match x, y with
  | object a, object b => .ok (object (b.foldl (fun fields (name, value) => putField name value fields) a))
  | _, _ => bits "|" or Bitwise.disj x y

@[simp]
theorem plus_int (m n : Int) : plus (int m) (int n) = .ok (int (m + n)) := rfl

@[simp]
theorem increase_int (m n : Int) : increase (int m) n = .ok (int (m + n)) := rfl

@[simp]
theorem minus_int (m n : Int) : minus (int m) (int n) = .ok (int (m - n)) := rfl

@[simp]
theorem plus_array (a b : List Json) : plus (array a) (array b) = .ok (array (a ++ b)) := rfl

end FiveStage.Json
