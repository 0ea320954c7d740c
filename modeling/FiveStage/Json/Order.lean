import FiveStage.Number

/-!
# Comparing documents

When two JSON values are the same, and which of two is less. Numbers are compared by what they denote, texts and lists
from their beginnings; the order of the fields of an object does not count.

Main statements:
* `same_int`, `less_int`: integers are compared as integers;
* `exceeds_int`: so are an integer and a bound.
-/

namespace FiveStage.Json

mutual

/-- The values are the same. -/
def same : Json → Json → Bool
  | null, null => true
  | string a, string b => a = b
  | array a, array b => sameItems a b
  | object a, object b => a.length = b.length && sameFields a b
  | x, y =>
    match Number.ofJson? x, Number.ofJson? y with
    | some m, some n => m.same n
    | _, _ => false

/-- The items are the same, one after another. -/
def sameItems : List Json → List Json → Bool
  | [], [] => true
  | x :: xs, y :: ys => x.same y && sameItems xs ys
  | _, _ => false

/-- Each field has the same value among the other fields. -/
def sameFields : List (String × Json) → List (String × Json) → Bool
  | [], _ => true
  | (name, x) :: rest, fields =>
    (match fields.lookup name with
      | some y => x.same y
      | none => false) && sameFields rest fields

end

mutual

/-- The first value is less than the second. -/
def less : Json → Json → Except Misuse Bool
  | string a, string b => .ok (a < b)
  | array a, array b => lessItems a b
  | x, y =>
    match Number.ofJson? x, Number.ofJson? y with
    | some m, some n => .ok (m.lt n)
    | _, _ => .error (.compared "<" x.kindName y.kindName)

/-- The first items that are not the same decide, and if there are none the lengths. -/
def lessItems : List Json → List Json → Except Misuse Bool
  | [], ys => .ok !ys.isEmpty
  | _ :: _, [] => .ok false
  | x :: xs, y :: ys => if x.same y then lessItems xs ys else x.less y

end

/-- The value is greater than an integer. -/
def exceeds (x : Json) (n : Int) : Except Misuse Bool :=
  match Number.ofJson? x with
  | some m => .ok ((Number.int n).lt m)
  | none => .error (.compared ">" x.kindName "int")

@[simp]
theorem same_int (m n : Int) : same (int m) (int n) = decide (m = n) := by
  simp [same, Number.ofJson?]

@[simp]
theorem less_int (m n : Int) : less (int m) (int n) = .ok (decide (m < n)) := by
  simp [less, Number.ofJson?]

@[simp]
theorem exceeds_int (m n : Int) : exceeds (int m) n = .ok (decide (n < m)) := rfl

end FiveStage.Json
